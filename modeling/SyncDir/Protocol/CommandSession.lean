import SyncDir.Client.IoThread
import SyncDir.Library.Transition
import SyncDir.Server.Device

/-!
# Command sessions

The IO thread of a client and the command thread of its device at the server
talk over one connection.  A session consists of both threads, the packets in
flight in both directions, and the lines that the user will type.  The command
thread sends the packets of one round one after the other, so that the client
can already react to the first of them; it takes the next packet of the client
when the round is over.  The server's directory does not change.
-/

namespace SyncDir

open Client Device NetworkManager

structure CommandSession where
  client : IoThread
  input : List Line
  toServer : List Packet
  /-- What the command thread has still to send in its round. -/
  sending : List Packet
  toClient : List Packet
  /-- The command thread has ended with an exception. -/
  stopped : Bool

namespace CommandSession

/-- The beginning of a session, with both threads waiting. -/
def start (curr_directory sync_dir : Directory) (input : List Line) : CommandSession :=
  { client := { curr_directory, sync_dir, mode := .getline }, input, toServer := [],
    sending := [], toClient := [], stopped := false }

inductive Event
  | readLine
  | serve
  | send
  | receive

/-- The IO thread is in `receivePacket`. -/
def awaitsPacket : IoMode → Bool
  | .response .. | .receivingFile _ | .receivingList => true
  | _ => false

section

variable (server : Directory) (getFiles : Bytes)

/-- The next line of the input, whose end also ends the thread. -/
def readLine (session : CommandSession) : Option CommandSession :=
  if session.client.mode = .getline then
    match session.input with
    | [] => some { session with client := { session.client with mode := .finished } }
    | line :: input =>
        match (handleLine session.client line).on (.healthy session.toServer) with
        | (.ok client, connection) =>
            some { session with client, input, toServer := connection.arrived }
        | (.error exception, connection) =>
            some { session with
              client := { session.client with mode := .terminated exception }
              input
              toServer := connection.arrived }
  else none

/-- A round of the command thread begins. -/
def serve (session : CommandSession) : Option CommandSession :=
  match session.stopped, session.sending, session.toServer with
  | false, [], pkt :: toServer =>
      let round := (handleCommand ⟨pkt, server, server, getFiles⟩).on (.healthy [])
      some { session with toServer, sending := round.2.arrived, stopped := !round.1.isOk }
  | _, _, _ => none

def send (session : CommandSession) : Option CommandSession :=
  match session.sending with
  | [] => none
  | pkt :: sending => some { session with sending, toClient := session.toClient ++ [pkt] }

def receive (session : CommandSession) : Option CommandSession :=
  match awaitsPacket session.client.mode, session.toClient with
  | true, pkt :: toClient =>
      some { session with client := handleIoPacket session.client pkt, toClient }
  | _, _ => none

def step (session : CommandSession) : Event → Option CommandSession
  | .readLine => readLine session
  | .serve => serve server getFiles session
  | .send => send session
  | .receive => receive session

end

/-! ### Sessions end -/

/-- The lines that are left, and one more for the end of the input. -/
def linesLeft (session : CommandSession) : ℕ :=
  match session.client.mode with
  | .finished | .terminated _ => session.input.length
  | _ => session.input.length + 1

/-- What is left of a session: lines, then packets to the server, then packets to the client, which
count twice until they have been sent. -/
def workLeft (session : CommandSession) : ℕ ×ₗ ℕ ×ₗ ℕ :=
  toLex (session.linesLeft, toLex (session.toServer.length,
    2 * session.sending.length + session.toClient.length))

variable {server : Directory} {getFiles : Bytes} {session next : CommandSession}

theorem workLeft_readLine (performed : readLine session = some next) :
    next.workLeft < session.workLeft := by
  unfold readLine at performed
  split at performed
  case isTrue waiting =>
    rw [workLeft, workLeft, Prod.Lex.toLex_lt_toLex]
    left
    split at performed
    case h_1 ended =>
      cases performed
      simp [linesLeft, waiting, ended]
    case h_2 line input lines =>
      split at performed
      case h_1 client connection _ =>
        cases performed
        simp only [linesLeft, waiting, lines, List.length_cons]
        split <;> omega
      case h_2 exception connection _ =>
        cases performed
        simp only [linesLeft, waiting, lines, List.length_cons]
        omega
  case isFalse => cases performed

theorem workLeft_serve (performed : serve server getFiles session = some next) :
    next.workLeft < session.workLeft := by
  unfold serve at performed
  split at performed
  case h_1 pkt toServer _ _ waiting =>
    cases performed
    simp [workLeft, linesLeft, Prod.Lex.toLex_lt_toLex, waiting]
  case h_2 => cases performed

theorem workLeft_send (performed : send session = some next) :
    next.workLeft < session.workLeft := by
  unfold send at performed
  split at performed
  case h_1 => cases performed
  case h_2 pkt sending unsent =>
    cases performed
    simp [workLeft, linesLeft, Prod.Lex.toLex_lt_toLex, unsent]
    omega

theorem workLeft_receive (performed : receive session = some next) :
    next.workLeft < session.workLeft := by
  unfold receive at performed
  split at performed
  case h_1 pkt toClient waiting arrived =>
    cases performed
    have lines : linesLeft { session with client := handleIoPacket session.client pkt, toClient } ≤
        linesLeft session := by
      have before : linesLeft session = session.input.length + 1 := by
        unfold linesLeft
        split <;> simp_all [awaitsPacket]
      rw [before]
      unfold linesLeft
      split <;> simp
    rw [workLeft, workLeft, Prod.Lex.toLex_lt_toLex]
    rcases lines.lt_or_eq with fewer | same
    · exact Or.inl fewer
    · right
      refine ⟨same, ?_⟩
      simp [Prod.Lex.toLex_lt_toLex, arrived]
  case h_2 => cases performed

/-- No session goes on for ever. -/
theorem not_endless (session : CommandSession) :
    ¬Transition.Endless (step server getFiles) (fun _ _ => True) session := by
  apply Transition.not_endless_of_rank workLeft
  intro session event next _ performed
  cases event with
  | readLine => exact workLeft_readLine performed
  | serve => exact workLeft_serve performed
  | send => exact workLeft_send performed
  | receive => exact workLeft_receive performed

end CommandSession

end SyncDir
