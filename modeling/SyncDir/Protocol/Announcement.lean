import SyncDir.Server.Server

/-!
# The announcement of a new user

The leader writes the word `CLIENT_CONNECTION`, the username and the ports of
all peers so far into one message, and the peers read a username and a port from
its beginning.  They take the keyword for the username, and what they read as
the port is the number that the username begins with, or zero.
-/

namespace SyncDir

namespace Server

open NetworkManager PacketType

/-- A peer reads a message as the user and the port that it is about, so that a backup that does not
know the user creates a manager and connects to the port. -/
def Understood (username : Bytes) (port : Port) (message : Bytes) : Prop :=
  parseClientConnection message = (username, some (port.number : ℤ)) ∧
    ∀ (backup : Server) (environment : PeerEnvironment), backup.clientExists username = none →
      environment.stat (ascii "sync_dir_" ++ username) = .directory →
      (backup.handlePeerPacket environment
        (Packet.build t_CLIENT_CONNECTION.value 0 message)).receiver =
        some (username, some (port.number : ℤ))

theorem parseClientConnection_peerMessage (username rest : Bytes) :
    parseClientConnection (peerMessage username ++ rest) =
      (ascii "CLIENT_CONNECTION", extractInt (32 :: (username ++ rest))) := by
  have noSpace : ∀ byte ∈ ascii "CLIENT_CONNECTION", isSpace byte = false :=
    extractWord_eq_self.mp rfl
  have nonempty : ascii "CLIENT_CONNECTION" ≠ [] := by decide
  have keyword : ascii "CLIENT_CONNECTION " = ascii "CLIENT_CONNECTION" ++ [32] := rfl
  have split : peerMessage username ++ rest =
      ascii "CLIENT_CONNECTION" ++ 32 :: (username ++ rest) := by
    rw [peerMessage, keyword]
    simp only [List.append_assoc, List.cons_append, List.nil_append]
  have space : isSpace 32 = true := by decide
  rw [split, parseClientConnection, extractWord_append noSpace space _ nonempty,
    afterWord_append noSpace space _ nonempty]

/-- The user of that name is read correctly, but not with a port. -/
theorem extractInt_keyword (rest : Bytes) :
    extractInt (32 :: (ascii "CLIENT_CONNECTION" ++ rest)) = some 0 :=
  rfl

theorem not_understood_peerMessage (username rest : Bytes) (port : Port) :
    ¬Understood username port (peerMessage username ++ rest) := by
  rintro ⟨parsed, -⟩
  rw [parseClientConnection_peerMessage, Prod.mk.injEq] at parsed
  rcases parsed with ⟨rfl, number⟩
  rw [extractInt_keyword, Option.some.injEq] at number
  have positive := port.positive
  omega

/-- All peers understand the announcement of a user exactly if there are no peers. -/
theorem understood_iff (username : Bytes) (ports : List Port) :
    (∀ announced ∈ ports.zip (peerMessages (peerMessage username) ports),
      Understood username announced.1 announced.2) ↔ ports = [] := by
  constructor
  · intro understood
    cases ports with
    | nil => rfl
    | cons port ports =>
        have first := understood (port, addPort (peerMessage username) port) List.mem_cons_self
        rw [addPort, List.append_assoc] at first
        exact absurd first (not_understood_peerMessage username _ port)
  · rintro rfl
    simp [peerMessages]

/-- The announcement of `ana` to one peer, which takes it for an announcement of
`CLIENT_CONNECTION` and connects to port 0. -/
theorem not_understood_ana :
    peerMessages (peerMessage (ascii "ana")) [.first] =
      [ascii "CLIENT_CONNECTION ana 1024"] ∧
    parseClientConnection (ascii "CLIENT_CONNECTION ana 1024") =
      (ascii "CLIENT_CONNECTION", some 0) ∧
    ¬Understood (ascii "ana") .first (ascii "CLIENT_CONNECTION ana 1024") := by
  have keyword : parseClientConnection (ascii "CLIENT_CONNECTION ana 1024") =
      (ascii "CLIENT_CONNECTION", some 0) := by decide
  refine ⟨by decide, keyword, ?_⟩
  rintro ⟨parsed, -⟩
  rw [keyword] at parsed
  exact absurd parsed (by decide)

end Server

end SyncDir
