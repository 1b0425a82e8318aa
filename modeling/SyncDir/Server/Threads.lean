import SyncDir.Server.Device
import SyncDir.Utils.Stream
import SyncDir.Utils.SystemCalls

/-!
# The thread functions of the server

`Device::commandThread`, `Device::fileWatcherThread` and
`ClientManager::receivePushsOn` receive packets in a loop and catch every
`runtime_error`, which ends the loop.  Here they are given the whole packets
that their peer sends and how its stream ends, and they work on the file system
through system calls, one at a time.  `Device::pushThread` is given the pushes
that the threads of other devices leave for it.

The flag `stop_requested` of a device can only end its loops earlier, and is
left out.
-/

namespace SyncDir

open NetworkManager PacketType

/-- How a thread function ends after its peer has closed the connection. -/
inductive ThreadEnd
  | ended
  | escaped (exception : Exception)
  /-- It never leaves the loop of `receivePayload`. -/
  | spinning
  deriving DecidableEq

/-- At the end of the stream `receivePacket` throws, which is caught, or does not return. -/
def NetworkManager.Tail.threadEnd : Tail → ThreadEnd
  | closed => .ended
  | truncated => .spinning

theorem threadEnd_eq_ended_iff {tail : Tail} : tail.threadEnd = .ended ↔ tail = .closed := by
  cases tail <;> simp [Tail.threadEnd]

namespace Thread

open Routine

abbrev Program := Resumption SystemCall SystemCall.Answer ThreadEnd

/-- A loop that receives packets or pushes inside of `catch (const std::runtime_error &e)`. -/
def loop {Mode Item : Type} (round : Mode → Item → Routine Mode) (atEnd : ThreadEnd) :
    Mode → List Item → Program
  | _, [] => .done atEnd
  | mode, item :: items => do
      match ← (round mode item).run with
      | .ok next => loop round atEnd next items
      | .error (.runtime_error _) => return .ended
      | .error (.logic_error what) => return .escaped (.logic_error what)

/-! ### The command thread -/

/-- One round of `commandThread`. -/
def handleCommand (base_directory : Bytes) (device : ℕ) (_ : Unit) (pkt : Packet) :
    Routine Unit := do
  let payload_stream ← orThrow pkt.c_str
  if pkt.type = t_UPLOAD.value then
    return ()
  else if pkt.type = t_DOWNLOAD.value then
    let file_name := extractWord payload_stream
    let found ← isFileExists base_directory file_name
    if found = false then
      transmit (.command device) (sendPacketXxx t_FILE_NOT_FOUND.value 1)
    else do
      transmit (.command device) (sendPacketXxx t_FILE_FOUND.value 1)
      sendFileInChunks (.command device) base_directory file_name
  else if pkt.type = t_DELETE.value then
    return ()
  else if pkt.type = t_LIST.value then
    let files ← getFiles base_directory
    let fim := if files = [] then Device.noFiles else files
    transmit (.command device) (sendPacket t_DATA.value 1 fim)
    transmit (.command device) (sendPacketXxx t_END_OF_FILE.value 1)
  else
    return ()

def commandThread (base_directory : Bytes) (device : ℕ) (tail : Tail) (packets : List Packet) :
    Program :=
  loop (handleCommand base_directory device) tail.threadEnd () packets

/-! ### The file watcher thread -/

/-- The loop over the backups in `handle_new_push`. -/
def pushToBackups (base_directory : Bytes) (type : UInt16) (content : Bytes) : ℕ → Routine Unit
  | 0 => return ()
  | backup_peers + 1 => do
      pushToBackups base_directory type content backup_peers
      transmit (.backup backup_peers) (sendPacket type 0 content)
      if type = t_WRITE.value then
        sendFileInChunks (.backup backup_peers) base_directory content

/-- `handle_new_push` for the file manager of a base directory, with `backup_peers` backups. -/
def handle_new_push (base_directory : Bytes) (pkt : Packet) (backup_peers : ℕ) : Routine Unit := do
  let content ← orThrow pkt.c_str
  call (.sendPushTo pkt.type content)
  pushToBackups base_directory pkt.type content backup_peers

/-- A packet that has announced a file, whose name is its payload. -/
structure Announced where
  pkt : Packet
  file_name : Bytes
  named : pkt.c_str = .ok file_name

/-- `std::string file_name(pkt._payload)`, which throws for a null pointer. -/
def announcedBy (pkt : Packet) : Except Exception Announced :=
  match named : pkt.c_str with
  | .error exception => .error exception
  | .ok file_name => .ok { pkt, file_name, named }

/-- Where the file watcher thread waits for a packet. -/
inductive WatcherMode
  | awaiting
  /-- In `buildFile`, after the packet that has announced the file. -/
  | buildFile (announced : Announced)

/-- `base_directory` of the file manager of a user. -/
def directoryOf (username : Bytes) : Bytes :=
  ascii "sync_dir_" ++ username

/-- The paths that are concatenated in `fileWatcherThread` itself. -/
def dotPathOf (username file_name : Bytes) : Bytes :=
  ascii "./" ++ pathOf (directoryOf username) file_name

section

variable (username : Bytes) (backup_peers : ℕ)

/-- The handling of a `t_WRITE` packet up to `buildFile`. -/
def beginWrite (file_name : Bytes) : Routine Unit := do
  let found ← isFileExists (directoryOf username) file_name
  if found = false then
    createFile (directoryOf username) file_name
  createFile (directoryOf username) (copyName file_name)

/-- The handling of a `t_WRITE` packet after `buildFile`. -/
def finishWrite (announced : Announced) : Routine Unit := do
  let path_original := dotPathOf username announced.file_name
  let path_copy := dotPathOf username (copyName announced.file_name)
  let changed ← checkFileHashchanged path_original path_copy
  if changed then
    deleteFile (directoryOf username) announced.file_name
    renameFile path_copy path_original
    handle_new_push (directoryOf username) announced.pkt backup_peers
  else
    deleteFile (directoryOf username) (copyName announced.file_name)

def handleDelete (announced : Announced) : Routine Unit := do
  let found ← isFileExists (directoryOf username) announced.file_name
  if found then
    deleteFile (directoryOf username) announced.file_name
    handle_new_push (directoryOf username) announced.pkt backup_peers

/-- What `fileWatcherThread` does with a packet. -/
def handleWatched : WatcherMode → Packet → Routine WatcherMode
  | .awaiting, pkt => do
      let announced ← orThrow (announcedBy pkt)
      if pkt.type = t_WRITE.value then
        beginWrite username announced.file_name
        return .buildFile announced
      else if pkt.type = t_DELETE.value then
        handleDelete username backup_peers announced
        return .awaiting
      else
        return .awaiting
  | .buildFile announced, pkt_received =>
      if pkt_received.content = ascii "END_OF_FILE" then do
        finishWrite username backup_peers announced
        return .awaiting
      else do
        writeFile (directoryOf username) (copyName announced.file_name) pkt_received.content
        return .buildFile announced

def fileWatcherThread (tail : Tail) (packets : List Packet) : Program :=
  loop (handleWatched username backup_peers) tail.threadEnd .awaiting packets

end

/-! ### The push thread -/

/-- `push_type` and `push_command` of a device. -/
structure PushCommand where
  push_type : UInt16
  push_command : Bytes

/-- What `pushThread` does with a push. -/
def handlePush (base_directory : Bytes) (device : ℕ) (_ : Unit) (push : PushCommand) :
    Routine Unit :=
  if push.push_type = t_WRITE.value then do
    let file_name := extractWord push.push_command
    transmit (.push device) (sendPacket t_WRITE.value 1 push.push_command)
    sendFileInChunks (.push device) base_directory file_name
  else if push.push_type = t_DELETE.value then
    transmit (.push device) (sendPacket t_DELETE.value 1 push.push_command)
  else
    return ()

/-- The thread of a device that is left these pushes and then stopped. -/
def pushThread (base_directory : Bytes) (device : ℕ) (pushes : List PushCommand) : Program :=
  loop (handlePush base_directory device) .ended () pushes

/-! ### The pushes to a backup -/

/-- Where `receivePushsOn` waits for a packet. -/
inductive PushMode
  | awaiting
  | receiving (file_name : Bytes)

/-- What `receivePushsOn` does with a packet. -/
def handlePushed (base_directory : Bytes) : PushMode → Packet → Routine PushMode
  | .awaiting, pkt => do
      let file_name ← orThrow pkt.c_str
      if pkt.type = t_WRITE.value then
        return .receiving file_name
      else if pkt.type = t_DELETE.value then
        deleteFile base_directory file_name
        return .awaiting
      else
        return .awaiting
  | .receiving file_name, pkt_received =>
      if pkt_received.type = t_END_OF_FILE.value then
        return .awaiting
      else do
        writeFile base_directory file_name pkt_received.content
        return .receiving file_name

def receivePushsOn (base_directory : Bytes) (tail : Tail) (packets : List Packet) : Program :=
  loop (handlePushed base_directory) tail.threadEnd .awaiting packets

/-! ### What the loops expect -/

/-- Which items a loop gets over in a mode, and the mode after them. -/
structure Expectation (Mode Item : Type) where
  accepts : Mode → Item → Bool
  next : Mode → Item → Mode

namespace Expectation

variable {Mode Item : Type} (expectation : Expectation Mode Item)

/-- A property of all items that a loop comes to, with the modes in which it does. -/
def Along (property : Mode → Item → Prop) : Mode → List Item → Prop
  | _, [] => True
  | mode, item :: items =>
      property mode item ∧
        (expectation.accepts mode item = true → Along property (expectation.next mode item) items)

/-- A round gets over the accepted items, unless an exception is caught, and no others. -/
structure Describes (round : Mode → Item → Routine Mode) : Prop where
  returns : ∀ mode item, expectation.accepts mode item = true →
    Returns (round mode item) (expectation.next mode item)
  refuses : ∀ mode item, expectation.accepts mode item = false →
    ∃ what, round mode item = throw (.logic_error what)

theorem along_congr {property other : Mode → Item → Prop}
    (same : ∀ mode item, property mode item ↔ other mode item) (mode : Mode) (items : List Item) :
    expectation.Along property mode items ↔ expectation.Along other mode items := by
  obtain rfl : property = other := by
    funext mode item
    exact propext (same mode item)
  exact Iff.rfl

theorem along_of_forall {property : Mode → Item → Prop}
    (always : ∀ mode item, property mode item) (mode : Mode) (items : List Item) :
    expectation.Along property mode items := by
  induction items generalizing mode with
  | nil => trivial
  | cons item items ih => exact ⟨always mode item, fun _ => ih _⟩

variable {expectation} in
theorem Along.mono {property weaker : Mode → Item → Prop}
    (implies : ∀ mode item, property mode item → weaker mode item) {mode : Mode}
    {items : List Item} (along : expectation.Along property mode items) :
    expectation.Along weaker mode items := by
  induction items generalizing mode with
  | nil => trivial
  | cons item items ih =>
      exact ⟨implies mode item along.1, fun accepted => ih (along.2 accepted)⟩

end Expectation

def commands : Expectation Unit Packet where
  accepts _ pkt := pkt.payload.isSome
  next _ _ := ()

/-- `fileWatcherThread` needs a payload, except in `buildFile`. -/
def watched : Expectation WatcherMode Packet where
  accepts
    | .awaiting, pkt => pkt.payload.isSome
    | .buildFile _, _ => true
  next
    | .awaiting, pkt =>
        match announcedBy pkt with
        | .error _ => .awaiting
        | .ok announced => if pkt.type = t_WRITE.value then .buildFile announced else .awaiting
    | .buildFile announced, pkt_received =>
        if pkt_received.content = ascii "END_OF_FILE" then .awaiting else .buildFile announced

def pushed : Expectation Unit PushCommand where
  accepts _ _ := true
  next _ _ := ()

/-- `receivePushsOn` needs a payload, except while it receives a file. -/
def pushReceived : Expectation PushMode Packet where
  accepts
    | .awaiting, pkt => pkt.payload.isSome
    | .receiving _, _ => true
  next
    | .awaiting, pkt =>
        match pkt.c_str with
        | .error _ => .awaiting
        | .ok file_name => if pkt.type = t_WRITE.value then .receiving file_name else .awaiting
    | .receiving file_name, pkt_received =>
        if pkt_received.type = t_END_OF_FILE.value then .awaiting else .receiving file_name

section Loop

variable {Mode Item : Type} {round : Mode → Item → Routine Mode} {atEnd : ThreadEnd} {mode : Mode}
  {item : Item} {items : List Item}

theorem ends_loop_cons_iff {result : ThreadEnd} :
    (loop round atEnd mode (item :: items)).Ends result ↔
      (∃ next, Ends (round mode item) (.ok next) ∧ (loop round atEnd next items).Ends result) ∨
        (∃ what, Ends (round mode item) (.error (.runtime_error what)) ∧ result = .ended) ∨
          ∃ what, Ends (round mode item) (.error (.logic_error what)) ∧
            result = .escaped (.logic_error what) := by
  rw [loop, Resumption.ends_bind_iff]
  constructor
  · rintro ⟨(what | what) | next, first, second⟩
    · exact Or.inr (Or.inl ⟨what, first, Resumption.ends_done_iff.mp second⟩)
    · exact Or.inr (Or.inr ⟨what, first, Resumption.ends_done_iff.mp second⟩)
    · exact Or.inl ⟨next, first, second⟩
  · rintro (⟨next, first, second⟩ | ⟨what, first, rfl⟩ | ⟨what, first, rfl⟩)
    · exact ⟨.ok next, first, second⟩
    · exact ⟨.error (.runtime_error what), first, .done _⟩
    · exact ⟨.error (.logic_error what), first, .done _⟩

theorem performs_loop_cons_iff {allowed : SystemCall → Prop} :
    (loop round atEnd mode (item :: items)).Performs allowed ↔
      Performs allowed (round mode item) ∧ ∀ next, Ends (round mode item) (.ok next) →
        (loop round atEnd next items).Performs allowed := by
  rw [loop, Resumption.performs_bind_iff]
  apply and_congr_right'
  constructor
  · intro later next ends
    exact later (.ok next) ends
  · rintro later ((what | what) | next) ends
    · trivial
    · trivial
    · exact later next ends

variable {expectation : Expectation Mode Item} (describes : expectation.Describes round)
include describes

/-- The calls of a loop are those of the rounds that it comes to. -/
theorem performs_loop_iff {allowed : SystemCall → Prop} :
    (loop round atEnd mode items).Performs allowed ↔
      expectation.Along (fun mode item => Performs allowed (round mode item)) mode items := by
  induction items generalizing mode with
  | nil => exact iff_of_true trivial trivial
  | cons item items ih =>
      rw [performs_loop_cons_iff, Expectation.Along]
      apply and_congr_right'
      cases accepted : expectation.accepts mode item with
      | true => simp [(describes.returns mode item accepted).ends_iff, ih]
      | false =>
          rcases describes.refuses mode item accepted with ⟨what, thrown⟩
          simp [thrown]

/-- A loop always ends in the regular way exactly if it does so after the last item and accepts all
items that it comes to. -/
theorem ended_iff :
    (∀ result, (loop round atEnd mode items).Ends result → result = .ended) ↔
      atEnd = .ended ∧
        expectation.Along (fun mode item => expectation.accepts mode item = true) mode items := by
  induction items generalizing mode with
  | nil => simp [loop, Resumption.ends_done_iff, Expectation.Along]
  | cons item items ih =>
      rw [Expectation.Along]
      simp only [ends_loop_cons_iff]
      cases accepted : expectation.accepts mode item with
      | false =>
          rcases describes.refuses mode item accepted with ⟨what, thrown⟩
          simp [thrown]
      | true =>
          have returns := describes.returns mode item accepted
          simp only [true_and, forall_const]
          rw [← ih]
          constructor
          · intro ended result ends
            exact ended result (Or.inl ⟨_, returns.possible, ends⟩)
          · rintro ended result (⟨next, reached, ends⟩ | ⟨what, _, rfl⟩ | ⟨what, raised, _⟩)
            · rw [returns.only next reached] at ends
              exact ended result ends
            · rfl
            · rcases returns.recoverable _ raised with ⟨_, ⟨⟩⟩

end Loop

/-! ### The rounds -/

theorem c_str_of_isSome {pkt : Packet} (present : pkt.payload.isSome = true) :
    ∃ payload, pkt.c_str = .ok payload := by
  rcases Option.isSome_iff_exists.mp present with ⟨payload, found⟩
  exact ⟨cString payload, by rw [Packet.c_str, found]⟩

theorem c_str_of_isSome_eq_false {pkt : Packet} (absent : pkt.payload.isSome = false) :
    ∃ what, pkt.c_str = .error (.logic_error what) := by
  cases found : pkt.payload with
  | none => exact ⟨_, by rw [Packet.c_str, found]⟩
  | some payload => simp [found] at absent

theorem announcedBy_of_error {pkt : Packet} {exception : Exception}
    (failed : pkt.c_str = .error exception) : announcedBy pkt = .error exception := by
  unfold announcedBy
  split
  · rename_i raised other
    rw [failed] at other
    cases other
    rfl
  · rename_i file_name other
    rw [failed] at other
    cases other

theorem announcedBy_of_ok {pkt : Packet} {payload : Bytes} (named : pkt.c_str = .ok payload) :
    announcedBy pkt = .ok { pkt, file_name := payload, named } := by
  unfold announcedBy
  split
  · rename_i exception other
    rw [named] at other
    cases other
  · rename_i file_name other
    rw [named] at other
    cases other
    rfl

theorem describes_handleCommand (base_directory : Bytes) (device : ℕ) :
    commands.Describes (handleCommand base_directory device) where
  returns := by
    intro _ pkt accepted
    rcases c_str_of_isSome accepted with ⟨payload, named⟩
    change Returns (handleCommand base_directory device () pkt) ()
    rw [handleCommand, named]
    change Returns (ite _ _ _) ()
    split_ifs
    · exact returns_pure ()
    · apply returns_isFileExists_bind
      intro found
      split_ifs
      · exact returns_transmit _ _
      · exact (returns_transmit _ _).andThen (returns_sendFileInChunks _ _ _)
    · exact returns_pure ()
    · apply returns_getFiles_bind
      intro files
      exact (returns_transmit _ _).andThen (returns_transmit _ _)
    · exact returns_pure ()
  refuses := by
    intro _ pkt refused
    rcases c_str_of_isSome_eq_false refused with ⟨what, failed⟩
    refine ⟨what, ?_⟩
    rw [handleCommand, failed]
    rfl

theorem returns_pushToBackups (base_directory : Bytes) (type : UInt16) (content : Bytes)
    (backup_peers : ℕ) :
    Returns (pushToBackups base_directory type content backup_peers) () := by
  induction backup_peers with
  | zero => exact returns_pure ()
  | succ backup_peers ih =>
      apply ih.andThen
      apply (returns_transmit _ _).andThen
      split_ifs
      · exact returns_sendFileInChunks _ _ _
      · exact returns_pure ()

theorem returns_handle_new_push (base_directory : Bytes) (announced : Announced)
    (backup_peers : ℕ) :
    Returns (handle_new_push base_directory announced.pkt backup_peers) () := by
  rw [handle_new_push, announced.named]
  apply returns_bind _ (recoverable_call _)
  · intro _ _
    exact returns_pushToBackups _ _ _ _
  · exact ⟨(), ends_call_iff.mpr ⟨(), rfl⟩⟩

theorem returns_beginWrite (username file_name : Bytes) :
    Returns (beginWrite username file_name) () := by
  apply returns_isFileExists_bind
  intro found
  split_ifs
  · exact (returns_createFile _ _).andThen (returns_createFile _ _)
  · exact returns_createFile _ _

theorem returns_finishWrite (username : Bytes) (backup_peers : ℕ) (announced : Announced) :
    Returns (finishWrite username backup_peers announced) () := by
  apply returns_checkFileHashchanged_bind
  intro changed
  split_ifs
  · apply (returns_deleteFile _ _).andThen
    apply (returns_renameFile _ _).andThen
    exact returns_handle_new_push _ _ _
  · exact returns_deleteFile _ _

theorem returns_handleDelete (username : Bytes) (backup_peers : ℕ) (announced : Announced) :
    Returns (handleDelete username backup_peers announced) () := by
  apply returns_isFileExists_bind
  intro found
  split_ifs
  · exact (returns_deleteFile _ _).andThen (returns_handle_new_push _ _ _)
  · exact returns_pure ()

theorem describes_handleWatched (username : Bytes) (backup_peers : ℕ) :
    watched.Describes (handleWatched username backup_peers) where
  returns := by
    intro mode pkt accepted
    cases mode with
    | awaiting =>
        rcases c_str_of_isSome accepted with ⟨payload, named⟩
        simp only [watched, handleWatched, announcedBy_of_ok named]
        change Returns (ite _ _ _) _
        split_ifs
        · exact (returns_beginWrite _ _).andThen (returns_pure _)
        · exact (returns_handleDelete _ _ _).andThen (returns_pure _)
        · exact returns_pure _
    | buildFile announced =>
        simp only [watched, handleWatched]
        split_ifs
        · exact (returns_finishWrite _ _ _).andThen (returns_pure _)
        · exact (returns_writeFile _ _ _).andThen (returns_pure _)
  refuses := by
    intro mode pkt refused
    cases mode with
    | awaiting =>
        rcases c_str_of_isSome_eq_false refused with ⟨what, failed⟩
        refine ⟨what, ?_⟩
        rw [handleWatched, announcedBy_of_error failed]
        rfl
    | buildFile announced => cases refused

theorem describes_handlePush (base_directory : Bytes) (device : ℕ) :
    pushed.Describes (handlePush base_directory device) where
  returns := by
    intro _ push _
    change Returns (handlePush base_directory device () push) ()
    rw [handlePush]
    split_ifs
    · exact (returns_transmit _ _).andThen (returns_sendFileInChunks _ _ _)
    · exact returns_transmit _ _
    · exact returns_pure ()
  refuses := by
    intro _ _ refused
    cases refused

theorem describes_handlePushed (base_directory : Bytes) :
    pushReceived.Describes (handlePushed base_directory) where
  returns := by
    intro mode pkt accepted
    cases mode with
    | awaiting =>
        rcases c_str_of_isSome accepted with ⟨payload, named⟩
        simp only [pushReceived, handlePushed, named]
        change Returns (ite _ _ _) _
        split_ifs
        · exact returns_pure _
        · exact (returns_deleteFile _ _).andThen (returns_pure _)
        · exact returns_pure _
    | receiving file_name =>
        simp only [pushReceived, handlePushed]
        split_ifs
        · exact returns_pure _
        · exact (returns_writeFile _ _ _).andThen (returns_pure _)
  refuses := by
    intro mode pkt refused
    cases mode with
    | awaiting =>
        rcases c_str_of_isSome_eq_false refused with ⟨what, failed⟩
        refine ⟨what, ?_⟩
        rw [handlePushed, failed]
        rfl
    | receiving file_name => cases refused

end Thread

end SyncDir
