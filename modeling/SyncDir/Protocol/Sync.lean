import SyncDir.Library.Mirror.Convergence
import SyncDir.Server.UploadCells

/-!
# The synchronization protocol

The server and the devices of one user exchange whole transfers: a device
uploads what it has changed, the server pushes what it has accepted to the other
devices, and a device's watcher uploads again what the push thread has just
applied.  The reactions to a transfer are composed of the file operations of the
threads; `Hub` supplies the stores and channels.

Transfers are ideal here: they are received as they were sent, and end where they
end.  `Device.buildFile` and `Client.handlePushPacket` say what the threads
really make of the packets of a transfer, whose end they do not recognize.

On names without whitespace, none of which is the name of another one's copy,
the directories form a mirrored map in the sense of `Mirror`: uploads leave no
copies behind, and names arrive as they were sent.  The results on mirrored maps
then apply to the program.
-/

namespace SyncDir

namespace Sync

open Hub FileManager

/-! ### Reactions -/

/-- The server's handling of an uploaded change, and whether the change is pushed.  Every upload is
taken to arrive as a whole, and to find room for the name of its copy. -/
def serve (differs : Bytes → Bytes → Bool) (disk : Directory) : Change → Directory × Bool
  | .write file_name content =>
      let (point, handled) := Device.handleWrite differs
        (fun created file_name => createFile created (copyName file_name)) disk file_name
        (NetworkManager.chunks MAX_PACKET_SIZE content)
      (handled, point = .finished true)
  | .delete file_name =>
      match Device.handleDelete disk file_name with
      | .error _ => (disk, false)
      | .ok (handled, pushed) => (handled, pushed)

/-- A device's handling of a pushed change, and what its watcher uploads for it: the file that
has been written, as it is then read, or the removal of the file if there was one.  Every push is
taken to arrive as a whole, without its closing packet. -/
def absorb (disk : Directory) : Change → Directory × List Change
  | .write announced content =>
      let file_name := extractWord announced
      match writeChunks (clearFile disk file_name) file_name
          (NetworkManager.chunks MAX_PACKET_SIZE content) with
      | .error _ => (clearFile disk file_name, [])
      | .ok written => (written, ((written file_name).map (.write file_name)).toList)
  | .delete announced =>
      let file_name := extractWord announced
      match deleteFile disk file_name with
      | .error _ => (disk, [])
      | .ok deleted => (deleted, if isFileExists disk file_name then [.delete file_name] else [])

/-- The reactions of the program.  A user writes some content to a file, or deletes a file. -/
def reactions (differs : Bytes → Bytes → Bool) : Reactions Directory Change where
  serve := serve differs
  absorb := absorb
  edit := Mirror.edit []

def contentDiffers (original copy : Bytes) : Bool :=
  original != copy

/-! ### Plain names -/

/-- Names without whitespace, none of which is the name of another one's copy. -/
structure PlainNames (names : Set Bytes) : Prop where
  isFileName : ∀ file_name ∈ names, IsFileName file_name
  isWord : ∀ file_name ∈ names, extractWord file_name = file_name
  notCopy : ∀ file_name ∈ names, copyName file_name ∉ names

def SupportedIn (names : Set Bytes) (disk : Directory) : Prop :=
  ∀ file_name, file_name ∉ names → disk file_name = none

def Concerns (names : Set Bytes) (change : Change) : Prop :=
  change.key ∈ names

section PlainNames

variable {names : Set Bytes} {disk : Directory} {file_name : Bytes}

theorem PlainNames.proper (plain : PlainNames names) (named : file_name ∈ names) :
    isDirectory file_name = false :=
  FileName.proper ⟨file_name, plain.isFileName file_name named⟩

theorem SupportedIn.update (supported : SupportedIn names disk) (named : file_name ∈ names)
    (value : Option Bytes) : SupportedIn names (Function.update disk file_name value) := by
  intro other notNamed
  rw [Function.update_of_ne (ne_of_mem_of_not_mem named notNamed).symm]
  exact supported other notNamed

theorem SupportedIn.update_copyName (plain : PlainNames names) (supported : SupportedIn names disk)
    (named : file_name ∈ names) : Function.update disk (copyName file_name) none = disk :=
  Function.update_eq_self_iff.mpr (supported _ (plain.notCopy file_name named)).symm

variable {differs : Bytes → Bytes → Bool} {change : Change}

/-- Among plain names the server's handling of an upload is that of a mirrored map. -/
theorem serve_eq (plain : PlainNames names) (supported : SupportedIn names disk)
    (concerns : Concerns names change) :
    serve differs disk change = Mirror.serve differs [] disk change := by
  cases change with
  | write file_name content =>
      have named : file_name ∈ names := concerns
      have handled := Device.handleWrite_eq differs
        (NetworkManager.chunks MAX_PACKET_SIZE content) (plain.proper named)
        (Device.createFile_yields file_name) disk
      simp only [NetworkManager.chunks_flatten, Device.Cells.writeTo,
        (supported.update named _).update_copyName plain named] at handled
      simp only [serve, Mirror.serve, handled]
      split <;> rfl
  | delete file_name =>
      have proper : isDirectory file_name = false := plain.proper concerns
      simp only [serve, Mirror.serve, Device.handleDelete_eq proper]

/-- Among plain names a device's handling of a push is that of a mirrored map. -/
theorem absorb_eq (plain : PlainNames names) (concerns : Concerns names change) :
    absorb disk change = Mirror.absorb disk change := by
  cases change with
  | write file_name content =>
      have named : file_name ∈ names := concerns
      have proper := plain.proper named
      have written : writeChunks (clearFile disk file_name) file_name
          (NetworkManager.chunks MAX_PACKET_SIZE content) =
            .ok (Function.update disk file_name (some content)) := by
        have cleared : clearFile disk file_name file_name = some [] := by
          rw [clearFile_of_proper proper, Function.update_self]
        rw [writeChunks_eq_appended proper _ fun _ => NetworkManager.chunks_ne_nil,
          NetworkManager.chunks_flatten, appended_eq_iff.mpr (Or.inl cleared),
          clearFile_of_proper proper, Function.update_idem]
      simp [absorb, Mirror.absorb, plain.isWord _ named, written]
  | delete file_name =>
      have named : file_name ∈ names := concerns
      have proper := plain.proper named
      simp only [absorb, Mirror.absorb, plain.isWord _ named, deleteFile_of_proper proper,
        isFileExists_of_proper proper]
      split
      · rfl
      · rename_i notFound
        have absent : disk file_name = none := by simpa using notFound
        rw [Function.update_eq_self_iff.mpr absent.symm]

theorem SupportedIn.apply (supported : SupportedIn names disk) (concerns : Concerns names change) :
    SupportedIn names (change.apply disk) :=
  supported.update concerns _

/-- Among plain names the program synchronizes mirrored maps. -/
theorem agreement (plain : PlainNames names) :
    Agreement (reactions differs) (Mirror.reactions differs []) (SupportedIn names)
      (Concerns names) where
  serve_eq _ _ := serve_eq plain
  serve_good disk change supported concerns := by
    intro other notNamed
    have otherKey : other ≠ change.key := (ne_of_mem_of_not_mem concerns notNamed).symm
    change (serve differs disk change).1 other = none
    rw [serve_eq plain supported concerns, Mirror.serve_frame disk change otherKey]
    exact supported other notNamed
  absorb_eq _ _ _ := absorb_eq plain
  absorb_good disk change supported concerns := by
    change SupportedIn names (absorb disk change).1
    rw [absorb_eq plain concerns, Mirror.absorb_apply]
    exact supported.apply concerns
  absorb_permitted disk change echo _ concerns echoed := by
    change echo ∈ (absorb disk change).2 at echoed
    rw [absorb_eq plain concerns] at echoed
    rwa [Mirror.eq_of_mem_absorb echoed]
  edit_eq _ _ _ _ := rfl
  edit_good disk change edited supported concerns possible := by
    rw [(Mirror.edit_eq_some possible).1]
    exact supported.apply concerns

end PlainNames

theorem plainNames_singleton {file_name : Bytes} (valid : IsFileName file_name)
    (word : extractWord file_name = file_name) : PlainNames {file_name} := by
  refine ⟨?_, ?_, ?_⟩
  · rintro _ rfl
    exact valid
  · rintro _ rfl
    exact word
  · rintro _ rfl
    exact copyName_ne_self _

theorem supportedIn_empty (names : Set Bytes) : SupportedIn names fun _ => none :=
  fun _ _ => rfl

/-! ### Convergence -/

/-- With an exact hash test every device agrees with the server when nothing is in flight,
after any run that starts with equal directories. -/
theorem reactions_converge {Device : Type*} [DecidableEq Device] {names : Set Bytes}
    (plain : PlainNames names) {files : Directory} (supported : SupportedIn names files)
    {events : List (Event Device Change)}
    (concern : ∀ event ∈ events, event.Permitted (Concerns names))
    {state : State Device Directory Change}
    (performed : Transition.run (step (reactions contentDiffers)) (State.synced files) events =
      some state)
    (quiescent : state.Quiescent) (device : Device) : state.device device = state.server := by
  have exact : ∀ stored value, contentDiffers stored value = true ↔ stored ≠ value := by
    simp [contentDiffers]
  have reached : Transition.Reachable (step (reactions contentDiffers))
      (fun _ event => event.Permitted (Concerns names)) (State.synced files) state :=
    .of_run (fun event event_mem _ => concern event event_mem) .start performed
  have mirrored := (agreement plain).reachable (fun _ _ => id) (.synced supported) reached
  exact (Mirror.Consistent.reachable exact (.synced files) mirrored.1).converges quiescent device

/-- After a write has been uploaded, pushed and echoed, both devices have what the server has. -/
theorem reactions_converge_pushed :
    ∃ state : State Bool Directory Change,
      Transition.run (step (reactions contentDiffers)) (State.synced fun _ => none)
        [.edit true (.write (ascii "f") (ascii "x")), .serve true, .absorb false, .serve false] =
          some state ∧
      state.device true = state.server ∧ state.device false = state.server := by
  have plain : PlainNames {ascii "f"} := plainNames_singleton (by decide) (by decide)
  have concern : ∀ event ∈ ([.edit true (.write (ascii "f") (ascii "x")), .serve true,
      .absorb false, .serve false] : List (Event Bool Change)),
      event.Permitted (Concerns {ascii "f"}) := by
    simp [Event.Permitted, Concerns, Mirror.Change.key]
  have performed : ∃ state : State Bool Directory Change,
      Transition.run (step (reactions contentDiffers)) (State.synced fun _ => none)
        [.edit true (.write (ascii "f") (ascii "x")), .serve true, .absorb false, .serve false] =
          some state ∧ state.Quiescent := by
    rw [(agreement plain).run_eq (.synced (supportedIn_empty _)) concern]
    refine ⟨_, rfl, ?_⟩
    rintro (_ | _) <;> exact ⟨rfl, rfl⟩
  rcases performed with ⟨state, performed, quiescent⟩
  exact ⟨state, performed,
    reactions_converge plain (supportedIn_empty _) concern performed quiescent true,
    reactions_converge plain (supportedIn_empty _) concern performed quiescent false⟩

end Sync

end SyncDir
