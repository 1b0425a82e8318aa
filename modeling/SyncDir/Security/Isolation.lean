import SyncDir.Security.Requests
import SyncDir.Utils.RegularFiles

/-!
# Users and their directories

Every user has a directory of its own, but nothing keeps the names that come
from its devices in that directory: `..` leads out of it, into the directory of
any other user.  The directory of another user is neither changed nor noticed as
long as the path of every name stays inside the one and out of the other.
-/

namespace SyncDir

open FileTree Thread Routine PacketType

section

variable (cwd : Path Bytes) (getFiles : Directory → Bytes)

def userDirectory (username : Bytes) : Path Bytes :=
  resolve cwd (movesOf (directoryOf username))

/-- The path leads into the directory of `username`, and neither through nor into the directory of
`other`. -/
structure Confined (username other path : Bytes) : Prop where
  inside : userDirectory cwd username <+: resolve cwd (movesOf path)
  outside : Avoids (userDirectory cwd other) cwd (movesOf path)

def Contained (username other file_name : Bytes) : Prop :=
  Confined cwd username other (pathOf (directoryOf username) file_name)

variable {Device : Type*} [DecidableEq Device]

def serving (username : Bytes) (threads : Device → DeviceThread) (host : Host) :
    Resumption.Threads SystemCall SystemCall.Answer ThreadEnd Device Host where
  state := host
  threads device := (threads device).program username
  performed := []

/-- Whatever the threads of `username` are sent and however they are scheduled, they do not change
the directory of `other`, they do not notice what is in it, and they keep to their own. -/
structure Isolated (username other : Bytes) (threads : Device → DeviceThread) : Prop where
  unchanged : ∀ host schedule path, userDirectory cwd other <+: path →
    ((serving username threads host).interleave (performCall cwd getFiles)
      schedule).state.files.lookup path = host.files.lookup path
  unnoticed : ∀ first second schedule,
    SameOutside (userDirectory cwd other) first.files second.files →
    first.connections = second.connections →
    let firstRun := (serving username threads first).interleave (performCall cwd getFiles) schedule
    let secondRun :=
      (serving username threads second).interleave (performCall cwd getFiles) schedule
    firstRun.threads = secondRun.threads ∧ firstRun.performed = secondRun.performed ∧
      firstRun.state.connections = secondRun.state.connections
  confined : ∀ device,
    ((threads device).program username).Performs (OnPaths (Confined cwd username other))

end

section Calls

variable {cwd : Path Bytes} {getFiles : Directory → Bytes} {username other : Bytes}
  {systemCall : SystemCall}

theorem positional_confined : Positional (Confined cwd username other) username := by
  have slash : movesOf (pathOf (directoryOf username) []) =
      movesOf (directoryOf username) ++ [.empty] := movesOf_append _ _
  have dot (name : Bytes) : movesOf (dotPathOf username name) =
      .dot :: movesOf (pathOf (directoryOf username) name) := movesOf_append (ascii ".") _
  have nonempty (path : Bytes) : movesOf path ≠ [] := by
    simp [movesOf, List.splitOn_ne_nil]
  constructor
  · constructor
    · rintro ⟨inside, outside⟩
      refine ⟨?_, ?_⟩
      · rw [slash, resolve_append]
        exact inside
      · rw [slash]
        exact avoids_concat_empty_iff.mpr outside
    · rintro ⟨inside, outside⟩
      rw [slash] at inside outside
      rw [resolve_append] at inside
      exact ⟨inside, avoids_concat_empty_iff.mp outside⟩
  · intro name
    constructor
    · rintro ⟨inside, outside⟩
      rw [dot] at inside outside
      exact ⟨inside, (avoids_dot_cons_iff (nonempty _)).mp outside⟩
    · rintro ⟨inside, outside⟩
      refine ⟨?_, ?_⟩
      · rw [dot]
        exact inside
      · rw [dot]
        exact (avoids_dot_cons_iff (nonempty _)).mpr outside

/-- A call on confined paths changes nothing in the other directory. -/
theorem lookup_performCall (confined : OnPaths (Confined cwd username other) systemCall)
    (host : Host) {path : Path Bytes} (inside : userDirectory cwd other <+: path) :
    (performCall cwd getFiles host systemCall).2.files.lookup path = host.files.lookup path := by
  cases systemCall with
  | openFile _ | list _ | transmit _ _ | sendPushTo _ _ => rfl
  | create name =>
      have outside := (confined name List.mem_cons_self).outside
      exact lookup_write outside inside fun _ => []
  | append name data =>
      have outside := (confined name List.mem_cons_self).outside
      exact lookup_write outside inside fun old => old.getD [] ++ data
  | remove name => exact lookup_remove (confined name List.mem_cons_self).outside inside
  | rename name new_name =>
      exact lookup_rename (confined name List.mem_cons_self).outside inside
        (confined new_name (List.mem_cons_of_mem _ List.mem_cons_self)).outside

def Indistinct (cwd : Path Bytes) (other : Bytes) (first second : Host) : Prop :=
  SameOutside (userDirectory cwd other) first.files second.files ∧
    first.connections = second.connections

/-- A call on confined paths has the same answer whatever is in the other directory. -/
theorem performCall_unnoticed (first second : Host) (systemCall : SystemCall)
    (confined : OnPaths (Confined cwd username other) systemCall)
    (indistinct : Indistinct cwd other first second) :
    (performCall cwd getFiles first systemCall).1 =
        (performCall cwd getFiles second systemCall).1 ∧
      Indistinct cwd other (performCall cwd getFiles first systemCall).2
        (performCall cwd getFiles second systemCall).2 := by
  rcases indistinct with ⟨same, connections⟩
  cases systemCall with
  | openFile path =>
      exact ⟨same.openNode (confined path List.mem_cons_self).outside, same, connections⟩
  | create path =>
      rcases same.write (confined path List.mem_cons_self).outside fun _ => []
        with ⟨answer, after⟩
      exact ⟨answer, after, connections⟩
  | append path data =>
      rcases same.write (confined path List.mem_cons_self).outside
        fun old => old.getD [] ++ data with ⟨answer, after⟩
      exact ⟨answer, after, connections⟩
  | remove path =>
      rcases same.remove (confined path List.mem_cons_self).outside with ⟨answer, after⟩
      exact ⟨answer, after, connections⟩
  | rename path new_path =>
      rcases same.rename (confined path List.mem_cons_self).outside
        (confined new_path (List.mem_cons_of_mem _ List.mem_cons_self)).outside with ⟨answer, after⟩
      exact ⟨answer, after, connections⟩
  | list path =>
      refine ⟨?_, same, connections⟩
      have listed := same.list (confined path List.mem_cons_self).outside
      exact congrArg (Option.map getFiles) listed
  | transmit channel action =>
      simp only [performCall, connections]
      exact ⟨rfl, same, rfl⟩
  | sendPushTo type command => exact ⟨rfl, same, connections⟩

end Calls

/-- The directory of another user is isolated exactly if every file name that the threads come to is
contained. -/
theorem isolated_iff (cwd : Path Bytes) (getFiles : Directory → Bytes) (username other : Bytes)
    {Device : Type*} [DecidableEq Device] (threads : Device → DeviceThread) :
    Isolated cwd getFiles username other threads ↔
      ∀ device, (threads device).EveryName (Contained cwd username other) := by
  have performs (device : Device) :
      ((threads device).program username).Performs (OnPaths (Confined cwd username other)) ↔
        (threads device).EveryName (Contained cwd username other) :=
    DeviceThread.performs_program_iff positional_confined (threads device)
  constructor
  · intro isolated device
    exact (performs device).mp (isolated.confined device)
  · intro contained
    have within (host : Host) : (serving username threads host).Within
        (OnPaths (Confined cwd username other)) := by
      refine ⟨fun device => (performs device).mpr (contained device), ?_⟩
      intro entry entry_mem
      cases entry_mem
    refine ⟨?_, ?_, fun device => (performs device).mpr (contained device)⟩
    · intro host schedule path inside
      have preserved (state : Host) (systemCall : SystemCall)
          (confined : OnPaths (Confined cwd username other) systemCall)
          (unchanged : state.files.lookup path = host.files.lookup path) :
          (performCall cwd getFiles state systemCall).2.files.lookup path =
            host.files.lookup path := by
        rw [lookup_performCall confined state inside, unchanged]
      exact Resumption.Threads.interleave_invariant preserved (within host) rfl schedule
    · intro first second schedule same connections
      have indistinct : Indistinct cwd other (serving username threads first).state
          (serving username threads second).state := ⟨same, connections⟩
      have threadsAtStart : (serving username threads first).threads =
          (serving username threads second).threads := rfl
      have performedAtStart : (serving username threads first).performed =
          (serving username threads second).performed := rfl
      rcases Resumption.Threads.interleave_related performCall_unnoticed (within first)
        threadsAtStart performedAtStart indistinct schedule
        with ⟨sameThreads, samePerformed, -, sameConnections⟩
      exact ⟨sameThreads, samePerformed, sameConnections⟩

/-! ### Regular names -/

theorem movesOf_directoryOf {username : Bytes} (noSlash : 47 ∉ username) :
    movesOf (directoryOf username) = [.name (directoryOf username)] := by
  have noSlash : 47 ∉ directoryOf username := by
    rw [directoryOf, List.mem_append, not_or]
    exact ⟨by decide, noSlash⟩
  have prefixLength : (ascii "sync_dir_").length = 9 := by decide
  have long : 9 ≤ (directoryOf username).length := by
    rw [directoryOf, List.length_append]
    omega
  have other {name : Bytes} (short : name.length < 9) : directoryOf username ≠ name := by
    rintro rfl
    omega
  rw [movesOf, List.splitOn_eq_singleton noSlash, List.map_singleton, moveOf,
    if_neg (other (by decide)), if_neg (other (by decide)), if_neg (other (by decide))]

/-- The names that directory entries have are contained if the usernames have no slashes. -/
theorem contained_of_fileName (cwd : Path Bytes) {username other : Bytes}
    (different : username ≠ other) (noSlash : 47 ∉ username) (otherNoSlash : 47 ∉ other)
    (file_name : FileName) : Contained cwd username other file_name.bytes := by
  have differentDirectories : directoryOf other ≠ directoryOf username := by
    intro same
    exact different (List.append_cancel_left same).symm
  have here : userDirectory cwd username = cwd ++ [directoryOf username] := by
    rw [userDirectory, movesOf_directoryOf noSlash]
    rfl
  have there : userDirectory cwd other = cwd ++ [directoryOf other] := by
    rw [userDirectory, movesOf_directoryOf otherNoSlash]
    rfl
  have notPrefix (rest : List Bytes) :
      ¬userDirectory cwd other <+: cwd ++ directoryOf username :: rest := by
    rw [there, List.prefix_append_right_inj, List.cons_prefix_cons]
    rintro ⟨same, -⟩
    exact differentDirectories same
  have moves : movesOf (pathOf (directoryOf username) file_name.bytes) =
      [.name (directoryOf username), .name file_name.bytes] := by
    rw [pathOf, movesOf_append, movesOf_directoryOf noSlash, movesOf_fileName]
    rfl
  have leadsTo : resolve cwd (movesOf (pathOf (directoryOf username) file_name.bytes)) =
      cwd ++ directoryOf username :: [file_name.bytes] := by
    rw [moves]
    exact List.append_assoc _ _ _
  constructor
  · rw [leadsTo, here]
    exact ⟨[file_name.bytes], List.append_assoc _ _ _⟩
  · constructor
    · intro directory directory_mem
      rw [moves] at directory_mem
      rcases List.mem_cons.mp directory_mem with rfl | last
      · rintro ⟨isPrefix, -⟩
        have lengths := isPrefix.length_le
        rw [there, List.length_append, List.length_singleton] at lengths
        omega
      · obtain rfl : directory = cwd ++ [directoryOf username] := by
          simpa [passed, Move.apply] using last
        rintro ⟨isPrefix, -⟩
        exact notPrefix [] isPrefix
    · rw [leadsTo]
      exact notPrefix _

/-- The directories of two users, and a file of `bob`. -/
def twoUsers : Host where
  files := AList.insert [] .directory <|
    AList.insert [ascii "sync_dir_ana"] .directory <|
    AList.insert [ascii "sync_dir_bob"] .directory <|
    AList.insert [ascii "sync_dir_bob", ascii "f"] (.file (ascii "secret")) ∅
  connections _ := .healthy []

/-- A device of `ana` reports that it has deleted a file. -/
def deletionOfBobsFile : DeviceThread :=
  .fileWatcher 0 .closed [Packet.build t_DELETE.value 1 (ascii "../sync_dir_bob/f")]

/-- The server deletes the file of `bob`. -/
theorem not_isolated_bob :
    (userDirectory [] (ascii "bob") = [ascii "sync_dir_bob"] ∧
      twoUsers.files.lookup [ascii "sync_dir_bob", ascii "f"] = some (.file (ascii "secret"))) ∧
    ((serving (ascii "ana") (fun _ : Unit => deletionOfBobsFile) twoUsers).interleave
      (performCall [] fun _ => []) [(), (), ()]).state.files.lookup
        [ascii "sync_dir_bob", ascii "f"] = none ∧
    ¬Isolated [] (fun _ => []) (ascii "ana") (ascii "bob") fun _ : Unit => deletionOfBobsFile := by
  have place : userDirectory [] (ascii "bob") = [ascii "sync_dir_bob"] := by decide +kernel
  have present : twoUsers.files.lookup [ascii "sync_dir_bob", ascii "f"] =
      some (.file (ascii "secret")) := by decide +kernel
  have deleted : ((serving (ascii "ana") (fun _ : Unit => deletionOfBobsFile) twoUsers).interleave
      (performCall [] fun _ => []) [(), (), ()]).state.files.lookup
        [ascii "sync_dir_bob", ascii "f"] = none := by decide +kernel
  refine ⟨⟨place, present⟩, deleted, ?_⟩
  intro isolated
  have kept := isolated.unchanged twoUsers [(), (), ()] [ascii "sync_dir_bob", ascii "f"]
    (by rw [place]; exact ⟨[ascii "f"], rfl⟩)
  rw [deleted, present] at kept
  cases kept

end SyncDir
