import SyncDir.Client.Client
import SyncDir.Library.Transition

/-!
# Uploads of a pushed file

The push thread of a client clears a pushed file and then appends to it piece by
piece; each of this raises an event, for which the file thread uploads the file.
Both hold the `watcher_push_lock` meanwhile, except that the push thread clears
the file before it takes the lock.  So the file thread can find the file cleared
before it reads it, or while it does.

The loop of the push thread is taken to end with the closing packet.  The file
thread reads a file in arbitrary nonempty parts, and may begin an upload at any
time.
-/

namespace SyncDir

namespace Client

open FileManager Transition

/-- Where the push thread is with a file, and the pieces that it has still to write. -/
inductive ApplyPoint
  | announced (pieces : List Bytes)
  | cleared (pieces : List Bytes)
  /-- In the loop, with the lock. -/
  | writing (pieces : List Bytes)
  | applied
  deriving DecidableEq

inductive UploadPoint
  | idle
  | reading (collected : Bytes)
  | uploaded
  deriving DecidableEq

structure PushedFile where
  disk : Directory
  watcher_push_lock : Bool
  push : ApplyPoint
  upload : UploadPoint
  sent : List Bytes

inductive PushedFileEvent
  | clear
  | pushLock
  | write
  | pushUnlock
  | fileLock
  | read (count : ℕ)
  /-- The file thread has found the end of the file, and sends what it has read. -/
  | send
  | fileUnlock

/-- The event belongs to an upload that has begun. -/
def PushedFileEvent.Uploads : PushedFileEvent → Prop
  | read _ | send | fileUnlock => True
  | clear | pushLock | write | pushUnlock | fileLock => False

namespace PushedFile

/-- A file with the content `old`, for which a push has been announced. -/
def created (file_name : FileName) (disk : Directory) (old : Bytes) (pieces : List Bytes) :
    PushedFile where
  disk := Function.update disk file_name.bytes (some old)
  watcher_push_lock := false
  push := .announced pieces
  upload := .idle
  sent := []

section Steps

variable (file_name : FileName)

def content (state : PushedFile) : Bytes :=
  (state.disk file_name.bytes).getD []

def step (state : PushedFile) : PushedFileEvent → Option PushedFile
  | .clear =>
      match state.push with
      | .announced pieces =>
          some { state with
            disk := clearFile state.disk file_name.bytes
            push := .cleared pieces }
      | _ => none
  | .pushLock =>
      match state.push, state.watcher_push_lock with
      | .cleared pieces, false =>
          some { state with watcher_push_lock := true, push := .writing pieces }
      | _, _ => none
  | .write =>
      match state.push with
      | .writing (piece :: pieces) =>
          match writeFile state.disk file_name.bytes piece with
          | .error _ => none
          | .ok disk => some { state with disk, push := .writing pieces }
      | _ => none
  | .pushUnlock =>
      match state.push with
      | .writing [] => some { state with watcher_push_lock := false, push := .applied }
      | _ => none
  | .fileLock =>
      match state.upload, state.watcher_push_lock with
      | .idle, false => some { state with watcher_push_lock := true, upload := .reading [] }
      | _, _ => none
  | .read count =>
      match state.upload with
      | .reading collected =>
          if 0 < count ∧ collected.length + count ≤ (state.content file_name).length then
            some { state with
              upload := .reading
                (collected ++ ((state.content file_name).drop collected.length).take count) }
          else none
      | _ => none
  | .send =>
      match state.upload with
      | .reading collected =>
          if (state.content file_name).length ≤ collected.length then
            some { state with upload := .uploaded, sent := state.sent ++ [collected] }
          else none
      | _ => none
  | .fileUnlock =>
      match state.upload with
      | .uploaded => some { state with watcher_push_lock := false, upload := .idle }
      | _ => none

/-- The second state is reached from the first one by an upload that has begun. -/
abbrev Completion : PushedFile → PushedFile → Prop :=
  Reachable (step file_name) fun _ event => event.Uploads

/-! ### What a step does -/

inductive Moves (state : PushedFile) : PushedFileEvent → PushedFile → Prop
  | clear (pieces : List Bytes) (at_ : state.push = .announced pieces) :
      Moves state .clear
        { state with
          disk := clearFile state.disk file_name.bytes
          push := .cleared pieces }
  | pushLock (pieces : List Bytes) (at_ : state.push = .cleared pieces)
      (free : state.watcher_push_lock = false) :
      Moves state .pushLock { state with watcher_push_lock := true, push := .writing pieces }
  | write (piece : Bytes) (pieces : List Bytes) (at_ : state.push = .writing (piece :: pieces)) :
      Moves state .write
        { state with
          disk := Function.update state.disk file_name.bytes
            (some (state.content file_name ++ piece))
          push := .writing pieces }
  | pushUnlock (at_ : state.push = .writing []) :
      Moves state .pushUnlock { state with watcher_push_lock := false, push := .applied }
  | fileLock (idle : state.upload = .idle) (free : state.watcher_push_lock = false) :
      Moves state .fileLock { state with watcher_push_lock := true, upload := .reading [] }
  | read (count : ℕ) (collected : Bytes) (reading : state.upload = .reading collected)
      (within : collected.length + count ≤ (state.content file_name).length) :
      Moves state (.read count)
        { state with
          upload := .reading
            (collected ++ ((state.content file_name).drop collected.length).take count) }
  | send (collected : Bytes) (reading : state.upload = .reading collected)
      (atEnd : (state.content file_name).length ≤ collected.length) :
      Moves state .send { state with upload := .uploaded, sent := state.sent ++ [collected] }
  | fileUnlock (uploaded : state.upload = .uploaded) :
      Moves state .fileUnlock { state with watcher_push_lock := false, upload := .idle }

theorem moves_of_step {state next : PushedFile} {event : PushedFileEvent}
    (performed : state.step file_name event = some next) : Moves file_name state event next := by
  cases event with
  | clear =>
      simp only [step] at performed
      split at performed
      · cases performed
        exact .clear _ ‹_›
      · cases performed
  | pushLock =>
      simp only [step] at performed
      split at performed
      · cases performed
        exact .pushLock _ ‹_› ‹_›
      · cases performed
  | write =>
      simp only [step] at performed
      split at performed
      · rw [writeFile_of_proper file_name.proper] at performed
        cases performed
        exact .write _ _ ‹_›
      · cases performed
  | pushUnlock =>
      simp only [step] at performed
      split at performed
      · cases performed
        exact .pushUnlock ‹_›
      · cases performed
  | fileLock =>
      simp only [step] at performed
      split at performed
      · cases performed
        exact .fileLock ‹_› ‹_›
      · cases performed
  | read count =>
      simp only [step] at performed
      split at performed
      · split_ifs at performed with within
        cases performed
        exact .read count _ ‹_› within.2
      · cases performed
  | send =>
      simp only [step] at performed
      split at performed
      · split_ifs at performed with atEnd
        cases performed
        exact .send _ ‹_› atEnd
      · cases performed
  | fileUnlock =>
      simp only [step] at performed
      split at performed
      · cases performed
        exact .fileUnlock ‹_›
      · cases performed

end Steps

/-! ### The contents of the file -/

section Invariant

variable (file_name : FileName) (old new : Bytes)

def Whole (content : Bytes) : Prop :=
  content = old ∨ content = new

/-- What the file contains, and what is still to be written. -/
def Staged (state : PushedFile) : Prop :=
  match state.push with
  | .announced pieces => state.content file_name = old ∧ pieces.flatten = new
  | .cleared pieces => state.content file_name = [] ∧ pieces.flatten = new
  | .writing pieces => state.content file_name ++ pieces.flatten = new
  | .applied => state.content file_name = new

/-- The file is staged, and the lock is held by at most one of the threads. -/
structure Consistent (state : PushedFile) : Prop where
  staged : state.Staged file_name old new
  free : state.watcher_push_lock = false → state.upload = .idle ∧
    ∀ pieces, state.push ≠ .writing pieces
  exclusive : ∀ pieces, state.push = .writing pieces → state.upload = .idle

/-- What the file thread has sent is whole, and what it will send if it goes on. -/
structure Uploading (state : PushedFile) : Prop where
  sent : ∀ content ∈ state.sent, Whole old new content
  reading : ∀ collected, state.upload = .reading collected →
    Whole old new (collected ++ (state.content file_name).drop collected.length)

/-- The file is not cleared while a part of it has been read, and it is not uploaded while it is
cleared and not yet locked, unless this makes no difference. -/
def Admissible (state : PushedFile) : PushedFileEvent → Prop
  | .clear => ∀ collected, state.upload = .reading collected → Whole old new collected
  | .fileLock => ∀ pieces, state.push = .cleared pieces → old = [] ∨ new = []
  | _ => True

theorem consistent_created (disk : Directory) (pieces : List Bytes) :
    (created file_name disk old pieces).Consistent file_name old pieces.flatten where
  staged := ⟨by simp [content, created], rfl⟩
  free := fun _ => ⟨rfl, fun _ => nofun⟩
  exclusive := fun _ => nofun

theorem uploading_created (disk : Directory) (pieces : List Bytes) :
    (created file_name disk old pieces).Uploading file_name old new where
  sent := fun _ => nofun
  reading := fun _ => nofun

end Invariant

section Preservation

variable {file_name : FileName} {old new : Bytes} {state next : PushedFile}
  {event : PushedFileEvent}

theorem content_clearFile (disk : Directory) :
    (clearFile disk file_name.bytes file_name.bytes).getD [] = [] := by
  rw [clearFile_of_proper file_name.proper, Function.update_self, Option.getD_some]

theorem Consistent.goOn (consistent : state.Consistent file_name old new)
    (busy : state.upload ≠ .idle) (upload : UploadPoint) (sent : List Bytes) :
    Consistent file_name old new { state with upload, sent } where
  staged := consistent.staged
  free := fun unlocked => absurd (consistent.free unlocked).1 busy
  exclusive := fun pieces at_ => absurd (consistent.exclusive pieces at_) busy

theorem Consistent.step (consistent : state.Consistent file_name old new)
    (performed : state.step file_name event = some next) :
    next.Consistent file_name old new := by
  rcases consistent with ⟨staged, free, exclusive⟩
  cases moves_of_step file_name performed with
  | clear pieces at_ =>
      rw [Staged, at_] at staged
      refine ⟨⟨content_clearFile state.disk, staged.2⟩, ?_, fun _ => nofun⟩
      exact fun unlocked => ⟨(free unlocked).1, fun _ => nofun⟩
  | pushLock pieces at_ unlocked =>
      rw [Staged, at_] at staged
      refine ⟨?_, nofun, fun _ _ => (free unlocked).1⟩
      change state.content file_name ++ pieces.flatten = new
      rw [staged.1, staged.2, List.nil_append]
  | write piece pieces at_ =>
      rw [Staged, at_] at staged
      refine ⟨?_, ?_, fun _ _ => exclusive _ at_⟩
      · simpa [Staged, content] using staged
      · exact fun unlocked => absurd at_ ((free unlocked).2 _)
  | pushUnlock at_ =>
      rw [Staged, at_] at staged
      refine ⟨?_, fun _ => ⟨exclusive _ at_, fun _ => nofun⟩, fun _ => nofun⟩
      simpa [Staged, content] using staged
  | fileLock idle unlocked =>
      refine ⟨staged, nofun, ?_⟩
      exact fun pieces at_ => absurd at_ ((free unlocked).2 pieces)
  | read count collected reading within =>
      exact (Consistent.mk staged free exclusive).goOn (reading ▸ nofun) _ _
  | send collected reading atEnd =>
      exact (Consistent.mk staged free exclusive).goOn (reading ▸ nofun) _ _
  | fileUnlock uploaded =>
      have elsewhere : ∀ pieces, state.push ≠ .writing pieces := by
        intro pieces at_
        rw [exclusive pieces at_] at uploaded
        cases uploaded
      exact ⟨staged, fun _ => ⟨rfl, elsewhere⟩, fun _ _ => rfl⟩

theorem whole_nil_iff : Whole old new [] ↔ old = [] ∨ new = [] := by
  rw [Whole, eq_comm, @eq_comm _ _ new]

/-- Unless it is being written, the file is whole exactly if it is not cleared, or would be empty
anyway. -/
theorem Consistent.whole_content_iff (consistent : state.Consistent file_name old new)
    (unwritten : ∀ pieces, state.push ≠ .writing pieces) :
    Whole old new (state.content file_name) ↔
      ∀ pieces, state.push = .cleared pieces → old = [] ∨ new = [] := by
  have staged := consistent.staged
  rw [Staged] at staged
  cases at_ : state.push with
  | announced pieces =>
      rw [at_] at staged
      exact iff_of_true (Or.inl staged.1) fun _ => nofun
  | cleared pieces =>
      rw [at_] at staged
      simp [staged.1, whole_nil_iff]
  | writing pieces => exact absurd at_ (unwritten pieces)
  | applied =>
      rw [at_] at staged
      exact iff_of_true (Or.inr staged) fun _ => nofun

/-- A step keeps whole what is sent exactly if it is admissible. -/
theorem uploading_step_iff (consistent : state.Consistent file_name old new)
    (uploading : state.Uploading file_name old new)
    (performed : state.step file_name event = some next) :
    next.Uploading file_name old new ↔ state.Admissible old new event := by
  cases moves_of_step file_name performed with
  | clear pieces at_ =>
      have cleared (collected : Bytes) :
          collected ++ (((clearFile state.disk file_name.bytes) file_name.bytes).getD []).drop
            collected.length = collected := by
        rw [content_clearFile, List.drop_nil, List.append_nil]
      constructor
      · intro after collected reading
        have whole := after.reading collected reading
        rwa [content, cleared] at whole
      · intro spared
        refine ⟨uploading.sent, ?_⟩
        intro collected reading
        rw [content, cleared]
        exact spared collected reading
  | pushLock pieces at_ unlocked =>
      exact iff_of_true ⟨uploading.sent, uploading.reading⟩ trivial
  | write piece pieces at_ =>
      refine iff_of_true ⟨uploading.sent, ?_⟩ trivial
      intro collected reading
      rw [consistent.exclusive _ at_] at reading
      cases reading
  | pushUnlock at_ => exact iff_of_true ⟨uploading.sent, uploading.reading⟩ trivial
  | fileLock idle unlocked =>
      have begun : Uploading file_name old new
          { state with watcher_push_lock := true, upload := .reading [] } ↔
          Whole old new (state.content file_name) := by
        constructor
        · intro after
          exact after.reading [] rfl
        · intro whole
          refine ⟨uploading.sent, ?_⟩
          rintro _ ⟨⟩
          exact whole
      exact begun.trans (consistent.whole_content_iff (consistent.free unlocked).2)
  | read count collected reading within =>
      refine iff_of_true ⟨uploading.sent, ?_⟩ trivial
      rintro _ ⟨⟩
      have part : (((state.content file_name).drop collected.length).take count).length =
          count := by
        rw [List.length_take, List.length_drop]
        omega
      have whole := uploading.reading collected reading
      rw [List.length_append, part, ← List.drop_drop, List.append_assoc]
      change Whole old new (collected ++ (((state.content file_name).drop collected.length).take
        count ++ ((state.content file_name).drop collected.length).drop count))
      rwa [List.take_append_drop]
  | send collected reading atEnd =>
      refine iff_of_true ⟨?_, nofun⟩ trivial
      have whole := uploading.reading collected reading
      rw [List.drop_eq_nil_of_le atEnd, List.append_nil] at whole
      simpa [or_imp, forall_and, whole] using uploading.sent
  | fileUnlock uploaded => exact iff_of_true ⟨uploading.sent, nofun⟩ trivial

/-! ### Uploads that have begun -/

theorem exists_sent_of_end (state : PushedFile) {collected : Bytes}
    (reading : state.upload = .reading collected)
    (atEnd : (state.content file_name).length ≤ collected.length) :
    ∃ final, Completion file_name state final ∧ collected ∈ final.sent := by
  have performed : state.step file_name .send =
      some { state with upload := .uploaded, sent := state.sent ++ [collected] } := by
    simp only [PushedFile.step, reading, if_pos atEnd]
  exact ⟨_, .single performed trivial, by simp⟩

theorem exists_sent {collected : Bytes} (reading : state.upload = .reading collected) :
    ∃ final, Completion file_name state final ∧
      collected ++ (state.content file_name).drop collected.length ∈ final.sent := by
  by_cases atEnd : (state.content file_name).length ≤ collected.length
  · rw [List.drop_eq_nil_of_le atEnd, List.append_nil]
    exact exists_sent_of_end state reading atEnd
  · obtain ⟨whole, isWhole⟩ : ∃ whole,
      collected ++ (state.content file_name).drop collected.length = whole := ⟨_, rfl⟩
    have rest : ((state.content file_name).drop collected.length).take
        ((state.content file_name).length - collected.length) =
        (state.content file_name).drop collected.length :=
      List.take_of_length_le (by rw [List.length_drop])
    have performed : state.step file_name
        (.read ((state.content file_name).length - collected.length)) =
        some { state with upload := .reading whole } := by
      simp only [PushedFile.step, reading, rest, isWhole]
      rw [if_pos (by omega)]
    have first : Completion file_name state { state with upload := .reading whole } :=
      .single performed trivial
    have complete : (state.content file_name).length ≤ whole.length := by
      rw [← isWhole, List.length_append, List.length_drop]
      omega
    rcases exists_sent_of_end { state with upload := .reading whole } rfl complete
      with ⟨final, reached, sent⟩
    exact ⟨final, first.trans reached, isWhole ▸ sent⟩

theorem uploading_iff (consistent : state.Consistent file_name old new) :
    state.Uploading file_name old new ↔
      ∀ final, Completion file_name state final → ∀ content ∈ final.sent,
        Whole old new content := by
  constructor
  · intro uploading final reached
    have kept : final.Consistent file_name old new ∧ final.Uploading file_name old new := by
      apply reached.invariant
      · exact ⟨consistent, uploading⟩
      · rintro before event after ⟨beforeConsistent, beforeUploading⟩ uploads performed
        refine ⟨beforeConsistent.step performed,
          (uploading_step_iff beforeConsistent beforeUploading performed).mpr ?_⟩
        cases event with
        | read | send | fileUnlock => trivial
        | _ => exact uploads.elim
    exact kept.2.sent
  · intro whole
    refine ⟨whole state .start, ?_⟩
    intro collected reading
    rcases exists_sent reading with ⟨final, reached, sent⟩
    exact whole final reached _ sent

end Preservation

/-- In a run, the file thread sends only the old or the new content, also if it goes on with an
upload from any state of the run, exactly if the file is not cleared while a part of it has been
read, nor its upload begun while it is cleared and not yet locked, unless this makes no
difference. -/
theorem sent_whole_iff (file_name : FileName) (disk : Directory) (old : Bytes)
    (pieces : List Bytes) {events : List PushedFileEvent} {last : PushedFile}
    (performed : run (step file_name) (created file_name disk old pieces) events = some last) :
    (∀ state ∈ visited (step file_name) (created file_name disk old pieces) events,
      ∀ final, Completion file_name state final → ∀ content ∈ final.sent,
        Whole old pieces.flatten content) ↔
      Permits (step file_name) (Admissible old pieces.flatten)
        (created file_name disk old pieces) events := by
  have start := consistent_created file_name old disk pieces
  have stable : ∀ state event next, Consistent file_name old pieces.flatten state →
      state.step file_name event = some next → next.Consistent file_name old pieces.flatten :=
    fun state event next consistent moves => consistent.step moves
  apply visited_iff_permits_of_invariant stable _ start
    ((uploading_iff start).mp (uploading_created ..)) performed
  intro state event next consistent whole moves
  rw [← uploading_iff (consistent.step moves)]
  exact uploading_step_iff consistent ((uploading_iff consistent).mpr whole) moves

def fileN : FileName :=
  ⟨ascii "n", by decide⟩

def oldAndNew : List PushedFileEvent :=
  [.fileLock, .read 2, .read 1, .send, .fileUnlock, .clear, .pushLock, .write, .write, .pushUnlock,
    .fileLock, .read 3, .send]

theorem sent_whole_iff_oldAndNew :
    ∃ last, run (step fileN) (created fileN (fun _ => none) (ascii "old") [ascii "ne", ascii "w"])
        oldAndNew = some last ∧
      ∀ state ∈ visited (step fileN)
          (created fileN (fun _ => none) (ascii "old") [ascii "ne", ascii "w"]) oldAndNew,
        ∀ final, Completion fileN state final → ∀ content ∈ final.sent,
          Whole (ascii "old") [ascii "ne", ascii "w"].flatten content := by
  refine ⟨_, rfl, (sent_whole_iff fileN (fun _ => none) (ascii "old") [ascii "ne", ascii "w"]
    rfl).mpr ?_⟩
  have old : ascii "old" = [111, 108, 100] := by decide
  have pieces : [ascii "ne", ascii "w"] = [[110, 101], [119]] := by decide
  have proper : isDirectory fileN.bytes = false := fileN.proper
  simp [oldAndNew, Permits, Admissible, step, created, content, old, pieces, clearFile, writeFile,
    proper]

/-- The cleared file is uploaded, and what has been read before the file has been cleared. -/
theorem sent_torn :
    (run (step fileN) (created fileN (fun _ => none) (ascii "old") [ascii "new"])
        [.clear, .fileLock, .send]).map PushedFile.sent = some [[]] ∧
      (run (step fileN) (created fileN (fun _ => none) (ascii "old") [ascii "new"])
        [.fileLock, .read 2, .clear, .send]).map PushedFile.sent = some [ascii "ol"] := by
  decide

end PushedFile

end Client

end SyncDir
