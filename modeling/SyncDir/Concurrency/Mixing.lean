import SyncDir.Server.UploadCells

/-!
# Two uploads of one file

Two devices may upload the same file at the same time.  Both threads then build
their file in the same copy, and each of them may truncate, compare, rename or
delete what the other one has written.

The hash test is the only thing that reads what was written.  If the stored file
and every chunk have the hash of the empty file, then so has every mixture of
them, and no schedule makes a thread touch the stored file (`Quiet`).  In all
other cases some schedule mixes the two files, lets both threads see a change
and leaves no file at all (`cells_mixed`, `hashesAsEmpty_of_mixtures`).  Threads
that cannot create the copy only create the file (`cells_of_refused`).
-/

namespace SyncDir

namespace Device

open FileManager

/-- The thread is done with the packet, whether normally or through an exception. -/
def UploadPoint.Ended : UploadPoint → Prop
  | .finished _ | .raised _ => True
  | _ => False

/-- FNV-1a does not tell the data from the empty file. -/
def HashesAsEmpty (data : Bytes) : Prop :=
  fnv1a data = FNV_OFFSET_BASIS

instance (data : Bytes) : Decidable (HashesAsEmpty data) :=
  inferInstanceAs (Decidable (fnv1a data = FNV_OFFSET_BASIS))

section Hashes

theorem hashesAsEmpty_nil : HashesAsEmpty [] :=
  fnv1a_nil

theorem HashesAsEmpty.append {first second : Bytes} (firstEmpty : HashesAsEmpty first)
    (secondEmpty : HashesAsEmpty second) : HashesAsEmpty (first ++ second) := by
  rw [HashesAsEmpty, fnv1a_append, firstEmpty, ← fnv1a_eq_foldl]
  exact secondEmpty

theorem HashesAsEmpty.flatten {chunks : List Bytes}
    (empty : ∀ chunk ∈ chunks, HashesAsEmpty chunk) : HashesAsEmpty chunks.flatten := by
  induction chunks with
  | nil => exact hashesAsEmpty_nil
  | cons chunk chunks ih =>
      rcases List.forall_mem_cons.mp empty with ⟨chunkEmpty, chunksEmpty⟩
      exact chunkEmpty.append (ih chunksEmpty)

/-- What is put before some data changes its hash unless it hashes like the empty file. -/
theorem fnv1a_append_eq_right_iff {first second : Bytes} :
    fnv1a (first ++ second) = fnv1a second ↔ HashesAsEmpty first := by
  rw [fnv1a_append, fnv1a_eq_foldl second]
  exact (foldl_hashByte_injective second).eq_iff

theorem fnvDiffers_eq_false_iff {original copy : Bytes} :
    fnvDiffers original copy = false ↔ fnv1a original = fnv1a copy := by
  simp [fnvDiffers]

theorem hashesAsEmpty_of_suffixes {chunks : List Bytes}
    (suffixes : ∀ early late, chunks = early ++ late → HashesAsEmpty late.flatten) :
    ∀ chunk ∈ chunks, HashesAsEmpty chunk := by
  induction chunks with
  | nil => simp
  | cons chunk chunks ih =>
      have whole := suffixes [] (chunk :: chunks) rfl
      have tail := suffixes [chunk] chunks rfl
      rw [List.flatten_cons, HashesAsEmpty, ← tail, fnv1a_append_eq_right_iff] at whole
      refine List.forall_mem_cons.mpr ⟨whole, ?_⟩
      apply ih
      intro early late split
      apply suffixes (chunk :: early)
      rw [split, List.cons_append]

/-- If no mixture is told from the stored file, everything hashes like the empty file. -/
theorem hashesAsEmpty_of_mixtures {stored : Bytes} {first second : List Bytes}
    (firstLate : ∀ early late, first = early ++ late →
      fnvDiffers stored (late.flatten ++ second.flatten) = false)
    (secondLate : ∀ early late, second = early ++ late →
      fnvDiffers stored (late.flatten ++ first.flatten) = false) :
    HashesAsEmpty stored ∧ (∀ chunk ∈ first, HashesAsEmpty chunk) ∧
      ∀ chunk ∈ second, HashesAsEmpty chunk := by
  have firstStored := fnvDiffers_eq_false_iff.mp (secondLate second [] (by simp))
  have secondStored := fnvDiffers_eq_false_iff.mp (firstLate first [] (by simp))
  rw [List.flatten_nil, List.nil_append] at firstStored secondStored
  have firstEmpty : ∀ chunk ∈ first, HashesAsEmpty chunk := by
    apply hashesAsEmpty_of_suffixes
    intro early late split
    have same := fnvDiffers_eq_false_iff.mp (firstLate early late split)
    rwa [secondStored, eq_comm, fnv1a_append_eq_right_iff] at same
  have secondEmpty : ∀ chunk ∈ second, HashesAsEmpty chunk := by
    apply hashesAsEmpty_of_suffixes
    intro early late split
    have same := fnvDiffers_eq_false_iff.mp (secondLate early late split)
    rwa [firstStored, eq_comm, fnv1a_append_eq_right_iff] at same
  exact ⟨firstStored.trans (HashesAsEmpty.flatten firstEmpty), firstEmpty, secondEmpty⟩

end Hashes

/-- Two threads that upload a file and its copy. -/
abbrev TwoUploads : Type :=
  UploadPoint × UploadPoint × Cells

/-- Two threads at the beginning of their uploads, on a schedule. -/
def runCells (refusal : Option Exception) (first second : List Bytes) (schedule : List Bool)
    (cells : Cells) : TwoUploads :=
  interleave (stepLeft (cellStep fnvDiffers refusal first))
    (stepRight (cellStep fnvDiffers refusal second)) schedule
    (.testAndCreate, .testAndCreate, cells)

/-! ### No copy is created -/

def Cells.created (cells : Cells) : Cells :=
  { cells with file := some (cells.file.getD []) }

/-- Where a thread can be that cannot create the copy, and what the two files are then. -/
def RefusedAt (start cells : Cells) : UploadPoint → Prop
  | .testAndCreate => cells = start ∨ cells = start.created
  | .createCopy | .raised _ => cells = start.created
  | _ => False

theorem RefusedAt.step {start cells : Cells} {point other : UploadPoint} (exception : Exception)
    (chunks : List Bytes) (refused : RefusedAt start cells point)
    (otherRefused : RefusedAt start cells other) :
    RefusedAt start (cellStep fnvDiffers (some exception) chunks point cells).2
        (cellStep fnvDiffers (some exception) chunks point cells).1 ∧
      RefusedAt start (cellStep fnvDiffers (some exception) chunks point cells).2 other := by
  cases point with
  | testAndCreate =>
      have created : { cells with file := some (cells.file.getD []) } = start.created := by
        rcases refused with rfl | rfl <;> rfl
      rw [cellStep, created]
      refine ⟨rfl, ?_⟩
      cases other with
      | testAndCreate => exact Or.inr rfl
      | createCopy | raised => rfl
      | _ => exact otherRefused.elim
  | createCopy => exact ⟨refused, otherRefused⟩
  | raised earlier => exact ⟨refused, otherRefused⟩
  | _ => exact refused.elim

/-- Neither of two threads can create the copy. -/
structure Refused (start : Cells) (state : TwoUploads) : Prop where
  first : RefusedAt start state.2.2 state.1
  second : RefusedAt start state.2.2 state.2.1

/-- If the copy cannot be created, every schedule leaves the file created, and nothing else
changed. -/
theorem cells_of_refused (exception : Exception) (first second : List Bytes)
    (schedule : List Bool) (cells : Cells)
    (firstEnded : (runCells (some exception) first second schedule cells).1.Ended) :
    (runCells (some exception) first second schedule cells).2.2 = cells.created := by
  have initially : Refused cells (.testAndCreate, .testAndCreate, cells) :=
    ⟨Or.inl rfl, Or.inl rfl⟩
  have refused : Refused cells (runCells (some exception) first second schedule cells) := by
    apply interleave_invariant _ _ schedule initially
    · intro state refused
      rcases refused.first.step exception first refused.second with ⟨stepped, kept⟩
      exact ⟨stepped, kept⟩
    · intro state refused
      rcases refused.second.step exception second refused.first with ⟨stepped, kept⟩
      exact ⟨kept, stepped⟩
  have reached := refused.first
  cases point : (runCells (some exception) first second schedule cells).1 with
  | raised earlier =>
      rw [point] at reached
      exact reached
  | finished changed =>
      rw [point] at reached
      exact reached.elim
  | _ =>
      rw [point] at firstEnded
      exact firstEnded.elim

/-! ### No change is seen -/

/-- The copy, if there is one, hashes like the empty file. -/
def Cells.CopyEmpty (cells : Cells) : Prop :=
  ∀ copy ∈ cells.copy, HashesAsEmpty copy

/-- What a thread that never sees a change relies on. -/
def QuietAt (stored : Bytes) (cells : Cells) : UploadPoint → Prop
  | .testAndCreate => cells.file.getD [] = stored
  | .createCopy => cells.file = some stored
  | .buildFile unread =>
      cells.file = some stored ∧ cells.CopyEmpty ∧ ∀ chunk ∈ unread, HashesAsEmpty chunk
  | .deleteFile | .renameFile => False
  | _ => cells.file = some stored ∧ cells.CopyEmpty

/-- A change of the two files that a thread which never sees a change does not notice. -/
structure Unnoticed (stored : Bytes) (before after : Cells) : Prop where
  file : before.file.getD [] = stored → after.file.getD [] = stored
  created : before.file = some stored → after.file = some stored
  copy : before.CopyEmpty → after.CopyEmpty

theorem Unnoticed.refl (stored : Bytes) (cells : Cells) : Unnoticed stored cells cells :=
  ⟨id, id, id⟩

theorem QuietAt.mono {stored : Bytes} {before after : Cells} {point : UploadPoint}
    (unnoticed : Unnoticed stored before after) (quiet : QuietAt stored before point) :
    QuietAt stored after point := by
  cases point with
  | testAndCreate => exact unnoticed.file quiet
  | createCopy => exact unnoticed.created quiet
  | buildFile unread =>
      rcases quiet with ⟨created, copyEmpty, unreadEmpty⟩
      exact ⟨unnoticed.created created, unnoticed.copy copyEmpty, unreadEmpty⟩
  | deleteFile => exact quiet
  | renameFile => exact quiet
  | checkFileHashchanged | deleteCopy | finished | raised =>
      exact ⟨unnoticed.created quiet.1, unnoticed.copy quiet.2⟩

/-- A thread that has seen no change goes on without seeing one, unnoticed by others, and has
removed the copy when it ends. -/
theorem QuietAt.step {stored : Bytes} {chunks : List Bytes} {cells : Cells} {point : UploadPoint}
    (storedEmpty : HashesAsEmpty stored) (chunksEmpty : ∀ chunk ∈ chunks, HashesAsEmpty chunk)
    (quiet : QuietAt stored cells point) :
    QuietAt stored (cellStep fnvDiffers none chunks point cells).2
        (cellStep fnvDiffers none chunks point cells).1 ∧
      Unnoticed stored cells (cellStep fnvDiffers none chunks point cells).2 ∧
      ((cellStep fnvDiffers none chunks point cells).1.Ended →
        point.Ended ∨ (cellStep fnvDiffers none chunks point cells).2.copy = none) := by
  cases point with
  | testAndCreate =>
      have created : some (cells.file.getD []) = some stored := congrArg some quiet
      refine ⟨created, ⟨?_, ?_, id⟩, False.elim⟩
      · intro _
        exact quiet
      · intro _
        exact created
  | createCopy =>
      have copyEmpty : Cells.CopyEmpty { cells with copy := some [] } := by
        rintro copy ⟨⟩
        exact hashesAsEmpty_nil
      refine ⟨⟨quiet, copyEmpty, chunksEmpty⟩, ⟨id, id, ?_⟩, False.elim⟩
      intro _
      exact copyEmpty
  | buildFile unread =>
      rcases quiet with ⟨created, copyEmpty, unreadEmpty⟩
      cases unread with
      | nil => exact ⟨⟨created, copyEmpty⟩, ⟨id, id, id⟩, False.elim⟩
      | cons data unread =>
          rcases List.forall_mem_cons.mp unreadEmpty with ⟨dataEmpty, unreadEmpty⟩
          have builtEmpty : HashesAsEmpty (cells.copy.getD []) := by
            cases built : cells.copy with
            | none => exact hashesAsEmpty_nil
            | some copy => exact copyEmpty copy built
          have grownEmpty : Cells.CopyEmpty
              { cells with copy := some (cells.copy.getD [] ++ data) } := by
            rintro copy ⟨⟩
            exact builtEmpty.append dataEmpty
          refine ⟨⟨created, grownEmpty, unreadEmpty⟩, ⟨id, id, ?_⟩, False.elim⟩
          intro _
          exact grownEmpty
  | checkFileHashchanged =>
      rcases quiet with ⟨created, copyEmpty⟩
      cases built : cells.copy with
      | none => simp [cellStep, created, built, QuietAt, copyEmpty, Unnoticed.refl]
      | some copy =>
          have unchanged : fnvDiffers stored copy = false :=
            fnvDiffers_eq_false_iff.mpr (storedEmpty.trans (copyEmpty copy built).symm)
          simp [cellStep, created, built, unchanged, QuietAt, copyEmpty, Unnoticed.refl,
            UploadPoint.Ended]
  | deleteFile => exact quiet.elim
  | renameFile => exact quiet.elim
  | deleteCopy =>
      have copyEmpty : Cells.CopyEmpty { cells with copy := none } := by
        rintro copy ⟨⟩
      refine ⟨⟨quiet.1, copyEmpty⟩, ⟨id, id, ?_⟩, ?_⟩
      · intro _
        exact copyEmpty
      · intro _
        exact Or.inr rfl
  | finished changed => exact ⟨quiet, ⟨id, id, id⟩, Or.inl⟩
  | raised exception => exact ⟨quiet, ⟨id, id, id⟩, Or.inl⟩

/-- Neither of two threads has seen a change, and no copy is left when both have ended. -/
structure Quiet (stored : Bytes) (state : TwoUploads) : Prop where
  first : QuietAt stored state.2.2 state.1
  second : QuietAt stored state.2.2 state.2.1
  removed : state.1.Ended → state.2.1.Ended → state.2.2.copy = none

theorem Quiet.exchange {stored : Bytes} {state : TwoUploads} (quiet : Quiet stored state) :
    Quiet stored (exchange state) where
  first := quiet.second
  second := quiet.first
  removed := by
    intro secondEnded firstEnded
    exact quiet.removed firstEnded secondEnded

theorem QuietAt.created {stored : Bytes} {cells : Cells} {point : UploadPoint}
    (quiet : QuietAt stored cells point) (ended : point.Ended) : cells.file = some stored := by
  cases point <;> first | exact ended.elim | exact quiet.1

theorem cellStep_of_ended {chunks : List Bytes} {point : UploadPoint} (ended : point.Ended)
    (cells : Cells) : cellStep fnvDiffers none chunks point cells = (point, cells) := by
  cases point <;> first | exact ended.elim | rfl

section Quiet

variable {stored : Bytes} {first second : List Bytes} (storedEmpty : HashesAsEmpty stored)
include storedEmpty

theorem quiet_stepLeft (firstEmpty : ∀ chunk ∈ first, HashesAsEmpty chunk) (state : TwoUploads)
    (quiet : Quiet stored state) :
    Quiet stored (stepLeft (cellStep fnvDiffers none first) state) := by
  rcases state with ⟨firstPoint, secondPoint, cells⟩
  rcases quiet.first.step storedEmpty firstEmpty with ⟨quietFirst, unnoticed, removes⟩
  refine ⟨quietFirst, quiet.second.mono unnoticed, ?_⟩
  intro firstEnded secondEnded
  rcases removes firstEnded with already | removed
  · simp only [stepLeft, cellStep_of_ended already]
    apply quiet.removed already secondEnded
  · exact removed

theorem quiet_stepRight (secondEmpty : ∀ chunk ∈ second, HashesAsEmpty chunk)
    (state : TwoUploads) (quiet : Quiet stored state) :
    Quiet stored (stepRight (cellStep fnvDiffers none second) state) := by
  have exchanged := quiet_stepLeft storedEmpty secondEmpty (exchange state) quiet.exchange
  exact exchanged.exchange

/-- If everything hashes like the empty file, every schedule keeps the stored content and leaves
no copy. -/
theorem cells_of_quiet (firstEmpty : ∀ chunk ∈ first, HashesAsEmpty chunk)
    (secondEmpty : ∀ chunk ∈ second, HashesAsEmpty chunk) (schedule : List Bool) (cells : Cells)
    (start : cells.file.getD [] = stored)
    (firstEnded : (runCells none first second schedule cells).1.Ended)
    (secondEnded : (runCells none first second schedule cells).2.1.Ended) :
    (runCells none first second schedule cells).2.2 = { file := some stored, copy := none } := by
  have initially : Quiet stored (.testAndCreate, .testAndCreate, cells) :=
    ⟨start, start, False.elim⟩
  have quiet : Quiet stored (runCells none first second schedule cells) := by
    apply interleave_invariant _ _ schedule initially
    · exact quiet_stepLeft storedEmpty firstEmpty
    · exact quiet_stepRight storedEmpty secondEmpty
  have removed := quiet.removed firstEnded secondEnded
  have created := quiet.first.created firstEnded
  rw [← created, ← removed]

end Quiet

/-! ### Mixtures -/

/-- The schedule in which the second upload truncates the copy when some chunks of the first one
are written, and appends its own ones after the rest. -/
def mixingSchedule (early late second : ℕ) : List Bool :=
  List.replicate (early + 2) true ++ List.replicate 2 false ++ List.replicate late true ++
    List.replicate second false ++ [true, false, true, false, true, true, false, false]

/-- If the mixture differs from the stored file, both threads see a change: one renames the
mixture, and the other one deletes it and fails to rename a copy. -/
theorem cells_mixed (early : List Bytes) {late second : List Bytes} (cells : Cells)
    (differs : fnvDiffers (cells.file.getD []) (late.flatten ++ second.flatten) = true) :
    runCells none (early ++ late) second (mixingSchedule early.length late.length second.length)
        cells =
      (.finished true, .raised (.runtime_error "filesystem error: cannot rename"),
        { file := none, copy := none }) := by
  have truncated (copy : Option Bytes) := cellStep_iterate_early fnvDiffers [] second
    { file := some (cells.file.getD []), copy }
  have rest := cellStep_iterate_buildFile fnvDiffers (early ++ late) none late []
    (some (cells.file.getD [])) []
  have appended := cellStep_iterate_buildFile fnvDiffers second none second []
    (some (cells.file.getD [])) late.flatten
  rw [List.append_nil] at rest appended
  simp only [List.nil_append, List.length_nil, Nat.zero_add, List.flatten_nil,
    Option.getD_some] at truncated rest
  simp only [runCells, mixingSchedule, interleave_append, interleave_replicate_true,
    interleave_replicate_false, stepLeft_iterate, stepRight_iterate, cellStep_iterate_early,
    truncated, rest, appended]
  simp [interleave, stepLeft, stepRight, cellStep, differs]

end Device

end SyncDir
