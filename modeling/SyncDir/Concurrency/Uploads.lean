import SyncDir.Concurrency.Mixing

/-!
# Concurrent uploads

Two file watcher threads handle uploads of two devices of one user.  They share
the `FileManager` of the user and no lock protects it, so that their file
operations may come in any order.

Uploads of different files work on disjoint parts of the directory and always
end as if they had been handled one after the other.  Uploads of one file only
do so if there can be no copy of it, or if the hash test cannot tell anything
that they write from the empty file.
-/

namespace SyncDir

namespace Device

open FileManager

/-- A file that a device uploads, as the chunks in which it arrives. -/
structure FileUpload where
  file_name : FileName
  chunks : List Bytes

namespace FileUpload

def step (upload : FileUpload) : UploadPoint → Directory → UploadPoint × Directory :=
  uploadStep fnvDiffers createCopy upload.file_name.bytes upload.chunks

/-- What is left of a directory after the upload has been handled. -/
def handle (upload : FileUpload) (disk : Directory) : Directory :=
  (handleWrite fnvDiffers createCopy disk upload.file_name.bytes upload.chunks).2

/-- The name of the copy is not too long for a file. -/
def Fits (upload : FileUpload) : Prop :=
  (copyName upload.file_name.bytes).length ≤ NAME_MAX

instance (upload : FileUpload) : Decidable upload.Fits :=
  inferInstanceAs (Decidable (_ ≤ _))

end FileUpload

/-- Two uploads, neither of them to the copy of the other one. -/
structure ConcurrentUploads where
  first : FileUpload
  second : FileUpload
  firstNotCopy : first.file_name.bytes ≠ copyName second.file_name.bytes
  secondNotCopy : second.file_name.bytes ≠ copyName first.file_name.bytes

namespace ConcurrentUploads

/-- Both threads at the beginning of their uploads, on a schedule. -/
def run (uploads : ConcurrentUploads) (schedule : List Bool) (disk : Directory) :
    UploadPoint × UploadPoint × Directory :=
  interleave (stepLeft uploads.first.step) (stepRight uploads.second.step) schedule
    (.testAndCreate, .testAndCreate, disk)

/-- On every schedule that ends both uploads, the directory becomes what it becomes when they are
handled one after the other in one of the two orders. -/
def Serialisable (uploads : ConcurrentUploads) (disk : Directory) : Prop :=
  ∀ schedule firstPoint secondPoint final,
    uploads.run schedule disk = (firstPoint, secondPoint, final) →
      firstPoint.Ended → secondPoint.Ended →
        final = uploads.second.handle (uploads.first.handle disk) ∨
          final = uploads.first.handle (uploads.second.handle disk)

end ConcurrentUploads

/-! ### Uploads end -/

def UploadPoint.rank (chunks : List Bytes) : UploadPoint → ℕ
  | .testAndCreate => chunks.length + 6
  | .createCopy => chunks.length + 5
  | .buildFile unread => unread.length + 4
  | .checkFileHashchanged => 3
  | .deleteFile => 2
  | .renameFile | .deleteCopy => 1
  | .finished _ | .raised _ => 0

@[simp]
theorem UploadPoint.rank_testAndCreate (chunks : List Bytes) :
    UploadPoint.testAndCreate.rank chunks = chunks.length + 6 :=
  rfl

namespace FileUpload

variable (upload : FileUpload)

theorem exists_refusal :
    ∃ refusal, CopyCreation.Yields createCopy upload.file_name.bytes refusal := by
  by_cases fits : upload.Fits
  · exact ⟨_, createCopy_yields fits⟩
  · exact ⟨_, createCopy_refuses fits⟩

theorem ended_iff_rank {point : UploadPoint} : point.Ended ↔ point.rank upload.chunks = 0 := by
  cases point <;> simp [UploadPoint.Ended, UploadPoint.rank]

/-- Each step brings the upload nearer to its end, whatever others have done to the directory. -/
theorem rank_step_le (point : UploadPoint) (disk : Directory) :
    (upload.step point disk).1.rank upload.chunks ≤ point.rank upload.chunks - 1 := by
  rcases upload.exists_refusal with ⟨refusal, yields⟩
  rw [step, uploadStep_eq upload.file_name.proper yields]
  cases point with
  | createCopy => cases refusal <;> simp [cellStep, UploadPoint.rank]
  | buildFile unread => cases unread <;> simp [cellStep, UploadPoint.rank]
  | checkFileHashchanged =>
      simp only [cellStep]
      split
      · split <;> simp [UploadPoint.rank]
      · simp [UploadPoint.rank]
  | renameFile =>
      simp only [cellStep]
      split <;> simp [UploadPoint.rank]
  | _ => simp [cellStep, UploadPoint.rank]

theorem step_of_ended {point : UploadPoint} (ended : point.Ended) (disk : Directory) :
    upload.step point disk = (point, disk) := by
  cases point <;> first | exact ended.elim | rfl

theorem iterate_step_of_ended {steps : ℕ} {disk : Directory}
    (ended : ((Function.uncurry upload.step)^[steps] (.testAndCreate, disk)).1.Ended) :
    ((Function.uncurry upload.step)^[steps] (.testAndCreate, disk)).2 = upload.handle disk := by
  have handledEnded :
      (handleWrite fnvDiffers createCopy disk upload.file_name.bytes upload.chunks).1.Ended := by
    by_cases fits : upload.Fits
    · rw [handleWrite_eq _ _ upload.file_name.proper (createCopy_yields fits)]
      split <;> trivial
    · rw [handleWrite_eq_of_refused _ _ upload.file_name.proper (createCopy_refuses fits)]
      trivial
  exact congrArg Prod.snd
    (iterate_eq_of_isFixedPt (upload.step_of_ended ended _) (upload.step_of_ended handledEnded _))

def footprint : Set Bytes :=
  {upload.file_name.bytes, copyName upload.file_name.bytes}

theorem step_confinedTo : ConfinedTo upload.footprint upload.step where
  frame point disk other outside := by
    rw [footprint, Set.mem_insert_iff, Set.mem_singleton_iff, not_or] at outside
    rcases upload.exists_refusal with ⟨refusal, yields⟩
    simp only [step, uploadStep_eq upload.file_name.proper yields]
    exact writeTo_of_ne _ _ outside.1 outside.2
  local_congr point disk other same := by
    have cells : cellsOf disk upload.file_name.bytes = cellsOf other upload.file_name.bytes := by
      rw [cellsOf, cellsOf, same (Set.mem_insert _ _), same (Set.mem_insert_of_mem _ rfl)]
    rcases upload.exists_refusal with ⟨refusal, yields⟩
    rw [step, uploadStep_eq upload.file_name.proper yields,
      uploadStep_eq upload.file_name.proper yields, cells]
  store_congr point disk other same := by
    have cells : cellsOf disk upload.file_name.bytes = cellsOf other upload.file_name.bytes := by
      rw [cellsOf, cellsOf, same (Set.mem_insert _ _), same (Set.mem_insert_of_mem _ rfl)]
    rcases upload.exists_refusal with ⟨refusal, yields⟩
    rintro key (rfl | rfl) <;>
      simp only [step, uploadStep_eq upload.file_name.proper yields, cells, writeTo_file,
        writeTo_copy]

end FileUpload

namespace ConcurrentUploads

variable (uploads : ConcurrentUploads)

/-- Every schedule with enough turns for both threads ends both uploads. -/
theorem ended_of_count {schedule : List Bool} (disk : Directory)
    (firstTurns : uploads.first.chunks.length + 6 ≤ schedule.count true)
    (secondTurns : uploads.second.chunks.length + 6 ≤ schedule.count false) :
    (uploads.run schedule disk).1.Ended ∧ (uploads.run schedule disk).2.1.Ended := by
  have firstRank := interleave_rank_le (stepLeft uploads.first.step)
    (stepRight uploads.second.step) (fun state => state.1.rank uploads.first.chunks)
    (fun state => uploads.first.rank_step_le state.1 state.2.2) (fun _ => le_rfl) schedule
    (.testAndCreate, .testAndCreate, disk)
  have secondRank := interleave_rank_le (stepRight uploads.second.step)
    (stepLeft uploads.first.step) (fun state => state.2.1.rank uploads.second.chunks)
    (fun state => uploads.second.rank_step_le state.2.1 state.2.2) (fun _ => le_rfl)
    (schedule.map not) (.testAndCreate, .testAndCreate, disk)
  have turns : (schedule.map not).count true = schedule.count false :=
    List.count_map_of_injective schedule not Bool.involutive_not.injective false
  rw [← interleave_swap] at secondRank
  rw [UploadPoint.rank_testAndCreate] at firstRank secondRank
  rw [uploads.first.ended_iff_rank, uploads.second.ended_iff_rank, run]
  omega

/-! ### Different files -/

theorem disjoint_footprint (names : uploads.first.file_name ≠ uploads.second.file_name) :
    ∀ key ∈ uploads.first.footprint, key ∉ uploads.second.footprint := by
  have bytes : uploads.first.file_name.bytes ≠ uploads.second.file_name.bytes :=
    fun same => names (FileName.ext same)
  have copies : copyName uploads.first.file_name.bytes ≠ copyName uploads.second.file_name.bytes :=
    fun same => bytes (copyName_injective same)
  rintro key (rfl | rfl)
  · simp [FileUpload.footprint, bytes, uploads.firstNotCopy]
  · simp [FileUpload.footprint, copies, uploads.secondNotCopy.symm]

theorem serialisable_of_ne (names : uploads.first.file_name ≠ uploads.second.file_name)
    (disk : Directory) : uploads.Serialisable disk := by
  intro schedule firstPoint secondPoint final ran firstEnded secondEnded
  have commute := uploads.first.step_confinedTo.commute uploads.second.step_confinedTo
    (uploads.disjoint_footprint names)
  rw [run, interleave_eq_of_commute commute, stepRight_iterate, stepLeft_iterate,
    Prod.mk.injEq, Prod.mk.injEq] at ran
  rcases ran with ⟨rfl, rfl, rfl⟩
  rw [uploads.second.iterate_step_of_ended secondEnded] at firstEnded ⊢
  exact Or.inr (uploads.first.iterate_step_of_ended firstEnded)

end ConcurrentUploads

/-! ### One file -/

namespace FileUpload

variable (upload : FileUpload)

/-- If the copy cannot be created, the file is there nevertheless. -/
theorem handle_of_long (long : ¬upload.Fits) (disk : Directory) :
    upload.handle disk = Function.update disk upload.file_name.bytes
      (some ((disk upload.file_name.bytes).getD [])) := by
  rw [handle, handleWrite_eq_of_refused _ _ upload.file_name.proper (createCopy_refuses long)]

variable {upload} (fits : upload.Fits)
include fits

theorem handle_eq (disk : Directory) :
    upload.handle disk = Cells.writeTo upload.file_name.bytes disk
      { file := some (if fnvDiffers ((disk upload.file_name.bytes).getD []) upload.chunks.flatten
          then upload.chunks.flatten else (disk upload.file_name.bytes).getD [])
        copy := none } := by
  rw [handle, handleWrite_eq _ _ upload.file_name.proper (createCopy_yields fits)]
  split <;> rfl

theorem handle_file {file_name : Bytes} (named : upload.file_name.bytes = file_name)
    (disk : Directory) :
    upload.handle disk file_name =
      some (if fnvDiffers ((disk file_name).getD []) upload.chunks.flatten
        then upload.chunks.flatten else (disk file_name).getD []) := by
  rw [← named, handle_eq fits, writeTo_file]

theorem handle_of_hashesAsEmpty (disk : Directory)
    (storedEmpty : HashesAsEmpty ((disk upload.file_name.bytes).getD []))
    (chunksEmpty : ∀ chunk ∈ upload.chunks, HashesAsEmpty chunk) :
    upload.handle disk = Cells.writeTo upload.file_name.bytes disk
      { file := some ((disk upload.file_name.bytes).getD []), copy := none } := by
  have unchanged : fnvDiffers ((disk upload.file_name.bytes).getD []) upload.chunks.flatten =
      false :=
    fnvDiffers_eq_false_iff.mpr (storedEmpty.trans (HashesAsEmpty.flatten chunksEmpty).symm)
  rw [handle_eq fits, unchanged]
  rfl

end FileUpload

namespace ConcurrentUploads

variable {uploads : ConcurrentUploads} {disk : Directory}

def swap (uploads : ConcurrentUploads) : ConcurrentUploads where
  first := uploads.second
  second := uploads.first
  firstNotCopy := uploads.secondNotCopy
  secondNotCopy := uploads.firstNotCopy

theorem Serialisable.swap (serialisable : uploads.Serialisable disk) :
    uploads.swap.Serialisable disk := by
  intro schedule firstPoint secondPoint final ran firstEnded secondEnded
  have exchanged : uploads.run (schedule.map not) disk = (secondPoint, firstPoint, final) := by
    have turned := congrArg exchange ran
    rwa [run, interleave_exchange] at turned
  exact (serialisable _ _ _ _ exchanged secondEnded firstEnded).symm

section SameName

variable (same : uploads.second.file_name = uploads.first.file_name)
include same

/-- On one file, what the threads do to the directory is what they do to the two files. -/
theorem run_eq_runCells {refusal : Option Exception}
    (yields : CopyCreation.Yields createCopy uploads.first.file_name.bytes refusal)
    (schedule : List Bool) :
    uploads.run schedule disk =
      ((runCells refusal uploads.first.chunks uploads.second.chunks schedule
          (cellsOf disk uploads.first.file_name.bytes)).1,
        (runCells refusal uploads.first.chunks uploads.second.chunks schedule
          (cellsOf disk uploads.first.file_name.bytes)).2.1,
        (runCells refusal uploads.first.chunks uploads.second.chunks schedule
          (cellsOf disk uploads.first.file_name.bytes)).2.2.writeTo
            uploads.first.file_name.bytes disk) := by
  have mapped (upload : FileUpload) (name : upload.file_name = uploads.first.file_name)
      (point : UploadPoint) (cells : Cells) :
      upload.step point (cells.writeTo uploads.first.file_name.bytes disk) =
        ((cellStep fnvDiffers refusal upload.chunks point cells).1,
          (cellStep fnvDiffers refusal upload.chunks point cells).2.writeTo
            uploads.first.file_name.bytes disk) := by
    rw [FileUpload.step, name, uploadStep_eq uploads.first.file_name.proper yields,
      cellsOf_writeTo, writeTo_writeTo]
  have runs := interleave_map (semiconj_stepLeft (mapped uploads.first rfl))
    (semiconj_stepRight (mapped uploads.second same)) schedule
    (.testAndCreate, .testAndCreate, cellsOf disk uploads.first.file_name.bytes)
  simp only [writeTo_cellsOf] at runs
  exact runs.symm

theorem run_of_runCells (fits : uploads.first.Fits) {schedule : List Bool}
    {firstPoint secondPoint : UploadPoint} {cells : Cells}
    (ran : runCells none uploads.first.chunks uploads.second.chunks schedule
      (cellsOf disk uploads.first.file_name.bytes) = (firstPoint, secondPoint, cells)) :
    uploads.run schedule disk =
      (firstPoint, secondPoint, cells.writeTo uploads.first.file_name.bytes disk) := by
  rw [run_eq_runCells same (createCopy_yields fits), ran]

/-- Uploads of which there can be no copies only create the file. -/
theorem serialisable_of_long (long : ¬uploads.first.Fits) : uploads.Serialisable disk := by
  intro schedule firstPoint secondPoint final ran firstEnded _
  rw [run_eq_runCells same (createCopy_refuses long), Prod.mk.injEq, Prod.mk.injEq] at ran
  rcases ran with ⟨rfl, rfl, rfl⟩
  have secondLong : ¬uploads.second.Fits := by
    rw [FileUpload.Fits, same]
    exact long
  rw [cells_of_refused _ _ _ _ _ firstEnded, Cells.created, writeTo_setFile,
    FileUpload.handle_of_long _ secondLong, FileUpload.handle_of_long _ long, same,
    Function.update_self, Option.getD_some, Function.update_idem]
  exact Or.inl rfl

theorem serialisable_of_hashesAsEmpty (fits : uploads.first.Fits)
    (storedEmpty : HashesAsEmpty ((disk uploads.first.file_name.bytes).getD []))
    (firstEmpty : ∀ chunk ∈ uploads.first.chunks, HashesAsEmpty chunk)
    (secondEmpty : ∀ chunk ∈ uploads.second.chunks, HashesAsEmpty chunk) :
    uploads.Serialisable disk := by
  intro schedule firstPoint secondPoint final ran firstEnded secondEnded
  rw [run_eq_runCells same (createCopy_yields fits), Prod.mk.injEq, Prod.mk.injEq] at ran
  rcases ran with ⟨rfl, rfl, rfl⟩
  have secondFits : uploads.second.Fits := by
    rw [FileUpload.Fits, same]
    exact fits
  rw [cells_of_quiet storedEmpty firstEmpty secondEmpty schedule _ rfl firstEnded secondEnded]
  have firstHandled := FileUpload.handle_of_hashesAsEmpty fits disk storedEmpty firstEmpty
  have kept : (uploads.first.handle disk uploads.second.file_name.bytes).getD [] =
      (disk uploads.first.file_name.bytes).getD [] := by
    rw [same, firstHandled, writeTo_file, Option.getD_some]
  have secondHandled := FileUpload.handle_of_hashesAsEmpty secondFits (uploads.first.handle disk)
    (kept ▸ storedEmpty) secondEmpty
  rw [secondHandled, kept, firstHandled, same, writeTo_writeTo]
  exact Or.inl rfl

/-- Serialisable uploads of one file cannot be mixed to anything but what is stored. -/
theorem Serialisable.mixture_unchanged (fits : uploads.first.Fits)
    (serialisable : uploads.Serialisable disk)
    {early late : List Bytes} (split : uploads.first.chunks = early ++ late) :
    fnvDiffers ((disk uploads.first.file_name.bytes).getD [])
      (late.flatten ++ uploads.second.chunks.flatten) = false := by
  by_contra mixed
  have lost := cells_mixed early
    (cellsOf disk uploads.first.file_name.bytes) (Bool.eq_true_of_not_eq_false mixed)
  rw [← split] at lost
  have secondFits : uploads.second.Fits := by
    rw [FileUpload.Fits, same]
    exact fits
  rcases serialisable _ _ _ _ (run_of_runCells same fits lost) trivial trivial with serial | serial
  · have stored := congrFun serial uploads.first.file_name.bytes
    rw [FileUpload.handle_file secondFits (congrArg _ same), writeTo_file] at stored
    cases stored
  · have stored := congrFun serial uploads.first.file_name.bytes
    rw [FileUpload.handle_file fits rfl, writeTo_file] at stored
    cases stored

end SameName

/-- Uploads are serialisable exactly if they are to different files, or to one whose copy cannot be
created, or if the hash test does not tell the stored content and any of the chunks from the empty
file. -/
theorem serialisable_iff (uploads : ConcurrentUploads) (disk : Directory) :
    uploads.Serialisable disk ↔
      uploads.first.file_name ≠ uploads.second.file_name ∨ ¬uploads.first.Fits ∨
        HashesAsEmpty ((disk uploads.first.file_name.bytes).getD []) ∧
          (∀ chunk ∈ uploads.first.chunks, HashesAsEmpty chunk) ∧
            ∀ chunk ∈ uploads.second.chunks, HashesAsEmpty chunk := by
  by_cases same : uploads.second.file_name = uploads.first.file_name
  · have swapped : uploads.swap.second.file_name = uploads.swap.first.file_name := same.symm
    rw [same]
    simp only [ne_eq, not_true_eq_false, false_or]
    constructor
    · intro serialisable
      rw [or_iff_not_imp_left, not_not]
      intro fits
      have swappedFits : uploads.swap.first.Fits := by
        rw [FileUpload.Fits, ← swapped]
        exact fits
      apply hashesAsEmpty_of_mixtures
      · intro early late split
        exact serialisable.mixture_unchanged same fits split
      · intro early late split
        rw [← same]
        exact serialisable.swap.mixture_unchanged swapped swappedFits split
    · rintro (long | ⟨storedEmpty, firstEmpty, secondEmpty⟩)
      · exact serialisable_of_long same long
      · by_cases fits : uploads.first.Fits
        · exact serialisable_of_hashesAsEmpty same fits storedEmpty firstEmpty secondEmpty
        · exact serialisable_of_long same fits
  · have names : uploads.first.file_name ≠ uploads.second.file_name := Ne.symm same
    constructor
    · intro _
      exact Or.inl names
    · intro _
      exact uploads.serialisable_of_ne names disk

/-- Uploads of the contents `a` and `bc` to one file, the second one in two chunks. -/
def uploadsOfOneFile : ConcurrentUploads where
  first := { file_name := ⟨ascii "notes", by decide⟩, chunks := [ascii "a"] }
  second := { file_name := ⟨ascii "notes", by decide⟩, chunks := [ascii "b", ascii "c"] }
  firstNotCopy := by decide
  secondNotCopy := by decide

/-- The schedule in which the first upload ends between the two chunks of the second one. -/
def renamingSchedule : List Bool :=
  [true, true, false, false, true, false, true, true, true, true]

/-- The first upload renames the mixture `ab`, and the second one ends with the content `c`. -/
theorem uploadsOfOneFile_mixed :
    ((uploadsOfOneFile.run renamingSchedule fun _ => none).1 = .finished true ∧
      (uploadsOfOneFile.run renamingSchedule fun _ => none).2.2 (ascii "notes") =
        some (ascii "ab")) ∧
    ((uploadsOfOneFile.run (renamingSchedule ++ List.replicate 5 false) fun _ => none).2.1 =
        .finished true ∧
      (uploadsOfOneFile.run (renamingSchedule ++ List.replicate 5 false) fun _ => none).2.2
        (ascii "notes") = some (ascii "c")) ∧
    ¬ uploadsOfOneFile.Serialisable fun _ => none := by
  have firstDiffers : fnvDiffers [] (ascii "ab") = true := by
    simp only [fnvDiffers, fnv1a_eq_foldl]
    decide
  have secondDiffers : fnvDiffers (ascii "ab") (ascii "c") = true := by
    simp only [fnvDiffers, fnv1a_eq_foldl]
    decide
  have renamed : runCells none [ascii "a"] [ascii "b", ascii "c"] renamingSchedule ⟨none, none⟩ =
      (.finished true, .buildFile [ascii "c"], ⟨some (ascii "ab"), none⟩) := by
    have joined : ascii "a" ++ ascii "b" = ascii "ab" := by decide
    simp [renamingSchedule, runCells, interleave, stepLeft, stepRight, cellStep, joined,
      firstDiffers]
  have ended : runCells none [ascii "a"] [ascii "b", ascii "c"]
      (renamingSchedule ++ List.replicate 5 false) ⟨none, none⟩ =
        (.finished true, .finished true, ⟨some (ascii "c"), none⟩) := by
    rw [runCells] at renamed ⊢
    rw [interleave_append, renamed, interleave_replicate_false]
    simp [stepRight, cellStep, secondDiffers]
  have renamedRun : uploadsOfOneFile.run renamingSchedule (fun _ => none) =
      (.finished true, .buildFile [ascii "c"],
        Cells.writeTo (ascii "notes") (fun _ => none) ⟨some (ascii "ab"), none⟩) :=
    run_of_runCells rfl (by decide) renamed
  have endedRun : uploadsOfOneFile.run (renamingSchedule ++ List.replicate 5 false)
      (fun _ => none) = (.finished true, .finished true,
        Cells.writeTo (ascii "notes") (fun _ => none) ⟨some (ascii "c"), none⟩) :=
    run_of_runCells rfl (by decide) ended
  rw [renamedRun, endedRun]
  refine ⟨⟨rfl, by simp only [writeTo_file]⟩, ⟨rfl, by simp only [writeTo_file]⟩, ?_⟩
  intro serialisable
  have firstFits : uploadsOfOneFile.first.Fits := by decide
  have secondFits : uploadsOfOneFile.second.Fits := by decide
  have firstNamed : uploadsOfOneFile.first.file_name.bytes = ascii "notes" := rfl
  have secondNamed : uploadsOfOneFile.second.file_name.bytes = ascii "notes" := rfl
  rcases serialisable _ _ _ _ endedRun trivial trivial with serial | serial
  · have stored := congrFun serial (ascii "notes")
    rw [writeTo_file, FileUpload.handle_file secondFits secondNamed,
      FileUpload.handle_file firstFits firstNamed] at stored
    split_ifs at stored <;> exact absurd stored (by decide)
  · have stored := congrFun serial (ascii "notes")
    rw [writeTo_file, FileUpload.handle_file firstFits firstNamed,
      FileUpload.handle_file secondFits secondNamed] at stored
    split_ifs at stored <;> exact absurd stored (by decide)

end ConcurrentUploads

end Device

end SyncDir
