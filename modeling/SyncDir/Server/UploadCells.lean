import Mathlib.Data.Set.Function
import SyncDir.Library.Interleaving
import SyncDir.Server.Device

/-!
# Uploads as steps on two files

The handling of an upload only concerns the file with the name of the upload and
its copy.  `cellStep` says what each step does to these two files, and
`uploadStep_eq` that this is all that a step does to a directory.  The result of
a whole upload, and what two uploads do to each other, are worked out on the two
files and carried over to directories.

A copy whose name is too long is never created, in whatever directory, so that
the exception that is then thrown (the `refusal`) is a parameter of the steps.
-/

namespace SyncDir

namespace Device

open FileManager

structure Cells where
  file : Option Bytes
  copy : Option Bytes
  deriving DecidableEq

def cellsOf (disk : Directory) (file_name : Bytes) : Cells :=
  { file := disk file_name, copy := disk (copyName file_name) }

def Cells.writeTo (file_name : Bytes) (disk : Directory) (cells : Cells) : Directory :=
  Function.update (Function.update disk file_name cells.file) (copyName file_name) cells.copy

/-- How the creation of the copy of a file turns out, whatever the directory. -/
def CopyCreation.Yields (create : CopyCreation) (file_name : Bytes)
    (refusal : Option Exception) : Prop :=
  ∀ disk, create disk file_name =
    match refusal with
    | none => .ok (Function.update disk (copyName file_name) (some []))
    | some exception => .error exception

theorem createFile_yields (file_name : Bytes) :
    CopyCreation.Yields (fun disk file_name => createFile disk (copyName file_name)) file_name
      none :=
  fun disk => createFile_of_proper (isDirectory_copyName file_name) disk

theorem createCopy_yields {file_name : Bytes} (fits : (copyName file_name).length ≤ NAME_MAX) :
    CopyCreation.Yields createCopy file_name none := by
  intro disk
  rw [createCopy, if_neg (Nat.not_lt.mpr fits)]
  exact createFile_yields file_name disk

theorem createCopy_refuses {file_name : Bytes} (long : ¬(copyName file_name).length ≤ NAME_MAX) :
    CopyCreation.Yields createCopy file_name
      (some (.runtime_error "Falha ao criar arquivo: ")) :=
  fun _ => if_pos (Nat.not_le.mp long)

/-- One step of the handling of a `t_WRITE` packet, on the two files that it concerns. -/
def cellStep (differs : Bytes → Bytes → Bool) (refusal : Option Exception) (chunks : List Bytes) :
    UploadPoint → Cells → UploadPoint × Cells
  | .testAndCreate, cells => (.createCopy, { cells with file := some (cells.file.getD []) })
  | .createCopy, cells =>
      match refusal with
      | none => (.buildFile chunks, { cells with copy := some [] })
      | some exception => (.raised exception, cells)
  | .buildFile (data :: unread), cells =>
      (.buildFile unread, { cells with copy := some (cells.copy.getD [] ++ data) })
  | .buildFile [], cells => (.checkFileHashchanged, cells)
  | .checkFileHashchanged, cells =>
      match cells.file, cells.copy with
      | some original, some copy =>
          (if differs original copy then .deleteFile else .deleteCopy, cells)
      | _, _ => (.raised (.runtime_error "Erro ao abrir o arquivo: "), cells)
  | .deleteFile, cells => (.renameFile, { cells with file := none })
  | .renameFile, cells =>
      match cells.copy with
      | some copy => (.finished true, { file := some copy, copy := none })
      | none => (.raised (.runtime_error "filesystem error: cannot rename"), cells)
  | .deleteCopy, cells => (.finished false, { cells with copy := none })
  | .finished changed, cells => (.finished changed, cells)
  | .raised exception, cells => (.raised exception, cells)

section Cells

variable {file_name : Bytes}

@[simp]
theorem cellsOf_file (disk : Directory) : (cellsOf disk file_name).file = disk file_name :=
  rfl

@[simp]
theorem cellsOf_copy (disk : Directory) :
    (cellsOf disk file_name).copy = disk (copyName file_name) :=
  rfl

@[simp]
theorem writeTo_file (disk : Directory) (cells : Cells) :
    cells.writeTo file_name disk file_name = cells.file := by
  rw [Cells.writeTo, Function.update_of_ne (copyName_ne_self file_name).symm, Function.update_self]

@[simp]
theorem writeTo_copy (disk : Directory) (cells : Cells) :
    cells.writeTo file_name disk (copyName file_name) = cells.copy := by
  rw [Cells.writeTo, Function.update_self]

theorem writeTo_of_ne (disk : Directory) (cells : Cells) {other : Bytes}
    (notFile : other ≠ file_name) (notCopy : other ≠ copyName file_name) :
    cells.writeTo file_name disk other = disk other := by
  rw [Cells.writeTo, Function.update_of_ne notCopy, Function.update_of_ne notFile]

@[simp]
theorem cellsOf_writeTo (disk : Directory) (cells : Cells) :
    cellsOf (cells.writeTo file_name disk) file_name = cells := by
  simp [cellsOf]

@[simp]
theorem writeTo_cellsOf (disk : Directory) :
    (cellsOf disk file_name).writeTo file_name disk = disk := by
  simp [Cells.writeTo, cellsOf]

@[simp]
theorem writeTo_writeTo (disk : Directory) (first second : Cells) :
    second.writeTo file_name (first.writeTo file_name disk) = second.writeTo file_name disk := by
  funext other
  by_cases isFile : other = file_name
  · subst other
    simp
  · by_cases isCopy : other = copyName file_name
    · subst other
      simp
    · simp only [writeTo_of_ne _ _ isFile isCopy]

theorem writeTo_setFile (disk : Directory) (file : Option Bytes) :
    Cells.writeTo file_name disk { cellsOf disk file_name with file } =
      Function.update disk file_name file := by
  have other := copyName_ne_self file_name
  rw [Cells.writeTo, Function.update_eq_self_iff, Function.update_of_ne other]
  rfl

theorem writeTo_setCopy (disk : Directory) (copy : Option Bytes) :
    Cells.writeTo file_name disk { cellsOf disk file_name with copy } =
      Function.update disk (copyName file_name) copy := by
  rw [Cells.writeTo, cellsOf, Function.update_eq_self]

variable {differs : Bytes → Bytes → Bool} {create : CopyCreation} {refusal : Option Exception}
  {chunks : List Bytes} (proper : isDirectory file_name = false)
  (yields : create.Yields file_name refusal)
include proper yields

/-- A step of an upload does to the directory what it does to the two files. -/
theorem uploadStep_eq (point : UploadPoint) (disk : Directory) :
    uploadStep differs create file_name chunks point disk =
      ((cellStep differs refusal chunks point (cellsOf disk file_name)).1,
        (cellStep differs refusal chunks point (cellsOf disk file_name)).2.writeTo
          file_name disk) := by
  have copyProper := isDirectory_copyName file_name
  cases point with
  | testAndCreate =>
      rw [uploadStep, cellStep, writeTo_setFile, isFileExists_of_proper proper,
        createFile_of_proper proper]
      cases stored : disk file_name <;> simp [attempt, cellsOf, stored]
  | createCopy =>
      rw [uploadStep, yields disk]
      cases refusal with
      | none =>
          rw [cellStep, writeTo_setCopy]
          rfl
      | some exception =>
          rw [cellStep, writeTo_cellsOf]
          rfl
  | buildFile unread =>
      cases unread with
      | nil => rw [uploadStep, cellStep, writeTo_cellsOf]
      | cons data unread =>
          rw [uploadStep, cellStep, writeTo_setCopy, writeFile_of_proper copyProper]
          rfl
  | checkFileHashchanged =>
      rw [uploadStep, cellStep, compareFiles, streamed_of_proper proper,
        streamed_of_proper copyProper, cellsOf_file, cellsOf_copy]
      cases disk file_name with
      | none => simp
      | some original =>
          cases disk (copyName file_name) with
          | none => simp
          | some copy => cases compared : differs original copy <;> simp [compared]
  | deleteFile =>
      rw [uploadStep, cellStep, writeTo_setFile, deleteFile_of_proper proper]
      rfl
  | renameFile =>
      rw [uploadStep, cellStep, cellsOf_copy]
      cases copied : disk (copyName file_name) with
      | none => simp [FileManager.renameFile, copied, attempt]
      | some copy =>
          rw [renameFile_of_some proper disk copied, Cells.writeTo,
            Function.update_comm (copyName_ne_self file_name)]
          rfl
  | deleteCopy =>
      rw [uploadStep, cellStep, writeTo_setCopy, deleteFile_of_proper copyProper]
      rfl
  | finished changed => rw [uploadStep, cellStep, writeTo_cellsOf]
  | raised exception => rw [uploadStep, cellStep, writeTo_cellsOf]

end Cells

/-! ### Whole uploads -/

section Runs

variable (differs : Bytes → Bytes → Bool) {create : CopyCreation} {refusal : Option Exception}
  {file_name : Bytes} (chunks : List Bytes)

theorem uploadStep_iterate (proper : isDirectory file_name = false)
    (yields : create.Yields file_name refusal) (disk : Directory) (steps : ℕ)
    (point : UploadPoint) (cells : Cells) :
    (Function.uncurry (uploadStep differs create file_name chunks))^[steps]
        (point, cells.writeTo file_name disk) =
      (((Function.uncurry (cellStep differs refusal chunks))^[steps] (point, cells)).1,
        ((Function.uncurry (cellStep differs refusal chunks))^[steps] (point, cells)).2.writeTo
          file_name disk) := by
  induction steps generalizing point cells with
  | zero => rfl
  | succ steps ih =>
      simp only [Function.iterate_succ_apply, Function.uncurry_apply_pair,
        uploadStep_eq proper yields, cellsOf_writeTo, writeTo_writeTo]
      exact ih _ _

/-- Once the copy exists, chunks are appended to it. -/
theorem cellStep_iterate_buildFile (refusal : Option Exception) (data unread : List Bytes)
    (file : Option Bytes) (built : Bytes) :
    (Function.uncurry (cellStep differs refusal chunks))^[data.length]
        (.buildFile (data ++ unread), { file, copy := some built }) =
      (.buildFile unread, { file, copy := some (built ++ data.flatten) }) := by
  induction data generalizing built with
  | nil => simp
  | cons chunk data ih =>
      rw [List.length_cons, Function.iterate_succ_apply, List.cons_append,
        Function.uncurry_apply_pair, cellStep, Option.getD_some, ih, List.flatten_cons,
        List.append_assoc]

theorem cellStep_iterate_early (early late : List Bytes) (cells : Cells) :
    (Function.uncurry (cellStep differs none (early ++ late)))^[early.length + 2]
        (.testAndCreate, cells) =
      (.buildFile late, { file := some (cells.file.getD []), copy := some early.flatten }) := by
  have built := cellStep_iterate_buildFile differs (early ++ late) none early late
    (some (cells.file.getD [])) []
  rw [Function.iterate_add_apply]
  simpa only [Function.iterate_succ_apply, Function.iterate_zero_apply,
    Function.uncurry_apply_pair, cellStep, List.nil_append] using built

theorem cellStep_iterate_testAndCreate (cells : Cells) :
    (Function.uncurry (cellStep differs none chunks))^[chunks.length + 3] (.testAndCreate, cells) =
      (.checkFileHashchanged,
        { file := some (cells.file.getD []), copy := some chunks.flatten }) := by
  have built := cellStep_iterate_early differs chunks [] cells
  rw [List.append_nil] at built
  rw [Function.iterate_succ_apply', built]
  rfl

theorem cellStep_iterate (cells : Cells) :
    (Function.uncurry (cellStep differs none chunks))^[chunks.length + 6]
        (.testAndCreate, cells) =
      if differs (cells.file.getD []) chunks.flatten then
        (.finished true, { file := some chunks.flatten, copy := none })
      else
        (.finished false, { file := some (cells.file.getD []), copy := none }) := by
  rw [show chunks.length + 6 = 3 + (chunks.length + 3) by omega, Function.iterate_add_apply,
    cellStep_iterate_testAndCreate]
  cases compared : differs (cells.file.getD []) chunks.flatten <;>
    simp [Function.uncurry_apply_pair, cellStep, compared]

/-- Without a copy the upload ends when the file has been created. -/
theorem cellStep_iterate_refused (exception : Exception) (steps : ℕ) (cells : Cells) :
    (Function.uncurry (cellStep differs (some exception) chunks))^[steps + 2]
        (.testAndCreate, cells) =
      (.raised exception, { cells with file := some (cells.file.getD []) }) := by
  rw [Function.iterate_add_apply]
  exact Function.iterate_fixed rfl steps

/-- The handling of a `t_WRITE` packet replaces the stored file if the comparison tells it
apart, and removes the copy otherwise. -/
theorem handleWrite_eq (proper : isDirectory file_name = false)
    (yields : create.Yields file_name none) (disk : Directory) :
    handleWrite differs create disk file_name chunks =
      if differs ((disk file_name).getD []) chunks.flatten then
        (.finished true, Cells.writeTo file_name disk
          { file := some chunks.flatten, copy := none })
      else
        (.finished false, Cells.writeTo file_name disk
          { file := some ((disk file_name).getD []), copy := none }) := by
  have run := uploadStep_iterate differs chunks proper yields disk (chunks.length + 6)
    .testAndCreate (cellsOf disk file_name)
  rw [writeTo_cellsOf, cellStep_iterate, cellsOf_file] at run
  rw [handleWrite, run]
  split <;> rfl

theorem handleWrite_eq_of_refused {exception : Exception} (proper : isDirectory file_name = false)
    (refused : create.Yields file_name (some exception)) (disk : Directory) :
    handleWrite differs create disk file_name chunks =
      (.raised exception,
        Function.update disk file_name (some ((disk file_name).getD []))) := by
  have run := uploadStep_iterate differs chunks proper refused disk (chunks.length + 6)
    .testAndCreate (cellsOf disk file_name)
  rw [writeTo_cellsOf, cellStep_iterate_refused differs chunks exception (chunks.length + 4),
    writeTo_setFile] at run
  exact run

end Runs

end Device

end SyncDir
