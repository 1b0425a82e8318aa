import Mathlib.Logic.Function.Basic
import SyncDir.Library.Mirror.Basic
import SyncDir.Utils.Bytes

/-!
# The file manager

A `FileManager` works on the regular files of its base directory.  A directory
is the map from the names that can be read to the bytes found there, and the
operations are the ones of the source on this map.  Names are kept as the
callers spell them.  A name can also lead to the base directory itself or to one
above it (`isDirectory`), which opens for reading but yields no bytes, and can
neither be written nor removed.

Opening modes matter: `createFile` and `clearFile` truncate, `writeFile` appends
and creates the file if it is missing.

The texts of exceptions are those of the source without the path that is
appended to some of them; log lines, file times and failures of the operating
system on well-formed names are left out.
-/

namespace SyncDir

/-- The exceptions that the program throws or the standard library raises for it. -/
inductive Exception
  /-- `std::runtime_error` and what derives from it, such as `filesystem_error`. -/
  | runtime_error (what : String)
  /-- `std::logic_error`, raised for a string built from a null pointer. -/
  | logic_error (what : String)
  deriving DecidableEq

/-- The regular files of a base directory, by name. -/
abbrev Directory := Bytes → Option Bytes

/-- A change of one file of a directory, which the packets `t_WRITE` and `t_DELETE` report. -/
abbrev Change := Mirror.Change Bytes Bytes

namespace FileManager

/-- A name that leads to a directory in which there are only regular files, or to one above it:
each of its components is empty, `.` or `..`. -/
def isDirectory (file_name : Bytes) : Bool :=
  (file_name.splitOn 47).all fun component =>
    component == [] || component == ascii "." || component == ascii ".."

/-- `isFileExists`: whether the file can be opened for reading, as a directory can. -/
def isFileExists (disk : Directory) (file_name : Bytes) : Bool :=
  isDirectory file_name || (disk file_name).isSome

def readFile (disk : Directory) (file_name : Bytes) : Except Exception Bytes :=
  match disk file_name with
  | some content => .ok content
  | none =>
      if isDirectory file_name then
        .error (.runtime_error "basic_filebuf::underflow error reading the file")
      else .error (.runtime_error "Falha ao abrir o arquivo: ")

/-- `createFile`: an `ofstream` without further mode truncates an existing file. -/
def createFile (disk : Directory) (file_name : Bytes) : Except Exception Directory :=
  if isDirectory file_name then .error (.runtime_error "Falha ao criar arquivo: ")
  else .ok (Function.update disk file_name (some []))

/-- `clearFile` truncates or creates a file and does not check whether it could be opened. -/
def clearFile (disk : Directory) (file_name : Bytes) : Directory :=
  if isDirectory file_name then disk else Function.update disk file_name (some [])

/-- `writeFile` always appends to the file. -/
def writeFile (disk : Directory) (file_name data : Bytes) : Except Exception Directory :=
  if isDirectory file_name then .error (.runtime_error "Falha ao abrir arquivo: ")
  else .ok (Function.update disk file_name (some ((disk file_name).getD [] ++ data)))

/-- `deleteFile` does nothing if the file does not exist.  A directory is found, and removing it
fails: `remove` would only delete one that is empty. -/
def deleteFile (disk : Directory) (file_name : Bytes) : Except Exception Directory :=
  if isFileExists disk file_name then
    if isDirectory file_name then .error (.runtime_error "Falha ao deletar arquivo: ")
    else .ok (Function.update disk file_name none)
  else .ok disk

def renameFile (disk : Directory) (file_name new_name : Bytes) : Except Exception Directory :=
  match disk file_name with
  | none => .error (.runtime_error "filesystem error: cannot rename")
  | some content =>
      if isDirectory new_name then .error (.runtime_error "filesystem error: cannot rename")
      else .ok (Function.update (Function.update disk file_name none) new_name (some content))

/-- What is left after data has been appended in nonempty portions, of which there are none for
empty data. -/
def appended (disk : Directory) (file_name data : Bytes) : Directory :=
  if data = [] then disk
  else Function.update disk file_name (some ((disk file_name).getD [] ++ data))

theorem appended_append (disk : Directory) (file_name first second : Bytes) :
    appended (appended disk file_name first) file_name second =
      appended disk file_name (first ++ second) := by
  by_cases noFirst : first = [] <;> by_cases noSecond : second = [] <;>
    simp [appended, noFirst, noSecond]

theorem appended_eq_iff {disk : Directory} {file_name data : Bytes} :
    appended disk file_name data = Function.update disk file_name (some data) ↔
      disk file_name = some [] ∨ data ≠ [] ∧ disk file_name = none := by
  by_cases noData : data = []
  · subst data
    rw [appended, if_pos rfl, eq_comm, Function.update_eq_self_iff, eq_comm]
    simp
  · rw [appended, if_neg noData, (Function.update_injective disk file_name).eq_iff]
    cases disk file_name <;> simp [noData]

theorem update_none_eq_iff {disk : Directory} {first second : Bytes} :
    Function.update disk first none = Function.update disk second none ↔
      first = second ∨ disk first = none ∧ disk second = none := by
  constructor
  · intro same
    by_cases names : first = second
    · exact Or.inl names
    · have atFirst := congrFun same first
      have atSecond := congrFun same second
      rw [Function.update_self, Function.update_of_ne names] at atFirst
      rw [Function.update_self, Function.update_of_ne (Ne.symm names)] at atSecond
      exact Or.inr ⟨atFirst.symm, atSecond⟩
  · rintro (rfl | ⟨firstAbsent, secondAbsent⟩)
    · rfl
    · rw [Function.update_eq_self_iff.mpr firstAbsent.symm,
        Function.update_eq_self_iff.mpr secondAbsent.symm]

theorem readFile_of_none {disk : Directory} {file_name : Bytes} (absent : disk file_name = none) :
    ∃ exception, readFile disk file_name = .error exception := by
  simp only [readFile, absent]
  split_ifs <;> exact ⟨_, rfl⟩

/-- Several calls of `writeFile`, one for each chunk of data. -/
def writeChunks (disk : Directory) (file_name : Bytes) (chunks : List Bytes) :
    Except Exception Directory :=
  chunks.foldlM (fun written data => writeFile written file_name data) disk

/-! ### Names that lead to a directory -/

theorem isDirectory_of_notMem {file_name : Bytes} (noSlash : 47 ∉ file_name) :
    isDirectory file_name =
      (file_name == [] || file_name == ascii "." || file_name == ascii "..") := by
  rw [isDirectory, List.splitOn_eq_singleton noSlash, List.all_cons, List.all_nil, Bool.and_true]

/-- The first component of a name begins with its first byte. -/
theorem isDirectory_cons {byte : UInt8} (notDot : byte ≠ 46) (notSlash : byte ≠ 47)
    (rest : Bytes) : isDirectory (byte :: rest) = false := by
  have first := List.splitOn_cons_eq_if_modifyHead (a := (47 : UInt8)) byte rest
  have proper (component : Bytes) : (byte :: component == ascii ".") = false ∧
      (byte :: component == ascii "..") = false := by
    have dot : ascii "." = [46] := rfl
    have dotdot : ascii ".." = [46, 46] := rfl
    simp [dot, dotdot, notDot]
  rw [isDirectory, first, if_neg (by simpa using notSlash)]
  cases components : rest.splitOn 47 with
  | nil => exact absurd components (List.splitOn_ne_nil _ _)
  | cons component components => simp [proper component]

theorem isDirectory_copyName (file_name : Bytes) : isDirectory (copyName file_name) = false :=
  @isDirectory_cons 99 (by decide) (by decide) _

theorem ne_nil_of_proper {file_name : Bytes} (proper : isDirectory file_name = false) :
    file_name ≠ [] := by
  rintro rfl
  exact absurd proper (by decide)

/-! ### Operations on proper names -/

section ProperNames

variable {file_name : Bytes} (proper : isDirectory file_name = false) (disk : Directory)
include proper

theorem isFileExists_of_proper : isFileExists disk file_name = (disk file_name).isSome := by
  rw [isFileExists, proper, Bool.false_or]

theorem createFile_of_proper :
    createFile disk file_name = .ok (Function.update disk file_name (some [])) :=
  if_neg (Bool.eq_false_iff.mp proper)

theorem clearFile_of_proper :
    clearFile disk file_name = Function.update disk file_name (some []) :=
  if_neg (Bool.eq_false_iff.mp proper)

theorem writeFile_of_proper (data : Bytes) :
    writeFile disk file_name data =
      .ok (Function.update disk file_name (some ((disk file_name).getD [] ++ data))) :=
  if_neg (Bool.eq_false_iff.mp proper)

theorem writeFile_eq_appended {data : Bytes} (nonempty : data ≠ []) :
    writeFile disk file_name data = .ok (appended disk file_name data) := by
  rw [writeFile_of_proper proper, appended, if_neg nonempty]

theorem writeChunks_eq_appended {chunks : List Bytes} (nonempty : ∀ chunk ∈ chunks, chunk ≠ []) :
    writeChunks disk file_name chunks = .ok (appended disk file_name chunks.flatten) := by
  induction chunks generalizing disk with
  | nil => simp [writeChunks, appended, pure, Except.pure]
  | cons chunk chunks ih =>
      have rest := ih (appended disk file_name chunk) fun later later_mem =>
        nonempty later (List.mem_cons_of_mem _ later_mem)
      rw [appended_append, writeChunks] at rest
      rw [writeChunks, List.foldlM_cons,
        writeFile_eq_appended proper disk (nonempty chunk List.mem_cons_self), List.flatten_cons]
      exact rest

theorem deleteFile_of_proper :
    deleteFile disk file_name = .ok (Function.update disk file_name none) := by
  rw [deleteFile, isFileExists_of_proper proper, if_neg (Bool.eq_false_iff.mp proper)]
  cases stored : disk file_name with
  | none => simp [stored]
  | some content => rfl

theorem renameFile_of_some {old_name content : Bytes} (stored : disk old_name = some content) :
    renameFile disk old_name file_name = .ok
      (Function.update (Function.update disk old_name none) file_name (some content)) := by
  simp only [renameFile, stored, if_neg (Bool.eq_false_iff.mp proper)]

end ProperNames

/-! ### Hashing -/

def FNV_OFFSET_BASIS : UInt64 := 14695981039346656037

def FNV_PRIME : UInt64 := 1099511628211

/-- The size of the read buffer of `hash_file_fnv1a`. -/
def HASH_BUFFER_SIZE : ℕ := 8192

def hashByte (hash : UInt64) (byte : UInt8) : UInt64 :=
  (hash ^^^ byte.toUInt64) * FNV_PRIME

/-- An `ifstream`: what is left to be read, and whether no reading has failed. -/
structure InputStream where
  unread : Bytes
  good : Bool

namespace InputStream

def opened (content : Bytes) : InputStream :=
  { unread := content, good := true }

/-- `read` puts the bytes into the buffer that `gcount` counts.  It fails if there are less than
asked for. -/
def read (file : InputStream) (count : ℕ) : Bytes × InputStream :=
  if file.good then
    (file.unread.take count,
      { unread := file.unread.drop count, good := count ≤ file.unread.length })
  else
    ([], file)

theorem length_read_lt {file : InputStream} {count : ℕ} (positive : 0 < count)
    (goesOn : (file.read count).2.good ∨ 0 < (file.read count).1.length) :
    (file.read count).2.unread.length < file.unread.length := by
  by_cases good : file.good = true
  · simp only [read, good, if_true, decide_eq_true_eq, List.length_take,
      List.length_drop] at goesOn ⊢
    omega
  · simp [read, good] at goesOn

end InputStream

/-- The read loop of `hash_file_fnv1a`. -/
def hashStream (hash : UInt64) (file : InputStream) : UInt64 :=
  let result := file.read HASH_BUFFER_SIZE
  if result.2.good ∨ 0 < result.1.length then
    hashStream (result.1.foldl hashByte hash) result.2
  else
    hash
termination_by file.unread.length
decreasing_by exact InputStream.length_read_lt (by decide) ‹_›

def fnv1a (content : Bytes) : UInt64 :=
  hashStream FNV_OFFSET_BASIS (.opened content)

/-- What an `ifstream` reads: a directory opens, but reading from it fails at once. -/
def streamed (disk : Directory) (filename : Bytes) : Option Bytes :=
  match disk filename with
  | some content => some content
  | none => if isDirectory filename then some [] else none

theorem streamed_of_some {disk : Directory} {filename content : Bytes}
    (stored : disk filename = some content) : streamed disk filename = some content := by
  rw [streamed, stored]

theorem streamed_of_proper {filename : Bytes} (proper : isDirectory filename = false)
    (disk : Directory) : streamed disk filename = disk filename := by
  rw [streamed, proper]
  cases disk filename <;> rfl

def hash_file_fnv1a (disk : Directory) (filename : Bytes) : Except Exception UInt64 :=
  match streamed disk filename with
  | none => .error (.runtime_error "Erro ao abrir o arquivo: ")
  | some content => .ok (fnv1a content)

def fnvDiffers (original copy : Bytes) : Bool :=
  fnv1a original != fnv1a copy

/-- Open two files and apply a test for a change to their contents. -/
def compareFiles (differs : Bytes → Bytes → Bool) (disk : Directory)
    (file_name_original file_name_copy : Bytes) : Except Exception Bool :=
  match streamed disk file_name_original, streamed disk file_name_copy with
  | some original, some copy => .ok (differs original copy)
  | _, _ => .error (.runtime_error "Erro ao abrir o arquivo: ")

def checkFileHashchanged (disk : Directory) (file_name_original file_name_copy : Bytes) :
    Except Exception Bool := do
  let original ← hash_file_fnv1a disk file_name_original
  let copy ← hash_file_fnv1a disk file_name_copy
  return original != copy

theorem checkFileHashchanged_eq (disk : Directory) (file_name_original file_name_copy : Bytes) :
    checkFileHashchanged disk file_name_original file_name_copy =
      compareFiles fnvDiffers disk file_name_original file_name_copy := by
  cases original : streamed disk file_name_original <;>
    cases copy : streamed disk file_name_copy <;>
    simp [checkFileHashchanged, hash_file_fnv1a, compareFiles, original, copy, fnvDiffers,
      bind, Except.bind, pure, Except.pure]

/-- After a block that is not full, the loop ends. -/
theorem hashStream_of_failed (hash : UInt64) {file : InputStream} (failed : file.good = false) :
    hashStream hash file = hash := by
  have nothing : file.read HASH_BUFFER_SIZE = ([], file) := by simp [InputStream.read, failed]
  rw [hashStream, nothing]
  simp [failed]

/-- Reading in blocks does not matter: the hash folds over the whole content. -/
theorem hashStream_opened (hash : UInt64) (content : Bytes) :
    hashStream hash (.opened content) = content.foldl hashByte hash := by
  induction size : content.length using Nat.strong_induction_on generalizing hash content with
  | _ size ih =>
      subst size
      have block : (InputStream.opened content).read HASH_BUFFER_SIZE =
          (content.take HASH_BUFFER_SIZE,
            { unread := content.drop HASH_BUFFER_SIZE
              good := HASH_BUFFER_SIZE ≤ content.length }) :=
        rfl
      rw [hashStream, block]
      by_cases full : HASH_BUFFER_SIZE ≤ content.length
      · have shorter : (content.drop HASH_BUFFER_SIZE).length < content.length := by
          rw [List.length_drop]
          have positive : 0 < HASH_BUFFER_SIZE := by decide
          omega
        simp only [full, decide_true, true_or, if_true]
        rw [← InputStream.opened, ih _ shorter _ _ rfl, ← List.foldl_append, List.take_append_drop]
      · -- The last block is not full, and the next `read` fails without a byte.
        have whole : content.take HASH_BUFFER_SIZE = content := List.take_of_length_le (by omega)
        simp only [full, decide_false, Bool.false_eq_true, false_or, whole]
        split_ifs with nonempty
        · rw [hashStream_of_failed _ rfl]
        · rw [List.length_pos_iff, not_not] at nonempty
          rw [nonempty, List.foldl_nil]

theorem fnv1a_eq_foldl (content : Bytes) :
    fnv1a content = content.foldl hashByte FNV_OFFSET_BASIS :=
  hashStream_opened _ _

theorem fnv1a_append (first second : Bytes) :
    fnv1a (first ++ second) = second.foldl hashByte (fnv1a first) := by
  simp only [fnv1a_eq_foldl, List.foldl_append]

@[simp]
theorem fnv1a_nil : fnv1a [] = FNV_OFFSET_BASIS := by
  simp [fnv1a_eq_foldl]

/-- Multiplication by the odd FNV prime can be undone. -/
theorem mul_FNV_PRIME_injective : Function.Injective fun hash : UInt64 => hash * FNV_PRIME := by
  intro first second same
  have inverse : FNV_PRIME * 14886173955864302971 = 1 := by decide
  have undone := congrArg (· * (14886173955864302971 : UInt64)) same
  simpa only [UInt64.mul_assoc, inverse, UInt64.mul_one] using undone

/-- A byte that is taken into different hashes leaves them different. -/
theorem hashByte_injective (byte : UInt8) : Function.Injective fun hash => hashByte hash byte := by
  intro first second same
  have unmixed := mul_FNV_PRIME_injective same
  have undone := congrArg (· ^^^ byte.toUInt64) unmixed
  simpa only [UInt64.xor_assoc, UInt64.xor_self, UInt64.xor_zero] using undone

theorem foldl_hashByte_injective (content : Bytes) :
    Function.Injective fun hash => content.foldl hashByte hash := by
  induction content with
  | nil => exact Function.injective_id
  | cons byte content ih =>
      intro first second same
      exact hashByte_injective byte (ih same)

theorem fnv1a_replace_ne (first second : Bytes) {byte other : UInt8} (different : byte ≠ other) :
    fnv1a (first ++ byte :: second) ≠ fnv1a (first ++ other :: second) := by
  intro same
  rw [fnv1a_append, fnv1a_append, List.foldl_cons, List.foldl_cons] at same
  have mixed := mul_FNV_PRIME_injective (foldl_hashByte_injective second same)
  have undone := congrArg (fnv1a first ^^^ ·) mixed
  simp only [← UInt64.xor_assoc, UInt64.xor_self, UInt64.zero_xor] at undone
  exact different (UInt8.toUInt64_inj.mp undone)

end FileManager

namespace FileName

theorem proper (file_name : FileName) : FileManager.isDirectory file_name.bytes = false := by
  rcases file_name.valid with ⟨nonempty, -, noSlash, -, notDot, notDotdot⟩
  rw [FileManager.isDirectory_of_notMem noSlash]
  simp [nonempty, notDot, notDotdot]

end FileName

end SyncDir
