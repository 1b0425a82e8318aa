import Mathlib.Data.List.TakeWhile

/-!
# Byte strings and file names

The program moves data as `std::string` and `std::vector<char>`, both of which
are byte strings here, and reads names out of them in two ways: as a C string,
which ends at the first NUL, and with `istringstream >>`, which skips leading
whitespace and stops at the next one.  Port numbers are read with the same
operator.
-/

namespace SyncDir

/-- The bytes of a `std::string`, of a `std::vector<char>` or of a file. -/
abbrev Bytes := List UInt8

def ascii (text : String) : Bytes :=
  text.toList.map fun character => UInt8.ofNat character.toNat

/-- The `std::string` built from a `char *`: the bytes up to the first NUL. -/
def cString (bytes : Bytes) : Bytes :=
  bytes.takeWhile (· ≠ 0)

/-- `isspace` in the C locale: blank, tab, line feed, vertical tab, form feed, return. -/
def isSpace (byte : UInt8) : Bool :=
  byte == 32 || (9 ≤ byte && byte ≤ 13)

/-- The word that `istringstream >> word` reads. -/
def extractWord (stream : Bytes) : Bytes :=
  (stream.dropWhile isSpace).takeWhile fun byte => !isSpace byte

/-- What `istringstream >> word` leaves in the stream. -/
def afterWord (stream : Bytes) : Bytes :=
  (stream.dropWhile isSpace).dropWhile fun byte => !isSpace byte

def isDigit (byte : UInt8) : Bool :=
  48 ≤ byte && byte ≤ 57

/-- The number that the leading digits stand for, zero if there are none. -/
def readDigits (bytes : Bytes) : ℤ :=
  (bytes.takeWhile isDigit).foldl (fun value digit => 10 * value + (digit.toNat - 48)) 0

/-- A number with an optional sign, limited to the range of `int`. -/
def readInt : Bytes → ℤ
  | 45 :: rest => max (-2147483648) (-readDigits rest)
  | 43 :: rest => min 2147483647 (readDigits rest)
  | rest => min 2147483647 (readDigits rest)

/-- What `istringstream >> number` stores, if it stores anything: nothing is stored at the end of
the stream, and zero if what is found is no number. -/
def extractInt (stream : Bytes) : Option ℤ :=
  match stream.dropWhile isSpace with
  | [] => none
  | rest => some (readInt rest)

def to_string (number : ℕ) : Bytes :=
  ascii (toString number)

/-- The name of the temporary copy that a server writes an upload to. -/
def copyName (file_name : Bytes) : Bytes :=
  ascii "copy_" ++ file_name

theorem cString_of_notMem {bytes : Bytes} (noNul : 0 ∉ bytes) : cString bytes = bytes := by
  rw [cString, List.takeWhile_eq_self_iff]
  intro byte byte_mem
  simpa using fun isNul : byte = 0 => noNul (isNul ▸ byte_mem)

theorem copyName_injective {first second : Bytes} (same : copyName first = copyName second) :
    first = second :=
  List.append_cancel_left same

theorem copyName_ne_self (file_name : Bytes) : copyName file_name ≠ file_name := by
  intro same
  have lengths := congrArg List.length same
  have prefixLength : (ascii "copy_").length = 5 := by decide
  simp only [copyName, List.length_append, prefixLength] at lengths
  omega

/-- A name that a directory entry can have. -/
def IsFileName (bytes : Bytes) : Prop :=
  bytes ≠ [] ∧ 0 ∉ bytes ∧ 47 ∉ bytes ∧ bytes.length ≤ 255 ∧
    bytes ≠ ascii "." ∧ bytes ≠ ascii ".."

instance (bytes : Bytes) : Decidable (IsFileName bytes) :=
  inferInstanceAs (Decidable (_ ∧ _))

structure FileName where
  bytes : Bytes
  valid : IsFileName bytes
  deriving DecidableEq

namespace FileName

theorem ext {first second : FileName} (same : first.bytes = second.bytes) : first = second := by
  cases first
  cases second
  simpa using same

theorem ne_nil (file_name : FileName) : file_name.bytes ≠ [] :=
  file_name.valid.1

theorem length_pos (file_name : FileName) : 0 < file_name.bytes.length :=
  List.length_pos_iff.mpr file_name.ne_nil

theorem length_le (file_name : FileName) : file_name.bytes.length ≤ 255 :=
  file_name.valid.2.2.2.1

@[simp]
theorem cString_bytes (file_name : FileName) : cString file_name.bytes = file_name.bytes :=
  cString_of_notMem file_name.valid.2.1

/-- A name without whitespace, which `istringstream >>` reads as a whole. -/
def IsWord (file_name : FileName) : Prop :=
  extractWord file_name.bytes = file_name.bytes

instance (file_name : FileName) : Decidable file_name.IsWord :=
  inferInstanceAs (Decidable (_ = _))

end FileName

/-- A name is read as a whole exactly if it has no whitespace in it. -/
theorem extractWord_eq_self {bytes : Bytes} :
    extractWord bytes = bytes ↔ ∀ byte ∈ bytes, isSpace byte = false := by
  constructor
  · intro whole byte byte_mem
    rw [← whole] at byte_mem
    simpa using List.mem_takeWhile_imp byte_mem
  · intro noSpace
    have kept : bytes.dropWhile isSpace = bytes := by
      cases bytes with
      | nil => rfl
      | cons head tail => simp [noSpace head]
    rw [extractWord, kept, List.takeWhile_eq_self_iff]
    intro byte byte_mem
    simp [noSpace byte byte_mem]

section Words

variable {word : Bytes} {separator : UInt8} (noSpace : ∀ byte ∈ word, isSpace byte = false)
  (space : isSpace separator = true) (rest : Bytes)
include noSpace

theorem dropWhile_isSpace_append (nonempty : word ≠ []) :
    (word ++ rest).dropWhile isSpace = word ++ rest := by
  cases word with
  | nil => exact absurd rfl nonempty
  | cons head tail =>
      have headNoSpace := noSpace head List.mem_cons_self
      simp [headNoSpace]

include space

theorem extractWord_append (nonempty : word ≠ []) :
    extractWord (word ++ separator :: rest) = word := by
  rw [extractWord, dropWhile_isSpace_append noSpace _ nonempty, List.takeWhile_append_of_pos]
  · simp [space]
  · intro byte byte_mem
    simp [noSpace byte byte_mem]

theorem afterWord_append (nonempty : word ≠ []) :
    afterWord (word ++ separator :: rest) = separator :: rest := by
  rw [afterWord, dropWhile_isSpace_append noSpace _ nonempty, List.dropWhile_append_of_pos]
  · simp [space]
  · intro byte byte_mem
    simp [noSpace byte byte_mem]

end Words

end SyncDir
