import Mathlib.Algebra.Group.Nat.Defs
import SyncDir.Utils.FileManager

/-!
# The hash of a file

`hash_file_fnv1a` reads a file through an `ifstream`, in blocks of 8192 bytes of which the last one
can be shorter, or empty.  The hash is the one of the whole content, and it is a different one for
any two contents that differ in one byte.
-/

namespace SyncDir

namespace FileManager

theorem hash_file_fnv1a_eq_hashStream {disk : Directory} {filename content : Bytes}
    (stored : streamed disk filename = some content) :
    hash_file_fnv1a disk filename = .ok (hashStream FNV_OFFSET_BASIS (.opened content)) := by
  simp only [hash_file_fnv1a, stored, fnv1a]

/-- FNV-1a on natural numbers. -/
def fnvFold (content : Bytes) : ℕ :=
  content.foldl (fun hash byte => (hash ^^^ byte.toNat) * 1099511628211 % 2 ^ 64)
    14695981039346656037

theorem toNat_hashByte (hash : UInt64) (byte : UInt8) :
    (hashByte hash byte).toNat = (hash.toNat ^^^ byte.toNat) * 1099511628211 % 2 ^ 64 := by
  have prime : FNV_PRIME.toNat = 1099511628211 := rfl
  rw [hashByte, UInt64.toNat_mul, UInt64.toNat_xor, UInt8.toNat_toUInt64, prime]

theorem toNat_hashStream_opened (content : Bytes) :
    (hashStream FNV_OFFSET_BASIS (.opened content)).toNat = fnvFold content := by
  have basis : FNV_OFFSET_BASIS.toNat = 14695981039346656037 := rfl
  rw [hashStream_opened, fnvFold, ← basis]
  generalize FNV_OFFSET_BASIS = hash
  induction content generalizing hash with
  | nil => rfl
  | cons byte content ih => rw [List.foldl_cons, List.foldl_cons, ih, toNat_hashByte]

/-- The hash of a file is the fold over its whole content, and of two files that differ in one byte
the hashes differ, which `checkFileHashchanged` finds. -/
theorem edit_detected :
    (∀ (disk : Directory) (filename content : Bytes), streamed disk filename = some content →
      hash_file_fnv1a disk filename = .ok (hashStream FNV_OFFSET_BASIS (.opened content)) ∧
        (hashStream FNV_OFFSET_BASIS (.opened content)).toNat = fnvFold content) ∧
    ∀ (disk : Directory) (file_name_original file_name_copy first second : Bytes)
        (byte other : UInt8), byte ≠ other →
      streamed disk file_name_original = some (first ++ byte :: second) →
      streamed disk file_name_copy = some (first ++ other :: second) →
        hash_file_fnv1a disk file_name_original ≠ hash_file_fnv1a disk file_name_copy ∧
          checkFileHashchanged disk file_name_original file_name_copy = .ok true := by
  constructor
  · intro disk filename content stored
    exact ⟨hash_file_fnv1a_eq_hashStream stored, toNat_hashStream_opened content⟩
  · intro disk file_name_original file_name_copy first second byte other different original copy
    have edited := fnv1a_replace_ne first second different
    constructor
    · simp only [hash_file_fnv1a, original, copy]
      intro same
      exact edited (Except.ok.inj same)
    · have changed : fnvDiffers (first ++ byte :: second) (first ++ other :: second) = true :=
        bne_iff_ne.mpr edited
      rw [checkFileHashchanged_eq]
      simp only [compareFiles, original, copy, changed]

/-- The files `f` and `g`, whose second bytes differ. -/
theorem edit_detected_secondByte :
    checkFileHashchanged (fun name => if name = ascii "f" then some [1, 2, 3] else some [1, 5, 3])
      (ascii "f") (ascii "g") = .ok true :=
  (edit_detected.2 _ _ _ [1] [3] 2 5 (by decide) rfl rfl).2

end FileManager

end SyncDir
