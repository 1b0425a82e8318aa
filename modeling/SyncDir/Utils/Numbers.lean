import Mathlib.Algebra.Ring.Nat
import SyncDir.Utils.FileManager

/-!
# Numbers in messages

Ports travel as decimal numbers in the payload of a packet.  They are written by
`std::to_string`; a client reads them with `std::stoi`, and a backup with
`istringstream >>`.
-/

namespace SyncDir

/-- The number at the beginning of a text, if a digit stands there after an optional sign. -/
def readSigned : Bytes → Option ℤ
  | 45 :: rest => if rest.takeWhile isDigit = [] then none else some (-readDigits rest)
  | 43 :: rest => if rest.takeWhile isDigit = [] then none else some (readDigits rest)
  | rest => if rest.takeWhile isDigit = [] then none else some (readDigits rest)

/-- `std::stoi`, whose exceptions `invalid_argument` and `out_of_range` are logic errors. -/
def stoi (text : Bytes) : Except Exception ℤ :=
  match readSigned (text.dropWhile isSpace) with
  | none => .error (.logic_error "stoi")
  | some number =>
      if -2147483648 ≤ number ∧ number ≤ 2147483647 then .ok number
      else .error (.logic_error "stoi")

/-! ### What `to_string` writes -/

theorem to_string_eq (number : ℕ) :
    to_string number = (Nat.toDigits 10 number).map fun digit => UInt8.ofNat digit.toNat := by
  rw [to_string, ascii, Nat.toString_eq_repr, Nat.toList_repr]

theorem toNat_of_isDigit {digit : Char} (decimal : digit.isDigit = true) :
    48 ≤ digit.toNat ∧ digit.toNat ≤ 57 ∧ (UInt8.ofNat digit.toNat).toNat = digit.toNat := by
  simp only [Char.isDigit, Bool.and_eq_true, decide_eq_true_eq, ge_iff_le,
    UInt32.le_iff_toNat_le] at decimal
  have bounds : 48 ≤ digit.toNat ∧ digit.toNat ≤ 57 := decimal
  refine ⟨bounds.1, bounds.2, ?_⟩
  rw [UInt8.toNat_ofNat']
  omega

theorem isDigit_of_mem_to_string {number : ℕ} {byte : UInt8} (byte_mem : byte ∈ to_string number) :
    isDigit byte = true := by
  rw [to_string_eq, List.mem_map] at byte_mem
  rcases byte_mem with ⟨digit, digit_mem, rfl⟩
  have decimal := Nat.isDigit_of_mem_toDigits (by decide) (by decide) digit_mem
  rcases toNat_of_isDigit decimal with ⟨lower, upper, kept⟩
  simp only [isDigit, Bool.and_eq_true, decide_eq_true_eq, UInt8.le_iff_toNat_le, kept]
  exact ⟨lower, upper⟩

theorem to_string_ne_nil (number : ℕ) : to_string number ≠ [] := by
  simp [to_string_eq]

theorem length_to_string_le {number digits : ℕ} (positive : 0 < digits)
    (bounded : number < 10 ^ digits) : (to_string number).length ≤ digits := by
  rw [to_string_eq, List.length_map]
  exact (Nat.length_toDigits_le_iff (by decide) positive).mpr bounded

/-- A digit is no separator, no sign and no NUL. -/
theorem ne_of_isDigit {byte : UInt8} (digit : isDigit byte = true) :
    isSpace byte = false ∧ byte ≠ 45 ∧ byte ≠ 43 ∧ byte ≠ 0 := by
  simp only [isDigit, Bool.and_eq_true, decide_eq_true_eq, UInt8.le_iff_toNat_le] at digit
  simp only [isSpace, Bool.or_eq_false_iff, Bool.and_eq_false_iff, decide_eq_false_iff_not,
    beq_eq_false_iff_ne, ne_eq, UInt8.le_iff_toNat_le, ← UInt8.toNat_inj]
  simp only [UInt8.reduceToNat] at digit ⊢
  omega

/-! ### Reading it back -/

theorem foldl_digits {digits : List Char} (decimal : ∀ digit ∈ digits, digit.isDigit = true)
    (value : ℕ) :
    (digits.map fun digit => UInt8.ofNat digit.toNat).foldl
        (fun (value : ℤ) (digit : UInt8) => 10 * value + (digit.toNat - 48)) value =
      (Nat.ofDigitChars 10 digits value : ℕ) := by
  induction digits generalizing value with
  | nil => simp
  | cons digit digits ih =>
      rcases toNat_of_isDigit (decimal digit List.mem_cons_self) with ⟨lower, -, kept⟩
      have later := ih fun other other_mem => decimal other (List.mem_cons_of_mem _ other_mem)
      have shifted : (10 * (value : ℤ) + (digit.toNat - 48) : ℤ) =
          ((10 * value + (digit.toNat - 48) : ℕ) : ℤ) := by
        push_cast [lower]
        rfl
      rw [List.map_cons, List.foldl_cons, kept, shifted, later, Nat.ofDigitChars_cons]
      rfl

/-- The number is read back from its digits, if no further digit follows them. -/
theorem readDigits_to_string (number : ℕ) {rest : Bytes}
    (ended : rest.takeWhile isDigit = []) : readDigits (to_string number ++ rest) = number := by
  have decimal : ∀ digit ∈ Nat.toDigits 10 number, digit.isDigit = true := by
    intro digit digit_mem
    exact Nat.isDigit_of_mem_toDigits (by decide) (by decide) digit_mem
  rw [readDigits, List.takeWhile_append_of_pos fun _ => isDigit_of_mem_to_string, ended,
    List.append_nil, to_string_eq]
  exact (foldl_digits decimal 0).trans (by rw [Nat.ofDigitChars_ten_toDigits])

theorem exists_cons_to_string (number : ℕ) :
    ∃ digit digits, to_string number = digit :: digits ∧ isDigit digit = true := by
  rcases List.exists_cons_of_ne_nil (to_string_ne_nil number) with ⟨digit, digits, split⟩
  exact ⟨digit, digits, split, isDigit_of_mem_to_string (split ▸ List.mem_cons_self)⟩

theorem cString_to_string (number : ℕ) : cString (to_string number) = to_string number := by
  apply cString_of_notMem
  intro nul_mem
  exact absurd (isDigit_of_mem_to_string nul_mem) (by decide)

/-- A port that `to_string` has written is read by `stoi` as it was. -/
theorem stoi_to_string {number : ℕ} (bounded : number ≤ 2147483647) :
    stoi (to_string number) = .ok (number : ℤ) := by
  rcases exists_cons_to_string number with ⟨digit, digits, split, isDigit_digit⟩
  rcases ne_of_isDigit isDigit_digit with ⟨noSpace, notMinus, notPlus, -⟩
  have started : (to_string number).dropWhile isSpace = to_string number := by
    rw [split, List.dropWhile_cons_of_neg (by simp [noSpace])]
  have ended : ([] : Bytes).takeWhile isDigit = [] := rfl
  have value := readDigits_to_string number ended
  have digitFirst : (to_string number).takeWhile isDigit ≠ [] := by
    simp [split, isDigit_digit]
  have read : readSigned (to_string number) = some (number : ℤ) := by
    rw [List.append_nil] at value
    rw [split] at value digitFirst ⊢
    unfold readSigned
    split
    · rename_i same
      exact absurd (List.cons.inj same).1 notMinus
    · rename_i same
      exact absurd (List.cons.inj same).1 notPlus
    · rw [if_neg digitFirst, value]
  have inRange : -2147483648 ≤ (number : ℤ) ∧ (number : ℤ) ≤ 2147483647 := by omega
  rw [stoi, started, read]
  simp only [if_pos inRange]

end SyncDir
