import Mathlib.Data.List.Range
import Mathlib.Data.Option.Basic
import Mathlib.Logic.Function.Basic

/-!
# Array lists

An array list keeps its elements in the first cells of an array, and moves to a
larger one when there is no cell left.  Elements are appended to the end, and
erased by moving those behind them forward.  The cells behind the end and the
former arrays keep what was in them, which someone can see who still reads there.
-/

universe u

structure ArrayList (α : Type u) where
  arrays : ℕ → ℕ → Option α
  /-- The array in use. -/
  array : ℕ
  capacity : ℕ
  size : ℕ

namespace ArrayList

variable {α : Type u}

def cells (list : ArrayList α) : ℕ → Option α :=
  list.arrays list.array

def empty : ArrayList α where
  arrays := fun _ _ => none
  array := 0
  capacity := 0
  size := 0

def push_back (list : ArrayList α) (element : α) : ArrayList α :=
  if list.size < list.capacity then
    { list with
      arrays := Function.update list.arrays list.array
        (Function.update list.cells list.size (some element))
      size := list.size + 1 }
  else
    { arrays := Function.update list.arrays (list.array + 1) fun index =>
        if index < list.size then list.cells index
        else if index = list.size then some element else none
      array := list.array + 1
      capacity := max 1 (2 * list.capacity)
      size := list.size + 1 }

def erase (list : ArrayList α) (position : ℕ) : ArrayList α :=
  { list with
    arrays := Function.update list.arrays list.array fun index =>
      if position ≤ index ∧ index + 1 < list.size then list.cells (index + 1)
      else list.cells index
    size := list.size - 1 }

def find [DecidableEq α] (list : ArrayList α) (element : α) : Option ℕ :=
  (List.range list.size).find? fun index => list.cells index = some element

def Holds (list : ArrayList α) (element : α) : Prop :=
  ∃ index < list.size, list.cells index = some element

def Distinct (list : ArrayList α) : Prop :=
  ∀ first < list.size, ∀ second < list.size, ∀ element,
    list.cells first = some element → list.cells second = some element → first = second

variable {list : ArrayList α} {element other : α} {position index : ℕ}

theorem not_holds_empty : ¬(empty : ArrayList α).Holds element := by
  rintro ⟨index, within, _⟩
  exact absurd within (Nat.not_lt_zero index)

theorem distinct_empty : (empty : ArrayList α).Distinct := by
  intro first within
  exact absurd within (Nat.not_lt_zero first)

theorem find_eq_some [DecidableEq α] (found : list.find element = some position) :
    position < list.size ∧ list.cells position = some element :=
  ⟨List.mem_range.mp (List.mem_of_find?_eq_some found), by simpa using List.find?_some found⟩

/-! ### Appending -/

@[simp]
theorem size_push_back : (list.push_back element).size = list.size + 1 := by
  rw [push_back]
  split_ifs <;> rfl

theorem cells_push_back (within : index < list.size + 1) :
    (list.push_back element).cells index =
      if index = list.size then some element else list.cells index := by
  rw [push_back]
  split_ifs with space last last
  · simp only [cells, Function.update_self, last]
  · simp only [cells, Function.update_self, Function.update_of_ne last]
  · simp only [cells, Function.update_self, last, lt_irrefl, if_false, if_true]
  · have old : index < list.size := by omega
    simp only [cells, Function.update_self, if_pos old]

theorem arrays_push_back {array : ℕ}
    (read : (list.push_back element).arrays array index = some other) :
    list.arrays array index = some other ∨ list.Holds other ∨ other = element := by
  rw [push_back] at read
  split_ifs at read with space
  · by_cases same : array = list.array
    · simp only [same, Function.update_self, Function.update_apply] at read
      split_ifs at read
      · exact Or.inr (Or.inr (Option.some_injective _ read.symm))
      · exact Or.inl (same ▸ read)
    · simp only [Function.update_of_ne same] at read
      exact Or.inl read
  · by_cases same : array = list.array + 1
    · simp only [same, Function.update_self] at read
      split_ifs at read with within
      · exact Or.inr (Or.inl ⟨index, within, read⟩)
      · exact Or.inr (Or.inr (Option.some_injective _ read.symm))
    · simp only [Function.update_of_ne same] at read
      exact Or.inl read

theorem holds_of_push_back (holds : (list.push_back element).Holds other) :
    list.Holds other ∨ other = element := by
  rcases holds with ⟨index, within, stored⟩
  rw [size_push_back] at within
  rw [cells_push_back within] at stored
  split_ifs at stored with last
  · exact Or.inr (Option.some_injective _ stored.symm)
  · exact Or.inl ⟨index, by omega, stored⟩

theorem Distinct.push_back (distinct : list.Distinct) (new : ¬list.Holds element) :
    (list.push_back element).Distinct := by
  intro first firstWithin second secondWithin other firstStored secondStored
  rw [size_push_back] at firstWithin secondWithin
  rw [cells_push_back firstWithin] at firstStored
  rw [cells_push_back secondWithin] at secondStored
  split_ifs at firstStored secondStored with firstLast secondLast secondLast
  · rw [firstLast, secondLast]
  · cases firstStored
    exact absurd ⟨second, by omega, secondStored⟩ new
  · cases secondStored
    exact absurd ⟨first, by omega, firstStored⟩ new
  · exact distinct first (by omega) second (by omega) other firstStored secondStored

/-! ### Erasing -/

theorem cells_erase :
    (list.erase position).cells index =
      if position ≤ index ∧ index + 1 < list.size then list.cells (index + 1)
      else list.cells index := by
  simp only [erase, cells, Function.update_self]

theorem arrays_erase {array : ℕ}
    (read : (list.erase position).arrays array index = some other) :
    list.arrays array index = some other ∨ list.Holds other := by
  by_cases same : array = list.array
  · subst same
    change (list.erase position).cells index = some other at read
    rw [cells_erase] at read
    split_ifs at read with moved
    · exact Or.inr ⟨index + 1, moved.2, read⟩
    · exact Or.inl read
  · simp only [erase, Function.update_of_ne same] at read
    exact Or.inl read

theorem cells_erase_of_lt (within : index < (list.erase position).size) :
    (index < position ∧ (list.erase position).cells index = list.cells index) ∨
      (position ≤ index ∧ index + 1 < list.size ∧
        (list.erase position).cells index = list.cells (index + 1)) := by
  have shorter : (list.erase position).size = list.size - 1 := rfl
  rw [cells_erase]
  by_cases before : index < position
  · exact Or.inl ⟨before, by rw [if_neg (by omega)]⟩
  · exact Or.inr ⟨by omega, by omega, by rw [if_pos (by omega)]⟩

theorem holds_of_erase (distinct : list.Distinct) (within : position < list.size)
    (stored : list.cells position = some element)
    (holds : (list.erase position).Holds other) : list.Holds other ∧ other ≠ element := by
  rcases holds with ⟨index, indexWithin, indexStored⟩
  have shorter : (list.erase position).size = list.size - 1 := rfl
  rcases cells_erase_of_lt indexWithin with ⟨before, same⟩ | ⟨after, next, same⟩
  · rw [same] at indexStored
    refine ⟨⟨index, by omega, indexStored⟩, ?_⟩
    rintro rfl
    exact absurd (distinct index (by omega) position within other indexStored stored) (by omega)
  · rw [same] at indexStored
    refine ⟨⟨index + 1, next, indexStored⟩, ?_⟩
    rintro rfl
    exact absurd (distinct (index + 1) next position within other indexStored stored) (by omega)

theorem Distinct.erase (distinct : list.Distinct) : (list.erase position).Distinct := by
  intro first firstWithin second secondWithin element firstStored secondStored
  have shorter : (list.erase position).size = list.size - 1 := rfl
  rcases cells_erase_of_lt firstWithin with ⟨firstBefore, firstSame⟩ | ⟨firstAfter, _, firstSame⟩
  all_goals
    rcases cells_erase_of_lt secondWithin with
      ⟨secondBefore, secondSame⟩ | ⟨secondAfter, _, secondSame⟩
    all_goals
      rw [firstSame] at firstStored
      rw [secondSame] at secondStored
      have same := distinct _ (by omega) _ (by omega) element firstStored secondStored
      omega

end ArrayList
