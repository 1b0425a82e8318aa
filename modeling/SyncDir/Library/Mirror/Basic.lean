import SyncDir.Library.Hub

/-!
# Mirrored maps

The stores of a hub and its devices are maps from keys to optional values, and
the messages announce that an entry was written or deleted.  The hub only acts
on a write that a comparison tells apart from the value it has, with an absent
entry compared as a blank one, and on a delete of an entry it has; it forwards
exactly the changes it acts on.  A device applies what it receives and echoes
every change it makes.  There is no version and no origin in a message: echoes
are told from edits by the comparison alone.

This file defines the reactions and says once what each of them can do; the
invariants of whole runs are derived from these facts.
-/

namespace Mirror

open Hub

variable {Key Value Device : Type*}

inductive Change (Key Value : Type*)
  | write (key : Key) (value : Value)
  | delete (key : Key)
  deriving DecidableEq

namespace Change

def key : Change Key Value → Key
  | write key _ => key
  | delete key => key

def result : Change Key Value → Option Value
  | write _ value => some value
  | delete _ => none

def apply [DecidableEq Key] (change : Change Key Value) (map : Key → Option Value) :
    Key → Option Value :=
  Function.update map change.key change.result

theorem ext {first second : Change Key Value} (sameKey : first.key = second.key)
    (sameResult : first.result = second.result) : first = second := by
  cases first <;> cases second <;> simp_all [key, result]

end Change

variable [DecidableEq Key]

section Reactions

variable (differs : Value → Value → Bool) (blank : Value)

/-- The hub compares a written value with what it has, and acts on a difference. -/
def serve (map : Key → Option Value) : Change Key Value → (Key → Option Value) × Bool
  | .write key value =>
      if differs ((map key).getD blank) value then
        (Function.update map key (some value), true)
      else
        (Function.update map key (some ((map key).getD blank)), false)
  | .delete key =>
      if (map key).isSome then (Function.update map key none, true) else (map, false)

/-- A device applies a change and echoes it if there was something to do. -/
def absorb (map : Key → Option Value) :
    Change Key Value → (Key → Option Value) × List (Change Key Value)
  | .write key value => (Function.update map key (some value), [.write key value])
  | .delete key =>
      if (map key).isSome then (Function.update map key none, [.delete key]) else (map, [])

/-- A device may write any value but the blank one, and delete an entry it has. -/
def edit [DecidableEq Value] (map : Key → Option Value) :
    Change Key Value → Option (Key → Option Value)
  | .write key value => if value = blank then none else some (Function.update map key (some value))
  | .delete key => if (map key).isSome then some (Function.update map key none) else none

def reactions [DecidableEq Value] : Reactions (Key → Option Value) (Change Key Value) where
  serve := serve differs blank
  absorb := absorb
  edit := edit blank

end Reactions

variable {differs : Value → Value → Bool} {blank : Value}

theorem serve_frame (map : Key → Option Value) (change : Change Key Value) {key : Key}
    (other : key ≠ change.key) : (serve differs blank map change).1 key = map key := by
  cases change with
  | write written value =>
      simp only [serve]
      split <;> exact Function.update_of_ne other _ _
  | delete deleted =>
      simp only [serve]
      split
      · exact Function.update_of_ne other _ _
      · rfl

theorem serve_forwarded {map : Key → Option Value} {change : Change Key Value}
    (forwarded : (serve differs blank map change).2 = true) :
    (serve differs blank map change).1 = change.apply map := by
  cases change with
  | write key value =>
      simp only [serve] at forwarded ⊢
      split at forwarded
      · simp_all [Change.apply, Change.key, Change.result]
      · simp at forwarded
  | delete key =>
      simp only [serve] at forwarded ⊢
      split at forwarded
      · simp_all [Change.apply, Change.key, Change.result]
      · simp at forwarded

/-- A change that is already in effect is neither acted on nor forwarded. -/
theorem serve_of_reflected (reflexive : ∀ value, differs value value = false)
    {map : Key → Option Value} {change : Change Key Value}
    (reflected : map change.key = change.result) :
    serve differs blank map change = (map, false) := by
  cases change with
  | write key value =>
      have stored : map key = some value := reflected
      simp [serve, stored, reflexive, Function.update_eq_self_iff]
  | delete key =>
      have absent : map key = none := reflected
      simp [serve, absent]

theorem absorb_apply (map : Key → Option Value) (change : Change Key Value) :
    (absorb map change).1 = change.apply map := by
  cases change with
  | write key value => rfl
  | delete key =>
      simp only [absorb]
      split
      · rfl
      · rename_i absent
        have already : map key = none := by simpa using absent
        simp [Change.apply, Change.key, Change.result, already]

theorem eq_of_mem_absorb {map : Key → Option Value} {change echo : Change Key Value}
    (echoed : echo ∈ (absorb map change).2) : echo = change := by
  cases change with
  | write key value => simpa [absorb] using echoed
  | delete key =>
      simp only [absorb] at echoed
      split at echoed <;> simp_all

/-- A change is echoed unless it deletes an absent entry. -/
theorem absorb_echoes (map : Key → Option Value) (change : Change Key Value) :
    (absorb map change).2 = [change] ∨
      (absorb map change).2 = [] ∧ change.result = none ∧ map change.key = none := by
  cases change with
  | write key value => exact Or.inl rfl
  | delete key =>
      simp only [absorb]
      split
      · exact Or.inl rfl
      · rename_i absent
        exact Or.inr ⟨rfl, rfl, by simpa [Change.key] using absent⟩

theorem absorb_echoes_length_le (map : Key → Option Value) (change : Change Key Value) :
    (absorb map change).2.length ≤ 1 := by
  cases change with
  | write key value => simp [absorb]
  | delete key =>
      simp only [absorb]
      split <;> simp

theorem edit_eq_some [DecidableEq Value] {map edited : Key → Option Value}
    {change : Change Key Value} (possible : edit blank map change = some edited) :
    edited = change.apply map ∧ change.result ≠ some blank := by
  cases change with
  | write key value =>
      simp only [edit] at possible
      split at possible
      · simp at possible
      · rename_i notBlank
        exact ⟨(Option.some.inj possible).symm, by simp [Change.result, notBlank]⟩
  | delete key =>
      simp only [edit] at possible
      split at possible
      · exact ⟨(Option.some.inj possible).symm, by simp [Change.result]⟩
      · simp at possible

end Mirror
