import Mathlib.Data.Set.Function
import SyncDir.Library.Mirror.Basic

/-!
# Where the values of a mirrored map come from

The hub and the devices only hand values on.  If all values that are written to
an entry come from a set, which also has the blank value, then so do all values
that the entry ever has, and all values that are sent for it.  A comparison can
therefore be replaced by one that is the same on these values.
-/

namespace Mirror

open Hub

variable {Key Value : Type*} {differs other : Value → Value → Bool} {blank : Value}
  {values : Key → Set Value}

def Within (values : Key → Set Value) (map : Key → Option Value) : Prop :=
  ∀ key value, map key = some value → value ∈ values key

def Carries (values : Key → Set Value) (change : Change Key Value) : Prop :=
  ∀ value, change.result = some value → value ∈ values change.key

theorem Within.getD {map : Key → Option Value} (within : Within values map)
    (blank_mem : ∀ key, blank ∈ values key) (key : Key) :
    (map key).getD blank ∈ values key := by
  cases stored : map key with
  | none => exact blank_mem key
  | some value => exact within key value stored

variable [DecidableEq Key]

theorem Within.update {map : Key → Option Value} (within : Within values map) {key : Key}
    {result : Option Value} (carries : ∀ value, result = some value → value ∈ values key) :
    Within values (Function.update map key result) := by
  intro updated value stored
  by_cases same : updated = key
  · subst updated
    rw [Function.update_self] at stored
    exact carries value stored
  · rw [Function.update_of_ne same] at stored
    exact within updated value stored

theorem Within.apply {map : Key → Option Value} (within : Within values map)
    {change : Change Key Value} (carries : Carries values change) :
    Within values (change.apply map) :=
  within.update carries

theorem Within.serve {map : Key → Option Value} (within : Within values map)
    (blank_mem : ∀ key, blank ∈ values key) {change : Change Key Value}
    (carries : Carries values change) : Within values (serve differs blank map change).1 := by
  cases change with
  | write key value =>
      simp only [Mirror.serve]
      split_ifs
      · exact within.update carries
      · apply within.update
        intro stored kept
        rw [← Option.some.inj kept]
        exact within.getD blank_mem key
  | delete key =>
      simp only [Mirror.serve]
      split_ifs
      · exact within.update carries
      · exact within

/-- Comparisons that are the same on the values that occur make the hub react in the same way. -/
theorem agreement_within [DecidableEq Value] (blank_mem : ∀ key, blank ∈ values key)
    (same : ∀ key, ∀ stored ∈ values key, ∀ value ∈ values key,
      differs stored value = other stored value) :
    Agreement (reactions differs blank) (reactions other blank) (Within values)
      (Carries values) where
  serve_eq map change within carries := by
    cases change with
    | write key value =>
        have compared := same key _ (within.getD blank_mem key) value (carries value rfl)
        simp only [reactions, Mirror.serve, compared]
    | delete key => rfl
  serve_good map change within carries := within.serve blank_mem carries
  absorb_eq map change _ _ := rfl
  absorb_good map change within carries := by
    change Within values (absorb map change).1
    rw [absorb_apply]
    exact within.apply carries
  absorb_permitted map change echo _ carries echoed := by
    rwa [eq_of_mem_absorb echoed]
  edit_eq map change _ _ := rfl
  edit_good map change edited within carries possible := by
    rw [(edit_eq_some possible).1]
    exact within.apply carries

end Mirror
