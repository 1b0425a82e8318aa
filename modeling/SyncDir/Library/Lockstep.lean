import Mathlib.Data.List.Basic

/-!
# Lockstep refinement

A machine that handles one input after another follows a specification when,
after each input, its state is the one that represents the state of the
specification.  It does so through a whole sequence of inputs exactly if it
handles every single one of them in the state in which the specification meets
it.

A pursuer does not get the inputs themselves but what the specification makes of
them in its state, and its states are only related to those of the specification.
-/

namespace Lockstep

variable {State Abstract Input : Type*}

/-- After every prefix of the inputs, the machine represents the specification's state. -/
def Follows (step : State → Input → State) (spec : Abstract → Input → Abstract)
    (represent : Abstract → State) (start : Abstract) (inputs : List Input) : Prop :=
  ∀ count ≤ inputs.length, (inputs.take count).foldl step (represent start) =
    represent ((inputs.take count).foldl spec start)

/-- A condition holds of every input in the state in which the specification meets it. -/
def Throughout (spec : Abstract → Input → Abstract) (condition : Abstract → Input → Prop) :
    Abstract → List Input → Prop
  | _, [] => True
  | state, input :: inputs =>
      condition state input ∧ Throughout spec condition (spec state input) inputs

variable {step : State → Input → State} {spec : Abstract → Input → Abstract}
  {represent : Abstract → State} {condition : Abstract → Input → Prop}

theorem follows_nil (start : Abstract) : Follows step spec represent start [] := by
  intro count _
  simp

theorem follows_cons {start : Abstract} {input : Input} {inputs : List Input} :
    Follows step spec represent start (input :: inputs) ↔
      step (represent start) input = represent (spec start input) ∧
        Follows step spec represent (spec start input) inputs := by
  constructor
  · intro follows
    have first := follows 1 (by simp)
    simp only [List.take_succ_cons, List.take_zero, List.foldl_cons, List.foldl_nil] at first
    refine ⟨first, ?_⟩
    intro count within
    have later := follows (count + 1) (by simpa using within)
    rwa [List.take_succ_cons, List.foldl_cons, List.foldl_cons, first] at later
  · rintro ⟨first, follows⟩ (_ | count) within
    · rfl
    · rw [List.take_succ_cons, List.foldl_cons, List.foldl_cons, first]
      exact follows count (by simpa using within)

/-- A machine follows a specification exactly if it handles each input that is met. -/
theorem follows_iff_throughout (step : State → Input → State) (represent : Abstract → State)
    (handled : ∀ state input, step (represent state) input = represent (spec state input) ↔
      condition state input) (start : Abstract) (inputs : List Input) :
    Follows step spec represent start inputs ↔ Throughout spec condition start inputs := by
  induction inputs generalizing start with
  | nil => exact iff_of_true (follows_nil start) trivial
  | cons input inputs ih => rw [follows_cons, handled, ih, Throughout]

/-! ### Pursuit -/

section Pursuit

variable {Replica : Type*} (spec : Abstract → Input → Abstract)
  (react : Abstract → Replica → Input → Replica)

/-- The replica after the inputs, whose reactions depend on the specification's state. -/
def pursue : Abstract → Replica → List Input → Replica
  | _, replica, [] => replica
  | state, replica, input :: inputs => pursue (spec state input) (react state replica input) inputs

/-- After every prefix of the inputs, the replica is related to the specification's state. -/
def Pursues (related : Abstract → Replica → Prop) (start : Abstract) (replica : Replica)
    (inputs : List Input) : Prop :=
  ∀ count ≤ inputs.length, related ((inputs.take count).foldl spec start)
    (pursue spec react start replica (inputs.take count))

variable {spec react} {related : Abstract → Replica → Prop} {start : Abstract} {replica : Replica}
  {input : Input} {inputs : List Input}

theorem pursues_cons :
    Pursues spec react related start replica (input :: inputs) ↔
      related start replica ∧
        Pursues spec react related (spec start input) (react start replica input) inputs := by
  constructor
  · intro pursues
    refine ⟨pursues 0 (Nat.zero_le _), ?_⟩
    intro count within
    exact pursues (count + 1) (by simpa using within)
  · rintro ⟨first, pursues⟩ (_ | count) within
    · exact first
    · exact pursues count (by simpa using within)

/-- A replica pursues a specification exactly if it stays related with each input that is met,
where `Admissible` says what holds of the rest of the inputs. -/
theorem pursues_iff_throughout {Admissible : Abstract → List Input → Prop}
    (admissible : ∀ {state input inputs}, Admissible state (input :: inputs) →
      Admissible (spec state input) inputs)
    (reacts : ∀ {state replica input inputs}, Admissible state (input :: inputs) →
      related state replica →
        (related (spec state input) (react state replica input) ↔ condition state input))
    (initially : Admissible start inputs) (agree : related start replica) :
    Pursues spec react related start replica inputs ↔
      Throughout spec condition start inputs := by
  induction inputs generalizing start replica with
  | nil =>
      refine iff_of_true ?_ trivial
      intro count _
      rwa [List.take_nil]
  | cons input inputs ih =>
      rw [pursues_cons, and_iff_right agree, Throughout, ← reacts initially agree]
      constructor
      · intro pursues
        have first := pursues 0 (Nat.zero_le _)
        exact ⟨first, (ih (admissible initially) first).mp pursues⟩
      · rintro ⟨first, throughout⟩
        exact (ih (admissible initially) first).mpr throughout

end Pursuit

end Lockstep
