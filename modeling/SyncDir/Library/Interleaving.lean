import Mathlib.Data.List.Count
import Mathlib.Data.Set.Function
import Mathlib.Dynamics.FixedPoints.Basic
import Mathlib.Logic.Function.Iterate

/-!
# Interleavings

Two notions of interleaving are used for concurrent programs.

* `Interleaving left right merged` relates two sequences of messages to the
  sequences a shared channel may carry when each sender keeps its own order.
* `interleave left right schedule` runs two threads that share a state, one
  step at a time, in the order given by a schedule.

When the steps of the two threads commute, a schedule only matters through the
number of steps it gives to each thread.  This is the case when the threads
work on disjoint parts of a shared store, which is what `ConfinedTo` expresses:
a confined step changes nothing outside its footprint and does not depend on
anything outside of it.
-/

universe u v w

/-- The third list merges the first two and keeps the order of each of them. -/
inductive Interleaving {α : Type u} : List α → List α → List α → Prop
  | nil : Interleaving [] [] []
  | left {head : α} {left right merged : List α} (rest : Interleaving left right merged) :
      Interleaving (head :: left) right (head :: merged)
  | right {head : α} {left right merged : List α} (rest : Interleaving left right merged) :
      Interleaving left (head :: right) (head :: merged)

namespace Interleaving

variable {α : Type u}

theorem symm {left right merged : List α} (interleaving : Interleaving left right merged) :
    Interleaving right left merged := by
  induction interleaving with
  | nil => exact .nil
  | left _ ih => exact .right ih
  | right _ ih => exact .left ih

theorem nil_left (right : List α) : Interleaving [] right right := by
  induction right with
  | nil => exact .nil
  | cons head right ih => exact .right ih

theorem append (left right : List α) : Interleaving left right (left ++ right) := by
  induction left with
  | nil => exact nil_left right
  | cons head left ih => exact .left ih

/-- The first message of the right sender may overtake all but the first one of the left sender. -/
theorem overtake (first second : α) (left right : List α) :
    Interleaving (first :: left) (second :: right) (first :: second :: (left ++ right)) :=
  .left (.right (append left right))

theorem eq_of_nil_left {right merged : List α} (interleaving : Interleaving [] right merged) :
    merged = right := by
  generalize empty : ([] : List α) = left at interleaving
  induction interleaving with
  | nil => rfl
  | left => simp at empty
  | right _ ih => rw [ih empty]

theorem eq_of_nil_right {left merged : List α} (interleaving : Interleaving left [] merged) :
    merged = left :=
  eq_of_nil_left interleaving.symm

theorem eq_of_singletons {first second : α} {merged : List α}
    (interleaving : Interleaving [first] [second] merged) :
    merged = [first, second] ∨ merged = [second, first] := by
  cases interleaving with
  | left rest => exact Or.inl (by rw [eq_of_nil_left rest])
  | right rest => exact Or.inr (by rw [eq_of_nil_right rest])

end Interleaving

section Schedules

variable {State : Type u}

/-- Two threads on a shared state: `true` in the schedule is a step of the left thread. -/
def interleave (left right : State → State) : List Bool → State → State
  | [], state => state
  | true :: schedule, state => interleave left right schedule (left state)
  | false :: schedule, state => interleave left right schedule (right state)

variable (left right : State → State)

@[simp]
theorem interleave_append (first second : List Bool) (state : State) :
    interleave left right (first ++ second) state =
      interleave left right second (interleave left right first state) := by
  induction first generalizing state with
  | nil => rfl
  | cons turn first ih => cases turn <;> exact ih _

@[simp]
theorem interleave_replicate_true (steps : ℕ) (state : State) :
    interleave left right (List.replicate steps true) state = left^[steps] state := by
  induction steps generalizing state with
  | zero => rfl
  | succ steps ih => exact ih (left state)

@[simp]
theorem interleave_replicate_false (steps : ℕ) (state : State) :
    interleave left right (List.replicate steps false) state = right^[steps] state := by
  induction steps generalizing state with
  | zero => rfl
  | succ steps ih => exact ih (right state)

theorem interleave_swap (schedule : List Bool) (state : State) :
    interleave left right schedule state = interleave right left (schedule.map not) state := by
  induction schedule generalizing state with
  | nil => rfl
  | cons turn schedule ih => cases turn <;> exact ih _

theorem interleave_invariant {left right : State → State} {property : State → Prop}
    (leftPreserves : ∀ state, property state → property (left state))
    (rightPreserves : ∀ state, property state → property (right state))
    (schedule : List Bool) {state : State} (initially : property state) :
    property (interleave left right schedule state) := by
  induction schedule generalizing state with
  | nil => exact initially
  | cons turn schedule ih =>
      cases turn with
      | true => exact ih (leftPreserves state initially)
      | false => exact ih (rightPreserves state initially)

/-- A rank that goes down with every step of the left thread, and not up with those of the right
thread, is at most what the turns of the left thread leave of it. -/
theorem interleave_rank_le (left right : State → State) (rank : State → ℕ)
    (decreases : ∀ state, rank (left state) ≤ rank state - 1)
    (keeps : ∀ state, rank (right state) ≤ rank state) (schedule : List Bool) (state : State) :
    rank (interleave left right schedule state) ≤ rank state - schedule.count true := by
  induction schedule generalizing state with
  | nil => simp [interleave]
  | cons turn schedule ih =>
      cases turn with
      | true =>
          have later := ih (left state)
          have now := decreases state
          rw [interleave, List.count_cons_self]
          omega
      | false =>
          have later := ih (right state)
          have now := keeps state
          rw [interleave, List.count_cons_of_ne (by decide)]
          omega

/-- For commuting threads only the number of steps of each one matters. -/
theorem interleave_eq_of_commute {left right : State → State}
    (commute : Function.Commute left right) (schedule : List Bool) (state : State) :
    interleave left right schedule state =
      left^[schedule.count true] (right^[schedule.count false] state) := by
  induction schedule generalizing state with
  | nil => rfl
  | cons turn schedule ih =>
      cases turn with
      | true =>
          have moved := (commute.iterate_right (schedule.count false)).eq state
          rw [interleave, ih, List.count_cons_self, List.count_cons_of_ne (by decide),
            Function.iterate_succ_apply, moved]
      | false =>
          rw [interleave, ih, List.count_cons_self, List.count_cons_of_ne (by decide),
            Function.iterate_succ_apply]

/-- A map that takes the steps of two threads to those of two others takes runs to runs. -/
theorem interleave_map {Image : Type*} {left right : State → State} {left' right' : Image → Image}
    {image : State → Image} (leftMapped : Function.Semiconj image left left')
    (rightMapped : Function.Semiconj image right right') (schedule : List Bool) (state : State) :
    image (interleave left right schedule state) =
      interleave left' right' schedule (image state) := by
  induction schedule generalizing state with
  | nil => rfl
  | cons turn schedule ih =>
      cases turn with
      | true => rw [interleave, interleave, ih, leftMapped.eq]
      | false => rw [interleave, interleave, ih, rightMapped.eq]

/-- Two iterates of a step that changes neither of them any more are the same. -/
theorem iterate_eq_of_isFixedPt {step : State → State} {state : State} {first second : ℕ}
    (firstFixed : Function.IsFixedPt step (step^[first] state))
    (secondFixed : Function.IsFixedPt step (step^[second] state)) :
    step^[first] state = step^[second] state := by
  rw [← (firstFixed.iterate second).eq, ← Function.iterate_add_apply, Nat.add_comm,
    Function.iterate_add_apply, (secondFixed.iterate first).eq]

end Schedules

section Stores

variable {Local Other Store : Type*}

/-- A step of the first of two threads that share a store. -/
def stepLeft (step : Local → Store → Local × Store) :
    Local × Other × Store → Local × Other × Store :=
  fun (state, other, store) => ((step state store).1, other, (step state store).2)

def stepRight (step : Other → Store → Other × Store) :
    Local × Other × Store → Local × Other × Store :=
  fun (state, other, store) => (state, (step other store).1, (step other store).2)

theorem stepLeft_iterate (step : Local → Store → Local × Store) (steps : ℕ) (state : Local)
    (other : Other) (store : Store) :
    (stepLeft step)^[steps] (state, other, store) =
      (((Function.uncurry step)^[steps] (state, store)).1, other,
        ((Function.uncurry step)^[steps] (state, store)).2) := by
  induction steps generalizing state store with
  | zero => rfl
  | succ steps ih => exact ih _ _

theorem stepRight_iterate (step : Other → Store → Other × Store) (steps : ℕ) (state : Local)
    (other : Other) (store : Store) :
    (stepRight step)^[steps] (state, other, store) =
      (state, (Function.uncurry step)^[steps] (other, store)) := by
  induction steps generalizing other store with
  | zero => rfl
  | succ steps ih => exact ih _ _

theorem semiconj_stepLeft {Image : Type*} {step : Local → Store → Local × Store}
    {step' : Local → Image → Local × Image} {image : Store → Image}
    (mapped : ∀ state store, step' state (image store) =
      ((step state store).1, image (step state store).2)) :
    Function.Semiconj (fun (state, other, store) => (state, other, image store))
      (stepLeft step : Local × Other × Store → _) (stepLeft step') := by
  rintro ⟨state, other, store⟩
  simp only [stepLeft, mapped]

theorem semiconj_stepRight {Image : Type*} {step : Other → Store → Other × Store}
    {step' : Other → Image → Other × Image} {image : Store → Image}
    (mapped : ∀ state store, step' state (image store) =
      ((step state store).1, image (step state store).2)) :
    Function.Semiconj (fun (state, other, store) => (state, other, image store))
      (stepRight step : Local × Other × Store → _) (stepRight step') := by
  rintro ⟨state, other, store⟩
  simp only [stepRight, mapped]

/-- The same state, seen with the two threads in the other order. -/
def exchange : Local × Other × Store → Other × Local × Store :=
  fun (state, other, store) => (other, state, store)

theorem interleave_exchange (left : Local → Store → Local × Store)
    (right : Other → Store → Other × Store) (schedule : List Bool)
    (state : Local × Other × Store) :
    exchange (interleave (stepLeft left) (stepRight right) schedule state) =
      interleave (stepLeft right) (stepRight left) (schedule.map not) (exchange state) := by
  have leftMapped :
      Function.Semiconj exchange (stepLeft left : Local × Other × Store → _) (stepRight left) :=
    fun _ => rfl
  have rightMapped :
      Function.Semiconj exchange (stepRight right : Local × Other × Store → _) (stepLeft right) :=
    fun _ => rfl
  rw [interleave_map leftMapped rightMapped, interleave_swap]

end Stores

section Footprints

variable {Local Other Key Value : Type*}

/-- A step of a thread on a store only changes, and only depends on, the keys in `footprint`. -/
structure ConfinedTo (footprint : Set Key)
    (step : Local → (Key → Value) → Local × (Key → Value)) : Prop where
  /-- Keys outside the footprint keep their value. -/
  frame : ∀ state store key, key ∉ footprint → (step state store).2 key = store key
  /-- The next local state is a function of the footprint. -/
  local_congr : ∀ state store other, Set.EqOn store other footprint →
    (step state store).1 = (step state other).1
  /-- The values left in the footprint are a function of the footprint. -/
  store_congr : ∀ state store other, Set.EqOn store other footprint →
    Set.EqOn (step state store).2 (step state other).2 footprint

theorem ConfinedTo.commute {leftFootprint rightFootprint : Set Key}
    {left : Local → (Key → Value) → Local × (Key → Value)}
    {right : Other → (Key → Value) → Other × (Key → Value)}
    (leftConfined : ConfinedTo leftFootprint left)
    (rightConfined : ConfinedTo rightFootprint right)
    (disjoint : ∀ key ∈ leftFootprint, key ∉ rightFootprint) :
    Function.Commute (stepLeft left : Local × Other × (Key → Value) → _) (stepRight right) := by
  rintro ⟨state, other, store⟩
  have rightKeeps : Set.EqOn (right other store).2 store leftFootprint := fun key key_mem =>
    rightConfined.frame other store key (disjoint key key_mem)
  have leftKeeps : Set.EqOn (left state store).2 store rightFootprint := fun key key_mem =>
    leftConfined.frame state store key fun inLeft => disjoint key inLeft key_mem
  simp only [stepLeft, stepRight, Prod.mk.injEq]
  refine ⟨leftConfined.local_congr _ _ _ rightKeeps,
    (rightConfined.local_congr _ _ _ leftKeeps).symm, ?_⟩
  funext key
  by_cases inLeft : key ∈ leftFootprint
  · have notRight := disjoint key inLeft
    rw [leftConfined.store_congr _ _ _ rightKeeps inLeft, rightConfined.frame _ _ _ notRight]
  · rw [leftConfined.frame _ _ _ inLeft]
    by_cases inRight : key ∈ rightFootprint
    · exact (rightConfined.store_congr _ _ _ leftKeeps inRight).symm
    · rw [rightConfined.frame _ _ _ inRight, rightConfined.frame _ _ _ inRight,
        leftConfined.frame _ _ _ inLeft]

end Footprints
