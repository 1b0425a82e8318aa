import Mathlib.Order.WellFounded
import Mathlib.Data.Prod.Lex

/-!
# Guarded transition systems

A system is given by a partial step function: `step state event` is the next
state when `event` is enabled, and `none` otherwise.  A second parameter,
`allowed`, restricts the events of a run without changing what they do, so that
one step function serves for all runs and for the runs of a disciplined
environment.

The file provides the principles used for such systems: an invariant of the
steps holds in every reachable state; if the events that keep an invariant are
known exactly, so are the runs that keep it; and a measure that decreases along
the allowed steps excludes infinite runs.  Conversely, a run that returns to its
first state can be repeated for ever.
-/

namespace Transition

universe u v

variable {State : Type u} {Event : Type v}

section Runs

variable (step : State → Event → Option State)

/-- The state after performing `events` in order, if all of them are enabled. -/
def run (state : State) : List Event → Option State
  | [] => some state
  | event :: events => (step state event).bind fun next => run next events

/-- The states that a run goes through, beginning with `state`. -/
def visited (state : State) : List Event → List State
  | [] => [state]
  | event :: events => state :: (step state event).elim [] fun next => visited next events

variable (allowed : State → Event → Prop)

/-- Every event of a run is allowed in the state in which it occurs. -/
def Permits (state : State) : List Event → Prop
  | [] => True
  | event :: events =>
      allowed state event ∧ ∀ next, step state event = some next → Permits next events

inductive Reachable (start : State) : State → Prop
  | start : Reachable start start
  | step {state next : State} {event : Event} (reached : Reachable start state)
      (permitted : allowed state event) (performed : step state event = some next) :
      Reachable start next

/-- Some infinite sequence of allowed events can be performed from `state`. -/
def Endless (state : State) : Prop :=
  ∃ path : ℕ → State, path 0 = state ∧
    ∀ time, ∃ event, allowed (path time) event ∧
      step (path time) event = some (path (time + 1))

end Runs

variable {step : State → Event → Option State} {allowed : State → Event → Prop}
  {start state : State}

theorem run_append (first second : List Event) (state : State) :
    run step state (first ++ second) = (run step state first).bind (run step · second) := by
  induction first generalizing state with
  | nil => rfl
  | cons event first ih =>
      rw [List.cons_append, run, run, Option.bind_assoc]
      exact congrArg _ (funext ih)

/-- What holds initially and is preserved by allowed steps holds in every reachable state. -/
theorem Reachable.invariant {property : State → Prop} (initially : property start)
    (preserved : ∀ state event next, property state → allowed state event →
      step state event = some next → property next)
    (reached : Reachable step allowed start state) : property state := by
  induction reached with
  | start => exact initially
  | step _ permitted performed ih => exact preserved _ _ _ ih permitted performed

theorem Reachable.mono {permitted : State → Event → Prop}
    (weaker : ∀ state event, allowed state event → permitted state event)
    (reached : Reachable step allowed start state) : Reachable step permitted start state := by
  induction reached with
  | start => exact .start
  | step _ permitted performed ih => exact .step ih (weaker _ _ permitted) performed

theorem Reachable.trans {middle last : State} (first : Reachable step allowed start middle)
    (second : Reachable step allowed middle last) : Reachable step allowed start last := by
  induction second with
  | start => exact first
  | step _ permitted performed ih => exact .step ih permitted performed

theorem Reachable.single {next : State} {event : Event} (performed : step start event = some next)
    (permitted : allowed start event) : Reachable step allowed start next :=
  .step .start permitted performed

theorem Reachable.of_run {events : List Event} {last : State}
    (permitted : ∀ event ∈ events, ∀ state, allowed state event)
    (reached : Reachable step allowed start state)
    (performed : run step state events = some last) : Reachable step allowed start last := by
  induction events generalizing state with
  | nil =>
      obtain rfl : state = last := by simpa [run] using performed
      exact reached
  | cons event events ih =>
      rcases Option.bind_eq_some_iff.mp performed with ⟨next, first, remaining⟩
      have nextReached : Reachable step allowed start next :=
        .step reached (permitted event (by simp) state) first
      exact ih (fun later later_mem => permitted later (by simp [later_mem])) nextReached remaining

theorem mem_visited_self (state : State) (events : List Event) :
    state ∈ visited step state events := by
  cases events <;> simp [visited]

theorem permits_of_forall (permitted : ∀ state event, allowed state event) (state : State)
    (events : List Event) : Permits step allowed state events := by
  induction events generalizing state with
  | nil => trivial
  | cons event events ih => exact ⟨permitted state event, fun next _ => ih next⟩

theorem Permits.cons {next : State} {event : Event} {events : List Event}
    (permitted : allowed state event) (performed : step state event = some next)
    (rest : Permits step allowed next events) : Permits step allowed state (event :: events) := by
  refine ⟨permitted, ?_⟩
  intro other moved
  obtain rfl : next = other := Option.some.inj (performed.symm.trans moved)
  exact rest

/-- If exactly the allowed events are respected and keep a property, where an invariant holds that
respected events keep, then the events of a run are respected, with the property all along it,
exactly if all events of the run are allowed. -/
theorem visited_and_permits_iff {invariant property : State → Prop}
    {respected : State → Event → Prop} {events : List Event} {last : State}
    (stable : ∀ state event next, invariant state → respected state event →
      step state event = some next → invariant next)
    (kept : ∀ state event next, invariant state → property state →
      step state event = some next → (respected state event ∧ property next ↔ allowed state event))
    (invariantStart : invariant start) (propertyStart : property start)
    (performed : run step start events = some last) :
    ((∀ state ∈ visited step start events, property state) ∧
        Permits step respected start events) ↔
      Permits step allowed start events := by
  induction events generalizing start with
  | nil => simpa [visited, Permits] using propertyStart
  | cons event events ih =>
      rcases Option.bind_eq_some_iff.mp performed with ⟨next, first, remaining⟩
      have keeps := kept start event next invariantStart propertyStart first
      simp only [visited, first, Option.elim_some, List.forall_mem_cons, propertyStart, true_and,
        Permits, Option.some.injEq, forall_eq']
      constructor
      · rintro ⟨throughout, respects, later⟩
        have after := throughout next (mem_visited_self next events)
        have invariantNext := stable start event next invariantStart respects first
        exact ⟨keeps.mp ⟨respects, after⟩,
          (ih invariantNext after remaining).mp ⟨throughout, later⟩⟩
      · rintro ⟨permitted, later⟩
        rcases keeps.mpr permitted with ⟨respects, after⟩
        have invariantNext := stable start event next invariantStart respects first
        rcases (ih invariantNext after remaining).mpr later with ⟨throughout, respectsLater⟩
        exact ⟨throughout, respects, respectsLater⟩

/-- If exactly the allowed events keep a property where an invariant holds, then the property holds
all along a run exactly if all events of the run are allowed. -/
theorem visited_iff_permits_of_invariant {invariant property : State → Prop} {events : List Event}
    {last : State}
    (stable : ∀ state event next, invariant state → step state event = some next → invariant next)
    (kept : ∀ state event next, invariant state → property state →
      step state event = some next → (property next ↔ allowed state event))
    (invariantStart : invariant start) (propertyStart : property start)
    (performed : run step start events = some last) :
    (∀ state ∈ visited step start events, property state) ↔ Permits step allowed start events := by
  have unrestricted : Permits step (fun _ _ => True) start events :=
    permits_of_forall (fun _ _ => trivial) start events
  rw [← and_iff_left (a := ∀ state ∈ visited step start events, property state) unrestricted]
  apply visited_and_permits_iff _ _ invariantStart propertyStart performed
  · intro state event next holds _
    exact stable state event next holds
  · intro state event next holds propertyHolds moved
    rw [true_and]
    exact kept state event next holds propertyHolds moved

theorem visited_iff_permits {property : State → Prop} {events : List Event} {last : State}
    (kept : ∀ state event next, property state → step state event = some next →
      (property next ↔ allowed state event))
    (initially : property start) (performed : run step start events = some last) :
    (∀ state ∈ visited step start events, property state) ↔ Permits step allowed start events := by
  have stable : ∀ state event next, True → step state event = some next → True := by
    intro _ _ _ _ _
    trivial
  apply visited_iff_permits_of_invariant stable _ trivial initially performed
  intro state event next _
  exact kept state event next

/-- A measure into a well-founded order that decreases with every allowed step excludes
infinite runs. -/
theorem not_endless_of_decreasing {Rank : Type*} [LT Rank] [WellFoundedLT Rank]
    {invariant : State → Prop} (rank : State → Rank) (initially : invariant state)
    (decreases : ∀ state event next, invariant state → allowed state event →
      step state event = some next → invariant next ∧ rank next < rank state) :
    ¬Endless step allowed state := by
  rintro ⟨path, path_zero, moves⟩
  have holds : ∀ time, invariant (path time) := by
    intro time
    induction time with
    | zero => exact path_zero ▸ initially
    | succ time ih =>
        rcases moves time with ⟨event, permitted, performed⟩
        exact (decreases _ event _ ih permitted performed).1
  have descending : ∀ time, rank (path (time + 1)) < rank (path time) := by
    intro time
    rcases moves time with ⟨event, permitted, performed⟩
    exact (decreases _ event _ (holds time) permitted performed).2
  rcases wellFounded_lt.has_min (Set.range fun time => rank (path time)) ⟨_, 0, rfl⟩
      with ⟨least, ⟨time, rfl⟩, minimal⟩
  exact minimal _ ⟨time + 1, rfl⟩ (descending time)

theorem not_endless_of_rank {Rank : Type*} [LT Rank] [WellFoundedLT Rank] (rank : State → Rank)
    (decreases : ∀ state event next, allowed state event → step state event = some next →
      rank next < rank state) :
    ¬Endless step allowed state := by
  have kept : ∀ state event next, (fun _ : State => True) state → allowed state event →
      step state event = some next → (fun _ : State => True) next ∧ rank next < rank state := by
    intro state event next _ permitted performed
    exact ⟨trivial, decreases state event next permitted performed⟩
  exact not_endless_of_decreasing rank trivial kept

/-- A set of states that can always be stayed in by an allowed step supports an infinite run. -/
theorem endless_of_progress (region : State → Prop) (initially : region state)
    (progress : ∀ state, region state → ∃ event next, allowed state event ∧
      step state event = some next ∧ region next) :
    Endless step allowed state := by
  choose! event next permitted performed stays using progress
  have inside : ∀ time, region (next^[time] state) := by
    intro time
    induction time with
    | zero => exact initially
    | succ time ih =>
        rw [Function.iterate_succ_apply']
        exact stays _ ih
  refine ⟨fun time => next^[time] state, rfl, ?_⟩
  intro time
  refine ⟨event _ (inside time), permitted _ (inside time), ?_⟩
  simpa only [Function.iterate_succ_apply'] using performed _ (inside time)

/-- A nonempty run of allowed events back to its first state can be repeated for ever. -/
theorem endless_of_cycle {events : List Event} (nonempty : events ≠ [])
    (permitted : ∀ event ∈ events, ∀ state, allowed state event)
    (cycle : run step state events = some state) :
    Endless step allowed state := by
  -- The states on the cycle are those with a nonempty agenda of permitted events back to `state`.
  apply endless_of_progress (fun current => ∃ agenda : List Event, agenda ≠ [] ∧
    (∀ event ∈ agenda, ∀ state, allowed state event) ∧ run step current agenda = some state)
  · exact ⟨events, nonempty, permitted, cycle⟩
  · rintro current ⟨_ | ⟨event, agenda⟩, agendaNonempty, agendaPermitted, returns⟩
    · exact absurd rfl agendaNonempty
    · rcases Option.bind_eq_some_iff.mp returns with ⟨next, performed, remaining⟩
      refine ⟨event, next, agendaPermitted event List.mem_cons_self current, performed, ?_⟩
      cases agenda with
      | nil =>
          obtain rfl : next = state := by simpa [run] using remaining
          exact ⟨events, nonempty, permitted, cycle⟩
      | cons following agenda =>
          exact ⟨following :: agenda, by simp,
            fun later later_mem => agendaPermitted later (List.mem_cons_of_mem _ later_mem),
            remaining⟩

end Transition
