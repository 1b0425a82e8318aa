import SyncDir.Library.Transition

/-!
# Critical sections

Threads call a function whose body is guarded by a mutex.  The body is a
sequence of steps on a store that only the body uses, and other threads can wait
for the mutex between any two of them.  If the body as a whole performs an
operation, then the calls perform this operation one after the other, in the
order in which they have acquired the mutex.
-/

namespace CriticalSection

open Transition

universe u v w x

/-- A body that begins at a point that depends on the call, and is left at a point without a
step. -/
structure Body (Call : Type u) (Point : Type v) (Store : Type w) where
  begin : Call → Point
  step : Point → Store → Option (Point × Store)

variable {Thread : Type x} {Call : Type u} {Point : Type v} {Store : Type w}

/-- The store, the holder of the mutex with its point, and the calls that have acquired the
mutex. -/
structure State (Thread : Type x) (Call : Type u) (Point : Type v) (Store : Type w) where
  store : Store
  holder : Option (Thread × Point)
  entered : List (Thread × Call)

inductive Event (Thread : Type x) (Call : Type u)
  | lock (thread : Thread) (call : Call)
  /-- The holder makes a step, or releases the mutex at the end of the body. -/
  | advance (thread : Thread)

def State.free (store : Store) : State Thread Call Point Store :=
  { store, holder := none, entered := [] }

section

variable [DecidableEq Thread] (body : Body Call Point Store)

def step (state : State Thread Call Point Store) :
    Event Thread Call → Option (State Thread Call Point Store)
  | .lock thread call =>
      match state.holder with
      | some _ => none
      | none => some { state with
          holder := some (thread, body.begin call)
          entered := state.entered ++ [(thread, call)] }
  | .advance thread =>
      match state.holder with
      | none => none
      | some (holder, point) =>
          if holder = thread then
            match body.step point state.store with
            | none => some { state with holder := none }
            | some (next, store) => some { state with store, holder := some (thread, next) }
          else none

end

/-- From a point, the body is left with the last store. -/
inductive Ends (body : Body Call Point Store) : Point → Store → Store → Prop
  | leave {point : Point} {store : Store} (last : body.step point store = none) :
      Ends body point store store
  | step {point next : Point} {store after result : Store}
      (stepped : body.step point store = some (next, after)) (rest : Ends body next after result) :
      Ends body point store result

/-- As a whole, the body performs the operation. -/
def Performs (body : Body Call Point Store) (operation : Call → Store → Store) : Prop :=
  ∀ call store, Ends body (body.begin call) store (operation call store)

/-- The operation of one call after the other. -/
def performed (operation : Call → Store → Store) (store : Store)
    (calls : List (Thread × Call)) : Store :=
  calls.foldl (fun store entry => operation entry.2 store) store

variable {body : Body Call Point Store} {operation : Call → Store → Store}
  {point next : Point} {store after result : Store}

theorem performed_concat (operation : Call → Store → Store) (store : Store)
    (calls : List (Thread × Call)) (thread : Thread) (call : Call) :
    performed operation store (calls ++ [(thread, call)]) =
      operation call (performed operation store calls) := by
  simp [performed]

theorem Ends.eq_of_leave (ends : Ends body point store result)
    (last : body.step point store = none) : store = result := by
  cases ends with
  | leave => rfl
  | step stepped rest =>
      rw [last] at stepped
      cases stepped

theorem Ends.of_step (ends : Ends body point store result)
    (stepped : body.step point store = some (next, after)) : Ends body next after result := by
  cases ends with
  | leave last =>
      rw [last] at stepped
      cases stepped
  | step other rest =>
      rw [stepped] at other
      cases other
      exact rest

/-- Every step of the body goes up in a preorder of the stores. -/
structure Grows (body : Body Call Point Store) (below : Store → Store → Prop) : Prop where
  refl : ∀ store, below store store
  trans : ∀ first second third, below first second → below second third → below first third
  step : ∀ point store next after, body.step point store = some (next, after) → below store after

theorem Ends.grows {below : Store → Store → Prop} (grows : Grows body below)
    (ends : Ends body point store result) : below store result := by
  induction ends with
  | leave => exact grows.refl _
  | step stepped rest ih => exact grows.trans _ _ _ (grows.step _ _ _ _ stepped) ih

/-- A holder is on its way to what the calls perform; without a holder, they have performed it. -/
structure Serial (body : Body Call Point Store) (operation : Call → Store → Store)
    (start : Store) (state : State Thread Call Point Store) : Prop where
  free : state.holder = none → state.store = performed operation start state.entered
  held : ∀ thread point, state.holder = some (thread, point) →
    Ends body point state.store (performed operation start state.entered)

variable [DecidableEq Thread] {start : Store} {state after : State Thread Call Point Store}
  {event : Event Thread Call}

theorem Serial.step (performs : Performs body operation)
    (serial : Serial body operation start state)
    (stepped : CriticalSection.step body state event = some after) :
    Serial body operation start after := by
  cases event with
  | lock thread call =>
      cases holder : state.holder with
      | some _ => simp [CriticalSection.step, holder] at stepped
      | none =>
          simp only [CriticalSection.step, holder, Option.some.injEq] at stepped
          subst stepped
          refine ⟨fun free => absurd free (Option.some_ne_none _), ?_⟩
          rintro _ _ ⟨⟩
          rw [performed_concat, ← serial.free holder]
          exact performs call state.store
  | advance thread =>
      cases holder : state.holder with
      | none => simp [CriticalSection.step, holder] at stepped
      | some held =>
          rcases held with ⟨other, point⟩
          simp only [CriticalSection.step, holder] at stepped
          have ends := serial.held other point holder
          split_ifs at stepped with same
          split at stepped
          case h_1 last =>
            cases stepped
            refine ⟨fun _ => ends.eq_of_leave last, ?_⟩
            rintro _ _ ⟨⟩
          case h_2 next store moved =>
            cases stepped
            refine ⟨fun free => absurd free (Option.some_ne_none _), ?_⟩
            rintro _ _ ⟨⟩
            exact ends.of_step moved

theorem Serial.reachable (performs : Performs body operation)
    {allowed : State Thread Call Point Store → Event Thread Call → Prop}
    (reached : Reachable (CriticalSection.step body) allowed (.free start) state) :
    Serial body operation start state := by
  apply reached.invariant
  · refine ⟨fun _ => rfl, ?_⟩
    rintro _ _ ⟨⟩
  · intro state event after serial _ stepped
    exact serial.step performs stepped

/-- The store is at all times between what all calls but the last perform, and what all calls
perform. -/
theorem between {below : Store → Store → Prop} (performs : Performs body operation)
    (grows : Grows body below)
    {allowed : State Thread Call Point Store → Event Thread Call → Prop}
    (reached : Reachable (CriticalSection.step body) allowed (.free start) state) :
    below (performed operation start state.entered.dropLast) state.store ∧
      below state.store (performed operation start state.entered) := by
  have whole : ∀ calls : List (Thread × Call),
      below (performed operation start calls.dropLast) (performed operation start calls) := by
    intro calls
    rcases List.eq_nil_or_concat calls with rfl | ⟨done, ⟨thread, call⟩, rfl⟩
    · exact grows.refl _
    · rw [List.concat_eq_append, List.dropLast_concat, performed_concat]
      exact (performs call _).grows grows
  have serial := Serial.reachable performs reached
  have upper : below state.store (performed operation start state.entered) := by
    cases holder : state.holder with
    | none =>
        rw [serial.free holder]
        exact grows.refl _
    | some held => exact (serial.held held.1 held.2 holder).grows grows
  refine ⟨?_, upper⟩
  clear upper serial
  induction reached with
  | start => exact grows.refl _
  | @step state after event reached permitted stepped ih =>
      have serial := Serial.reachable performs reached
      cases event with
      | lock thread call =>
          cases holder : state.holder with
          | some _ => simp [CriticalSection.step, holder] at stepped
          | none =>
              simp only [CriticalSection.step, holder, Option.some.injEq] at stepped
              subst stepped
              simp only [List.dropLast_concat, ← serial.free holder]
              exact grows.refl _
      | advance thread =>
          cases holder : state.holder with
          | none => simp [CriticalSection.step, holder] at stepped
          | some held =>
              rcases held with ⟨other, point⟩
              simp only [CriticalSection.step, holder] at stepped
              split_ifs at stepped with same
              split at stepped
              case h_1 last =>
                cases stepped
                exact ih
              case h_2 next store moved =>
                cases stepped
                exact grows.trans _ _ _ ih (grows.step _ _ _ _ moved)

/-- The holder can always release the mutex, by its own steps. -/
theorem exists_free_of_ends {thread : Thread} (ends : Ends body point store result)
    (calls : List (Thread × Call)) :
    Reachable (CriticalSection.step body) (fun _ event => event = .advance thread)
      { store, holder := some (thread, point), entered := calls }
      { store := result, holder := none, entered := calls } := by
  induction ends with
  | leave last =>
      refine .single ?_ rfl
      simp [CriticalSection.step, last]
  | step stepped rest ih =>
      refine Reachable.trans (.single ?_ rfl) ih
      simp [CriticalSection.step, stepped]

end CriticalSection
