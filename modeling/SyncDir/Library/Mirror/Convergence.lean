import SyncDir.Library.Mirror.Basic

/-!
# Convergence of mirrored maps

With an exact comparison, every device agrees with the hub whenever all
channels are empty, however edits, pushes and echoes were interleaved before.

The invariant looks at one entry of one device.  If no pending push would change
the entry, then the device's uploads, served in order, leave the hub with the
value that the device has.  An edit and an echo both append the device's new
value to its uploads, and a push that is not echoed is the delete of an entry
that the device does not have.
-/

namespace Mirror

open Hub

variable {Key Value Device : Type*} [DecidableEq Key]
  {differs : Value → Value → Bool} {blank : Value}

/-- The results that a sequence of changes gives one entry, in order. -/
def resultsAt (key : Key) (changes : List (Change Key Value)) : List (Option Value) :=
  changes.filterMap fun change => if change.key = key then some change.result else none

@[simp]
theorem resultsAt_nil (key : Key) : resultsAt key ([] : List (Change Key Value)) = [] := rfl

@[simp]
theorem resultsAt_append (key : Key) (first second : List (Change Key Value)) :
    resultsAt key (first ++ second) = resultsAt key first ++ resultsAt key second :=
  List.filterMap_append

theorem resultsAt_cons_self (change : Change Key Value) (changes : List (Change Key Value)) :
    resultsAt change.key (change :: changes) = change.result :: resultsAt change.key changes := by
  simp [resultsAt]

theorem resultsAt_cons_of_ne {key : Key} {change : Change Key Value} (other : change.key ≠ key)
    (changes : List (Change Key Value)) :
    resultsAt key (change :: changes) = resultsAt key changes := by
  simp [resultsAt, other]

def latest (value : Option Value) (results : List (Option Value)) : Option Value :=
  results.foldl (fun _ result => result) value

@[simp]
theorem latest_nil (value : Option Value) : latest value [] = value := rfl

@[simp]
theorem latest_cons (value result : Option Value) (results : List (Option Value)) :
    latest value (result :: results) = latest result results := rfl

@[simp]
theorem latest_concat (value result : Option Value) (results : List (Option Value)) :
    latest value (results ++ [result]) = result := by
  simp [latest]

theorem latest_latest {value result : Option Value} {results : List (Option Value)}
    (last : latest value results = result) : latest result results = result := by
  cases results with
  | nil => rfl
  | cons head results => exact last

/-- Nothing that waits in a down channel would change the entry of the device. -/
def Unaffected (value : Option Value) (pending : List (Option Value)) : Prop :=
  ∀ result ∈ pending, result = none ∧ value = none

theorem unaffected_cons {value result : Option Value} {pending : List (Option Value)} :
    Unaffected value (result :: pending) ↔
      (result = none ∧ value = none) ∧ Unaffected value pending := by
  simp [Unaffected]

theorem unaffected_append {value : Option Value} {first second : List (Option Value)} :
    Unaffected value (first ++ second) ↔ Unaffected value first ∧ Unaffected value second := by
  exact List.forall_mem_append

/-- The invariant of an exact mirror: an entry that no pending push changes is what the hub
will have for it after serving the device's uploads. -/
structure Consistent (blank : Value)
    (state : State Device (Key → Option Value) (Change Key Value)) : Prop where
  notBlank : ∀ change, state.InFlight change → change.result ≠ some blank
  agrees : ∀ device key, Unaffected (state.device device key) (resultsAt key (state.down device)) →
    latest (state.server key) (resultsAt key ((state.up device).map Upload.message)) =
      state.device device key

theorem Consistent.synced (map : Key → Option Value) :
    Consistent blank (State.synced map : State Device (Key → Option Value) (Change Key Value)) :=
  ⟨by rintro change ⟨device, waiting | waiting⟩ <;> simp [State.synced] at waiting,
    fun _ _ _ => rfl⟩

/-- When nothing is in flight, every device agrees with the hub. -/
theorem Consistent.converges {state : State Device (Key → Option Value) (Change Key Value)}
    (consistent : Consistent blank state) (quiescent : state.Quiescent) (device : Device) :
    state.device device = state.server := by
  funext key
  have agrees := consistent.agrees device key
  rw [(quiescent device).1, (quiescent device).2] at agrees
  exact (agrees (by simp [Unaffected])).symm

variable [DecidableEq Device]

/-- An exact comparison makes the hub apply every change, and forward all but the idle ones. -/
theorem serve_exact (exact : ∀ stored value, differs stored value = true ↔ stored ≠ value)
    (map : Key → Option Value) {change : Change Key Value}
    (notBlank : change.result ≠ some blank) :
    (serve differs blank map change).1 = change.apply map ∧
      ((serve differs blank map change).2 = false →
        (serve differs blank map change).1 = map) := by
  cases change with
  | write key value =>
      by_cases different : differs ((map key).getD blank) value = true
      · simp [serve, different, Change.apply, Change.key, Change.result]
      · have same : (map key).getD blank = value := by
          by_contra distinct
          exact different ((exact _ _).mpr distinct)
        have stored : map key = some value := by
          cases found : map key with
          | none => simp_all [Change.result]
          | some old => simp_all
        rw [stored, Option.getD_some] at different
        simp [serve, different, Change.apply, Change.key, Change.result, stored,
          Function.update_eq_self_iff]
  | delete key =>
      cases found : map key <;>
        simp [serve, found, Change.apply, Change.key, Change.result, Function.update_eq_self_iff]

section Steps

variable {state : State Device (Key → Option Value) (Change Key Value)} {device : Device}

theorem Consistent.edited (consistent : Consistent blank state) {change : Change Key Value}
    (notBlank : change.result ≠ some blank) :
    Consistent blank (state.edited device change (change.apply (state.device device))) := by
  constructor
  · intro other inFlight
    rcases inFlight_edited inFlight with old | rfl
    · exact consistent.notBlank other old
    · exact notBlank
  · intro other key unaffected
    by_cases sameDevice : other = device
    · subst other
      simp only [State.edited, Function.update_self, List.map_append, List.map_cons,
        List.map_nil, resultsAt_append] at unaffected ⊢
      by_cases sameKey : key = change.key
      · subst key
        simp [resultsAt_cons_self, Change.apply]
      · have kept : change.apply (state.device device) key = state.device device key :=
          Function.update_of_ne sameKey _ _
        rw [kept] at unaffected ⊢
        rw [resultsAt_cons_of_ne (Ne.symm sameKey), resultsAt_nil, List.append_nil]
        exact consistent.agrees device key unaffected
    · simp only [State.edited, Function.update_of_ne sameDevice] at unaffected ⊢
      exact consistent.agrees other key unaffected

theorem Consistent.served [DecidableEq Value]
    (exact : ∀ stored value, differs stored value = true ↔ stored ≠ value)
    (consistent : Consistent blank state) {upload : Upload (Change Key Value)}
    {waiting : List (Upload (Change Key Value))} (first : state.up device = upload :: waiting) :
    Consistent blank
      (state.served (reactions differs blank) device upload.message waiting) := by
  have uploadNotBlank : upload.message.result ≠ some blank :=
    consistent.notBlank _ ⟨device, Or.inl (by simp [first])⟩
  rcases serve_exact exact state.server uploadNotBlank with ⟨applied, idle⟩
  constructor
  · intro change inFlight
    exact consistent.notBlank change (inFlight_served first inFlight)
  · intro other key unaffected
    simp only [State.served, reactions, resultsAt_append] at unaffected ⊢
    have agrees := consistent.agrees other key (unaffected_append.mp unaffected).1
    by_cases sameKey : key = upload.message.key
    · subst key
      have stored : (serve differs blank state.server upload.message).1 upload.message.key =
          upload.message.result := by
        rw [applied]
        exact Function.update_self _ _ _
      by_cases sameDevice : other = device
      · -- The served upload is the first result of the device, hence the new starting value.
        subst other
        rw [first, List.map_cons, resultsAt_cons_self, latest_cons] at agrees
        rw [stored, Function.update_self]
        exact agrees
      · rw [Function.update_of_ne sameDevice]
        cases forwarded : (serve differs blank state.server upload.message).2 with
        | true =>
            -- The push leaves the device unaffected, so it is a delete of an absent entry.
            have pushed := (unaffected_append.mp unaffected).2 upload.message.result (by
              simp [State.pushed, forwarded, sameDevice, resultsAt_cons_self])
            rw [stored, pushed.1]
            rw [pushed.2] at agrees ⊢
            exact latest_latest agrees
        | false =>
            rw [idle forwarded]
            exact agrees
    · rw [serve_frame _ _ sameKey]
      by_cases sameDevice : other = device
      · subst other
        rw [first, List.map_cons, resultsAt_cons_of_ne (Ne.symm sameKey)] at agrees
        rw [Function.update_self]
        exact agrees
      · rw [Function.update_of_ne sameDevice]
        exact agrees

theorem Consistent.absorbed [DecidableEq Value] (consistent : Consistent blank state)
    {change : Change Key Value} {waiting : List (Change Key Value)}
    (first : state.down device = change :: waiting) :
    Consistent blank (state.absorbed (reactions differs blank) device change waiting) := by
  constructor
  · intro other inFlight
    rcases inFlight_absorbed first inFlight with old | echoed
    · exact consistent.notBlank other old
    · rw [eq_of_mem_absorb echoed]
      exact consistent.notBlank _ ⟨device, Or.inr (by simp [first])⟩
  · intro other key unaffected
    by_cases sameDevice : other = device
    · subst other
      have agrees := consistent.agrees device key
      simp only [State.absorbed, reactions, Function.update_self, absorb_apply, List.map_append,
        List.map_map, Function.comp_def, List.map_id', resultsAt_append] at unaffected ⊢
      by_cases sameKey : key = change.key
      · subst key
        have applied : change.apply (state.device device) change.key = change.result :=
          Function.update_self _ _ _
        rw [applied] at unaffected ⊢
        rcases absorb_echoes (state.device device) change with echoed | ⟨silent, idle⟩
        · simp [echoed, resultsAt_cons_self]
        · -- Without an echo the change was a delete of an absent entry, and nothing has changed.
          rw [silent, resultsAt_nil, List.append_nil]
          rw [first, resultsAt_cons_self] at agrees
          rw [idle.1] at agrees unaffected ⊢
          rw [idle.2] at agrees
          exact agrees (unaffected_cons.mpr ⟨⟨rfl, rfl⟩, unaffected⟩)
      · have kept : change.apply (state.device device) key = state.device device key :=
          Function.update_of_ne sameKey _ _
        have echoesElsewhere : resultsAt key (absorb (state.device device) change).2 = [] := by
          rcases absorb_echoes (state.device device) change with echoed | ⟨silent, -⟩
          · rw [echoed, resultsAt_cons_of_ne (Ne.symm sameKey), resultsAt_nil]
          · rw [silent, resultsAt_nil]
        rw [first, resultsAt_cons_of_ne (Ne.symm sameKey)] at agrees
        rw [kept] at unaffected ⊢
        rw [echoesElsewhere, List.append_nil]
        exact agrees unaffected
    · simp only [State.absorbed, Function.update_of_ne sameDevice] at unaffected ⊢
      exact consistent.agrees other key unaffected

end Steps

theorem Consistent.reachable [DecidableEq Value]
    (exact : ∀ stored value, differs stored value = true ↔ stored ≠ value)
    {allowed : State Device (Key → Option Value) (Change Key Value) →
      Event Device (Change Key Value) → Prop}
    {start state : State Device (Key → Option Value) (Change Key Value)}
    (initially : Consistent blank start)
    (reached : Transition.Reachable (step (reactions differs blank)) allowed start state) :
    Consistent blank state := by
  refine reached.invariant initially ?_
  intro state event next consistent _ performed
  cases event with
  | edit device change =>
      rcases step_edit_eq_some.mp performed with ⟨edited, possible, rfl⟩
      rcases edit_eq_some possible with ⟨rfl, notBlank⟩
      exact consistent.edited notBlank
  | serve device =>
      rcases step_serve_eq_some.mp performed with ⟨upload, waiting, first, rfl⟩
      exact consistent.served exact first
  | absorb device =>
      rcases step_absorb_eq_some.mp performed with ⟨change, waiting, first, rfl⟩
      exact consistent.absorbed first

end Mirror
