import Mathlib.Algebra.BigOperators.Group.Finset.Basic
import Mathlib.Algebra.Order.BigOperators.Group.Finset
import Mathlib.Data.Prod.Lex
import SyncDir.Library.Mirror.Basic

/-!
# Termination of mirrored maps

Without further edits, the messages die out if all messages in flight about an
entry announce the same change.  The hub can then act on at most one message
about each entry: afterwards all messages about it agree with the hub.

The measure is lexicographic.  Its first component counts the messages that do
not agree with the hub, and drops when the hub forwards a message.  Its second
component weighs a push twice, since it may still turn into an echo, and drops
with every step that forwards nothing.
-/

namespace Mirror

open Hub

variable {Key Value Device : Type*}

/-- All messages in flight about an entry announce the same change. -/
def Unanimous (state : State Device (Key → Option Value) (Change Key Value)) : Prop :=
  ∀ first second, state.InFlight first → state.InFlight second →
    first.key = second.key → first = second

def pendingCount [DecidableEq Value] (map : Key → Option Value)
    (changes : List (Change Key Value)) : ℕ :=
  changes.countP fun change => map change.key ≠ change.result

/-- How much work a channel pair leaves: a push may turn into an upload. -/
def channelWeight (up : List (Upload (Change Key Value))) (down : List (Change Key Value)) : ℕ :=
  up.length + 2 * down.length

def inFlightAt (state : State Device (Key → Option Value) (Change Key Value))
    (device : Device) : List (Change Key Value) :=
  (state.up device).map Upload.message ++ state.down device

theorem mem_inFlightAt {state : State Device (Key → Option Value) (Change Key Value)}
    {device : Device} {change : Change Key Value} (waiting : change ∈ inFlightAt state device) :
    state.InFlight change :=
  ⟨device, List.mem_append.mp waiting⟩

/-- The measure that decreases with every step but an edit. -/
def workLeft [Fintype Device] [DecidableEq Value]
    (state : State Device (Key → Option Value) (Change Key Value)) : ℕ ×ₗ ℕ :=
  toLex (∑ device, pendingCount state.server (inFlightAt state device),
    ∑ device, channelWeight (state.up device) (state.down device))

section Counts

variable [DecidableEq Value]

/-- Bringing no agreement to an end does not add to the pending changes. -/
theorem pendingCount_mono {before after : Key → Option Value} {changes : List (Change Key Value)}
    (kept : ∀ change ∈ changes, before change.key = change.result →
      after change.key = change.result) :
    pendingCount after changes ≤ pendingCount before changes := by
  apply List.countP_mono_left
  intro change change_mem pending
  simp only [decide_eq_true_eq] at pending ⊢
  exact fun reflected => pending (kept change change_mem reflected)

theorem pendingCount_append (map : Key → Option Value) (first second : List (Change Key Value)) :
    pendingCount map (first ++ second) = pendingCount map first + pendingCount map second :=
  List.countP_append

theorem pendingCount_cons_of_pending {map : Key → Option Value} {change : Change Key Value}
    (pending : map change.key ≠ change.result) (changes : List (Change Key Value)) :
    pendingCount map (change :: changes) = pendingCount map changes + 1 :=
  List.countP_cons_of_pos (by simpa using pending)

theorem pendingCount_cons_le (map : Key → Option Value) (change : Change Key Value)
    (changes : List (Change Key Value)) :
    pendingCount map changes ≤ pendingCount map (change :: changes) :=
  (List.sublist_cons_self change changes).countP_le

end Counts

section Steps

variable [DecidableEq Key] [DecidableEq Value] [DecidableEq Device]
  {differs : Value → Value → Bool} {blank : Value}
  {state : State Device (Key → Option Value) (Change Key Value)} {device : Device}

theorem Unanimous.served (unanimous : Unanimous state) {upload : Upload (Change Key Value)}
    {waiting : List (Upload (Change Key Value))} (first : state.up device = upload :: waiting) :
    Unanimous (state.served (reactions differs blank) device upload.message waiting) :=
  fun left right leftInFlight rightInFlight sameKey =>
    unanimous left right (inFlight_served first leftInFlight)
      (inFlight_served first rightInFlight) sameKey

theorem Unanimous.absorbed (unanimous : Unanimous state) {change : Change Key Value}
    {waiting : List (Change Key Value)} (first : state.down device = change :: waiting) :
    Unanimous (state.absorbed (reactions differs blank) device change waiting) := by
  have change_inFlight : state.InFlight change := ⟨device, Or.inr (by simp [first])⟩
  have before : ∀ other,
      (state.absorbed (reactions differs blank) device change waiting).InFlight other →
        state.InFlight other := by
    intro other inFlight
    rcases inFlight_absorbed first inFlight with old | echoed
    · exact old
    · rwa [eq_of_mem_absorb echoed]
  exact fun left right leftInFlight rightInFlight sameKey =>
    unanimous left right (before left leftInFlight) (before right rightInFlight) sameKey

omit [DecidableEq Value] [DecidableEq Device] in
/-- Serving one of unanimous messages keeps the agreement of all messages in flight. -/
theorem Unanimous.serve_keeps (reflexive : ∀ value, differs value value = false)
    (unanimous : Unanimous state) {served change : Change Key Value}
    (served_inFlight : state.InFlight served) (change_inFlight : state.InFlight change)
    (reflected : state.server change.key = change.result) :
    (serve differs blank state.server served).1 change.key = change.result := by
  by_cases sameKey : change.key = served.key
  · have same := unanimous change served change_inFlight served_inFlight sameKey
    subst same
    rw [serve_of_reflected reflexive reflected]
    exact reflected
  · rw [serve_frame _ _ sameKey]
    exact reflected

variable [Fintype Device]

omit [DecidableEq Key] [DecidableEq Device] in
theorem workLeft_lt_of_le (device : Device)
    {next : State Device (Key → Option Value) (Change Key Value)}
    (pending : ∀ other, pendingCount next.server (inFlightAt next other) ≤
      pendingCount state.server (inFlightAt state other))
    (weight : ∀ other, channelWeight (next.up other) (next.down other) ≤
      channelWeight (state.up other) (state.down other))
    (lighter : channelWeight (next.up device) (next.down device) <
      channelWeight (state.up device) (state.down device)) :
    workLeft next < workLeft state := by
  have fewer : ∑ other, pendingCount next.server (inFlightAt next other) ≤
      ∑ other, pendingCount state.server (inFlightAt state other) :=
    Finset.sum_le_sum fun other _ => pending other
  have less : ∑ other, channelWeight (next.up other) (next.down other) <
      ∑ other, channelWeight (state.up other) (state.down other) :=
    Finset.sum_lt_sum (fun other _ => weight other) ⟨device, Finset.mem_univ _, lighter⟩
  rw [workLeft, workLeft, Prod.Lex.toLex_lt_toLex]
  rcases fewer.lt_or_eq with strictly | same
  · exact Or.inl strictly
  · exact Or.inr ⟨same, less⟩

theorem workLeft_served (reflexive : ∀ value, differs value value = false)
    (unanimous : Unanimous state) {upload : Upload (Change Key Value)}
    {waiting : List (Upload (Change Key Value))} (first : state.up device = upload :: waiting) :
    workLeft (state.served (reactions differs blank) device upload.message waiting) <
      workLeft state := by
  have upload_inFlight : state.InFlight upload.message := ⟨device, Or.inl (by simp [first])⟩
  have kept : ∀ other, ∀ change ∈ inFlightAt state other,
      state.server change.key = change.result →
        (serve differs blank state.server upload.message).1 change.key = change.result :=
    fun other change change_mem => unanimous.serve_keeps reflexive upload_inFlight
      (mem_inFlightAt change_mem)
  have inFlight_device : inFlightAt state device =
      upload.message :: (waiting.map Upload.message ++ state.down device) := by
    simp [inFlightAt, first]
  cases forwarded : (serve differs blank state.server upload.message).2 with
  | true =>
      -- The served message was pending, and all copies of it agree with the hub from now on.
      have pending : state.server upload.message.key ≠ upload.message.result := by
        intro reflected
        rw [serve_of_reflected reflexive reflected] at forwarded
        simp at forwarded
      have reflected : (serve differs blank state.server upload.message).1 upload.message.key =
          upload.message.result := by
        rw [serve_forwarded forwarded]
        exact Function.update_self _ _ _
      rw [workLeft, workLeft, Prod.Lex.toLex_lt_toLex]
      left
      apply Finset.sum_lt_sum
      · intro other _
        by_cases same : other = device
        · subst other
          have fewer := pendingCount_mono (kept device)
          rw [inFlight_device] at fewer ⊢
          refine le_trans ?_ ((pendingCount_cons_le _ _ _).trans fewer)
          simp [State.served, reactions, inFlightAt, State.pushed]
        · have fewer := pendingCount_mono (kept other)
          have copies : pendingCount (serve differs blank state.server upload.message).1
              [upload.message] = 0 := by
            simp [pendingCount, reflected]
          simpa [State.served, reactions, inFlightAt, State.pushed, same, forwarded,
            ← List.append_assoc, pendingCount_append, copies] using fewer
      · refine ⟨device, Finset.mem_univ _, ?_⟩
        have fewer := pendingCount_mono fun change change_mem =>
          kept device change (inFlight_device ▸ List.mem_cons_of_mem _ change_mem)
        rw [inFlight_device, pendingCount_cons_of_pending pending]
        refine Nat.lt_succ_of_le (le_trans ?_ fewer)
        simp [State.served, reactions, inFlightAt, State.pushed]
  | false =>
      apply workLeft_lt_of_le device
      · intro other
        have fewer := pendingCount_mono (kept other)
        by_cases same : other = device
        · subst other
          rw [inFlight_device] at fewer ⊢
          refine le_trans ?_ ((pendingCount_cons_le _ _ _).trans fewer)
          simp [State.served, reactions, inFlightAt, State.pushed]
        · simpa [State.served, reactions, inFlightAt, State.pushed, same, forwarded] using fewer
      · intro other
        by_cases same : other = device
        · subst other
          simp [State.served, reactions, State.pushed, channelWeight, first]
        · simp [State.served, reactions, State.pushed, channelWeight, same, forwarded]
      · simp [State.served, reactions, State.pushed, channelWeight, first]

theorem workLeft_absorbed {change : Change Key Value} {waiting : List (Change Key Value)}
    (first : state.down device = change :: waiting) :
    workLeft (state.absorbed (reactions differs blank) device change waiting) <
      workLeft state := by
  have fewEchoes := absorb_echoes_length_le (state.device device) change
  apply workLeft_lt_of_le device
  · intro other
    by_cases same : other = device
    · subst other
      rcases absorb_echoes (state.device device) change with echoed | ⟨silent, -⟩
      · simp [State.absorbed, reactions, inFlightAt, echoed, first]
      · have fewer := pendingCount_cons_le state.server change waiting
        simpa [State.absorbed, reactions, inFlightAt, silent, first, pendingCount_append]
          using fewer
    · simp [State.absorbed, reactions, inFlightAt, same]
  · intro other
    by_cases same : other = device
    · subst other
      simp [State.absorbed, reactions, channelWeight, first]
      omega
    · simp [State.absorbed, channelWeight, same]
  · simp [State.absorbed, reactions, channelWeight, first]
    omega

/-- Once edits stop, unanimous messages die out. -/
theorem not_endless (reflexive : ∀ value, differs value value = false)
    (unanimous : Unanimous state) :
    ¬Transition.Endless (step (reactions differs blank)) (fun _ event => ¬event.IsEdit) state := by
  apply Transition.not_endless_of_decreasing workLeft unanimous
  intro state event next unanimous noEdit performed
  cases event with
  | edit device change => exact absurd trivial noEdit
  | serve device =>
      rcases step_serve_eq_some.mp performed with ⟨upload, waiting, first, rfl⟩
      exact ⟨unanimous.served first, workLeft_served reflexive unanimous first⟩
  | absorb device =>
      rcases step_absorb_eq_some.mp performed with ⟨change, waiting, first, rfl⟩
      exact ⟨unanimous.absorbed first, workLeft_absorbed first⟩

end Steps

end Mirror
