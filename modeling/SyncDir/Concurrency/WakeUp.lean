import SyncDir.Server.PushMailbox

/-!
# Wake-ups of the push thread

The threads that set `send_push` or `stop_requested` do not hold `push_mutex`.
A flag can therefore be set, and its notification executed, after the push
thread has found the predicate of its wait false and before it is blocked; the
file watcher thread never notifies at all.  In both cases the push thread sleeps
although its predicate is true.

What makes a wake-up missed is known before the push thread is blocked, so the
invariant also speaks about the window between the test and the blocking.
-/

namespace SyncDir

namespace Device

namespace Mailbox

open PacketType Transition

variable {Caller : Type*}

/-- A thread that has set one of the flags has still to execute its `notify_one`. -/
def Notifying (state : Mailbox Caller) : Prop :=
  (∃ caller, state.callers caller = .notify) ∨ state.commandThread = .notifying true

/-- If the push thread is blocked although its predicate is true, a notification is to come. -/
def Awaited (state : Mailbox Caller) : Prop :=
  state.pushThread = .blocked → state.Predicate → state.Notifying

/-- The push thread has found its predicate false, and has not been woken since. -/
def Asleep (state : Mailbox Caller) : Prop :=
  state.pushThread = .block ∨ state.pushThread = .blocked

def Missed (state : Mailbox Caller) : Prop :=
  state.Asleep ∧ state.Predicate ∧ ¬state.Notifying

/-- A notification comes before the push thread is blocked, or a flag is set without notification,
only if another notification is to come. -/
def Timely (state : Mailbox Caller) : MailboxEvent Caller → Prop
  | .proceed caller =>
      state.callers caller = .notify → state.pushThread = .block → state.Predicate →
        (∃ other, other ≠ caller ∧ state.callers other = .notify) ∨
          state.commandThread = .notifying true
  | .commandNotifies =>
      state.commandThread = .notifying true → state.pushThread = .block → state.Predicate →
        ∃ caller, state.callers caller = .notify
  | .watcherFails => state.Asleep → state.Notifying
  | _ => True

/-- The push thread falls asleep in two steps, which change nothing else. -/
theorem pushStep_asleep {state next : Mailbox Caller} (performed : state.pushStep = some next)
    (asleep : next.Asleep) :
    (state.pushThread = .testPredicate ∧ ¬state.Predicate ∨
        state.pushThread = .block ∧ next.pushThread = .blocked) ∧
      next = { state with pushThread := next.pushThread } := by
  cases pushEffect_of_pushStep performed with
  | testPredicate point =>
      refine ⟨Or.inl ⟨point, ?_⟩, rfl⟩
      intro predicate
      simp [Asleep, predicate] at asleep
  | block point => exact ⟨Or.inr ⟨point, rfl⟩, rfl⟩
  | testStop | checkStop =>
      rcases asleep with block | blocked
      · simp only at block
        split at block <;> cases block
      · simp only at blocked
        split at blocked <;> cases blocked
  | readCommand | readType | send | sending | clearFlag | unlock =>
      simp [Asleep] at asleep

/-- A wake-up is missed exactly if the push thread is left asleep, now or when it gets blocked. -/
theorem not_missed_iff {state : Mailbox Caller} :
    ¬state.Missed ↔ state.Awaited ∧ ∀ next, state.pushStep = some next → next.Awaited := by
  constructor
  · intro notMissed
    constructor
    · intro blocked predicate
      by_contra silent
      exact notMissed ⟨Or.inr blocked, predicate, silent⟩
    · intro next performed blocked predicate
      rcases pushStep_asleep performed (Or.inr blocked) with ⟨falling, same⟩
      rw [same] at predicate ⊢
      rcases falling with ⟨-, unset⟩ | ⟨before, -⟩
      · exact absurd predicate unset
      · by_contra silent
        exact notMissed ⟨Or.inl before, predicate, silent⟩
  · rintro ⟨now, later⟩ ⟨sleeping, predicate, silent⟩
    rcases sleeping with before | blocked
    · have performed : state.pushStep = some { state with pushThread := .blocked } := by
        rw [pushStep, before]
      have awaited := later _ performed
      exact silent (awaited rfl predicate)
    · exact silent (now blocked predicate)

theorem not_missed_of_awake {state : Mailbox Caller} (block : state.pushThread ≠ .block)
    (blocked : state.pushThread ≠ .blocked) : ¬state.Missed := by
  rintro ⟨before | sleeping, -, -⟩
  · exact block before
  · exact blocked sleeping

theorem not_missed_of_notifying {state : Mailbox Caller} (notifying : state.Notifying) :
    ¬state.Missed := by
  rintro ⟨-, -, silent⟩
  exact silent notifying

theorem not_missed_pushStep {state next : Mailbox Caller} (free : ¬state.Missed)
    (performed : state.pushStep = some next) : ¬next.Missed := by
  rintro ⟨asleep, predicate, silent⟩
  rcases pushStep_asleep performed asleep with ⟨falling, same⟩
  rw [same] at predicate silent
  rcases falling with ⟨-, unset⟩ | ⟨before, -⟩
  · exact unset predicate
  · exact free ⟨Or.inl before, predicate, silent⟩

/-- A notification is lost only if the push thread is about to be blocked. -/
theorem missed_notified_iff {state : Mailbox Caller} :
    state.notified.Missed ↔
      state.pushThread = .block ∧ state.Predicate ∧ ¬state.Notifying := by
  by_cases blocked : state.pushThread = .blocked
  · have awake : ¬state.notified.Missed := by
      apply not_missed_of_awake
      · simp [notified, blocked]
      · simp [notified, blocked]
    refine iff_of_false awake ?_
    rintro ⟨block, -⟩
    rw [blocked] at block
    cases block
  · have same : state.notified = state := by
      rw [notified, if_neg blocked]
    rw [same, Missed, Asleep]
    simp [blocked]

theorem not_missed_commandNotifies_iff {state : Mailbox Caller} {hasSet : Bool}
    (free : ¬state.Missed)
    (point : state.commandThread = .notifying hasSet) :
    ¬{ state with commandThread := .ended }.notified.Missed ↔
      state.Timely .commandNotifies := by
  have notifying : { state with commandThread := .ended }.Notifying ↔
      ∃ caller, state.callers caller = .notify := by
    simp [Notifying]
  rw [missed_notified_iff, notifying]
  constructor
  · intro kept _ block predicate
    by_contra silent
    exact kept ⟨block, predicate, silent⟩
  · rintro timely ⟨block, predicate, silent⟩
    cases hasSet with
    | true => exact silent (timely point block predicate)
    | false =>
        apply free
        refine ⟨Or.inl block, predicate, ?_⟩
        rintro (found | set)
        · exact silent found
        · rw [point] at set
          cases set

section Callers

variable [DecidableEq Caller] {state next : Mailbox Caller}

theorem notifying_moved {caller : Caller} {point : CallPoint} (leaves : point ≠ .notify) :
    (state.moved caller point).Notifying ↔
      (∃ other, other ≠ caller ∧ state.callers other = .notify) ∨
        state.commandThread = .notifying true := by
  apply or_congr _ Iff.rfl
  constructor
  · rintro ⟨other, notifies⟩
    by_cases same : other = caller
    · subst other
      rw [moved_callers_self] at notifies
      exact absurd notifies leaves
    · rw [moved_callers_of_ne same] at notifies
      exact ⟨other, same, notifies⟩
  · rintro ⟨other, different, notifies⟩
    exact ⟨other, by rw [moved_callers_of_ne different, notifies]⟩

/-- A caller that was not about to notify is still not, so nothing changes for the push thread. -/
theorem not_missed_moved {caller : Caller} {point : CallPoint} (free : ¬state.Missed)
    (before : state.callers caller ≠ .notify) (leaves : point ≠ .notify) :
    ¬(state.moved caller point).Missed := by
  rintro ⟨asleep, predicate, silent⟩
  apply free
  refine ⟨asleep, predicate, ?_⟩
  intro notifying
  apply silent
  rw [notifying_moved leaves]
  refine notifying.imp_left ?_
  rintro ⟨other, notifies⟩
  refine ⟨other, ?_, notifies⟩
  rintro rfl
  exact before notifies

theorem not_missed_callStep_iff {caller : Caller} (free : ¬state.Missed)
    (performed : state.callStep caller = some next) :
    ¬next.Missed ↔ state.Timely (.proceed caller) := by
  cases callEffect_of_callStep performed with
  | lock _ point | storeCommand _ point | storeType _ point =>
      apply iff_of_true
      · exact not_missed_moved free (by simp [point]) (by simp)
      · simp [Timely, point]
  | setFlag point =>
      apply iff_of_true
      · apply not_missed_of_notifying
        exact Or.inl ⟨caller, moved_callers_self state caller _⟩
      · simp [Timely, point]
  | notify point =>
      rw [missed_notified_iff, notifying_moved (by simp)]
      simp only [Timely, point, forall_const]
      constructor
      · intro kept block predicate
        by_contra silent
        exact kept ⟨block, predicate, silent⟩
      · rintro timely ⟨block, predicate, silent⟩
        exact silent (timely block predicate)

/-- A step leads to a missed wake-up exactly if it is not timely. -/
theorem not_missed_step_iff {event : MailboxEvent Caller} (free : ¬state.Missed)
    (performed : state.step event = some next) : ¬next.Missed ↔ state.Timely event := by
  cases event with
  | call caller push =>
      rcases call_cases performed with ⟨outside, rfl⟩
      exact iff_of_true (not_missed_moved free (by simp [outside]) (by simp)) trivial
  | proceed caller => exact not_missed_callStep_iff free performed
  | push => exact iff_of_true (not_missed_pushStep free performed) trivial
  | sendFails =>
      rcases pushFails_cases performed with ⟨payload_stream, push, -, rfl⟩
      exact iff_of_true (not_missed_of_awake (by simp) (by simp)) trivial
  | wake =>
      rcases wake_cases performed with ⟨blocked, rfl⟩
      rw [missed_notified_iff, blocked]
      simp [Timely]
  | commandFails =>
      simp only [step, Option.ite_none_right_eq_some, Option.some.injEq] at performed
      rcases performed with ⟨-, rfl⟩
      exact iff_of_true (not_missed_of_notifying (Or.inr rfl)) trivial
  | commandLeaves =>
      simp only [step, Option.ite_none_right_eq_some, Option.some.injEq] at performed
      rcases performed with ⟨⟨looping, -⟩, rfl⟩
      apply iff_of_true _ trivial
      rintro ⟨asleep, predicate, silent⟩
      apply free
      refine ⟨asleep, predicate, ?_⟩
      rintro (notifying | set)
      · exact silent (Or.inl notifying)
      · rw [looping] at set
        cases set
  | commandNotifies =>
      rcases commandNotifies_cases performed with ⟨failed, point, rfl⟩
      exact not_missed_commandNotifies_iff free point
  | watcherFails =>
      simp only [step, Option.ite_none_right_eq_some, Option.some.injEq] at performed
      rcases performed with ⟨-, rfl⟩
      constructor
      · intro kept asleep
        by_contra silent
        exact kept ⟨asleep, Or.inr rfl, silent⟩
      · rintro timely ⟨asleep, -, silent⟩
        exact silent (timely asleep)
  | watcherLeaves =>
      simp only [step, Option.ite_none_right_eq_some, Option.some.injEq] at performed
      rcases performed with ⟨-, rfl⟩
      exact iff_of_true free trivial

/-- In every state of a run from the creation of a device, and after the next step of the push
thread from there, a push thread that is blocked although its predicate is true awaits a
notification, exactly if every event of the run is timely. -/
theorem awaited_iff {push_type : UInt16} {push_command : Bytes}
    {events : List (MailboxEvent Caller)} {last : Mailbox Caller}
    (performed : run step (created push_type push_command) events = some last) :
    (∀ state ∈ visited step (created push_type push_command) events,
      state.Awaited ∧ ∀ next, state.step .push = some next → next.Awaited) ↔
      Permits step Timely (created push_type push_command) events := by
  have kept : (∀ state ∈ visited step (created push_type push_command) events,
      ¬state.Missed) ↔ Permits step Timely (created push_type push_command) events := by
    apply visited_iff_permits _ _ performed
    · intro state event next free performed
      exact not_missed_step_iff free performed
    · exact not_missed_of_awake (by simp [created]) (by simp [created])
  rw [← kept]
  apply forall₂_congr
  intro state _
  exact not_missed_iff.symm

/-- A push is left while the push thread is blocked. -/
def pushToBlocked : List (MailboxEvent Bool) :=
  [.push, .push, .push, .call true ⟨t_WRITE.value, ascii "f"⟩, .proceed true, .proceed true,
    .proceed true, .proceed true, .proceed true]

theorem timely_pushToBlocked : Permits step Timely (created 0 []) pushToBlocked := by
  -- the push thread is blocked before the call
  refine .cons trivial rfl (.cons trivial rfl (.cons trivial rfl (.cons trivial rfl ?_)))
  refine .cons ?_ rfl (.cons ?_ rfl (.cons ?_ rfl (.cons ?_ rfl (.cons ?_ rfl trivial))))
  all_goals
    intro _ block
    cases block

theorem awaited_iff_pushToBlocked :
    ∃ last, run step (created 0 []) pushToBlocked = some last ∧
      ∀ state ∈ visited step (created 0 []) pushToBlocked,
        state.Awaited ∧ ∀ next, state.step .push = some next → next.Awaited := by
  have performed : (run step (created 0 []) pushToBlocked).isSome = true := rfl
  rcases Option.isSome_iff_exists.mp performed with ⟨last, reached⟩
  exact ⟨last, reached, (awaited_iff reached).mpr timely_pushToBlocked⟩

/-- The push is left and notified between the test and the blocking of the push thread. -/
def pushBeforeBlocked : List (MailboxEvent Bool) :=
  [.push, .push, .call true ⟨t_WRITE.value, ascii "f"⟩, .proceed true, .proceed true,
    .proceed true, .proceed true, .proceed true, .push]

theorem missed_pushBeforeBlocked :
    ∃ state, run step (created 0 []) pushBeforeBlocked = some state ∧
      state.pushThread = .blocked ∧ state.Predicate ∧ ¬state.Notifying := by
  have places : (run step (created 0 []) pushBeforeBlocked).map
      (fun state => (state.pushThread, state.send_push, state.callers true, state.callers false,
        state.commandThread)) =
      some (.blocked, true, .outside, .outside, .looping) := rfl
  rcases Option.map_eq_some_iff.mp places with ⟨state, performed, found⟩
  simp only [Prod.mk.injEq] at found
  rcases found with ⟨blocked, raised, first, second, looping⟩
  refine ⟨state, performed, blocked, Or.inl raised, ?_⟩
  rintro (⟨caller, notifies⟩ | set)
  · cases caller with
    | true =>
        rw [first] at notifies
        cases notifies
    | false =>
        rw [second] at notifies
        cases notifies
  · rw [looping] at set
    cases set

end Callers

end Mailbox

end Device

end SyncDir
