import SyncDir.Server.PushMailbox

/-!
# Callers of a stopped device

Only the push thread of a device releases `push_lock`.  It can end with the lock
held: it leaves its loop when it finds `stop_requested` set, whether or not a
push has been left in the mailbox, and an exception ends it in the middle of a
push.  A caller that waits for the lock then waits for ever.

A state in which this has happened is entered by three kinds of steps, and a run
is free of such states exactly if it makes none of them.
-/

namespace SyncDir

namespace Device

open PacketType

namespace Mailbox

open Transition

variable {Caller : Type*}

/-- A caller is at `push_lock.lock()`. -/
def Waiting (state : Mailbox Caller) (caller : Caller) : Prop :=
  ∃ push, state.callers caller = .lock push

/-- The push thread has ended, and a caller is blocked because `push_lock` is held. -/
def Stuck (state : Mailbox Caller) : Prop :=
  state.pushThread = .terminated ∧ state.push_lock = true ∧ ∃ caller, state.Waiting caller

/-- An event that leaves no caller blocked on a device whose push thread has ended. -/
def LeavesNobody (state : Mailbox Caller) : MailboxEvent Caller → Prop
  | .push =>
      (state.pushThread = .testStop ∨ state.pushThread = .checkStop) →
        state.stop_requested = true → state.push_lock = true → ∀ caller, ¬state.Waiting caller
  | .sendFails => state.push_lock = true → ∀ caller, ¬state.Waiting caller
  | .call _ _ => state.pushThread = .terminated → state.push_lock = false
  | .proceed caller =>
      state.pushThread = .terminated → state.Waiting caller →
        ∀ other, state.Waiting other → other = caller
  | _ => True

theorem notified_eq_terminated {state : Mailbox Caller} :
    state.notified.pushThread = .terminated ↔ state.pushThread = .terminated := by
  simp only [notified]
  split
  · rename_i blocked
    simp [blocked]
  · rfl

theorem stuck_notified {state : Mailbox Caller} : state.notified.Stuck ↔ state.Stuck := by
  simp only [Stuck, notified_eq_terminated]
  rfl

theorem not_stuck_of_ne {state : Mailbox Caller} (runs : state.pushThread ≠ .terminated) :
    ¬state.Stuck := by
  rintro ⟨terminated, -, -⟩
  exact runs terminated

theorem not_stuck_of_unwatched {state next : Mailbox Caller} (free : ¬state.Stuck)
    (thread : next.pushThread = state.pushThread) (lock : next.push_lock = state.push_lock)
    (waiting : ∀ caller, next.Waiting caller → state.Waiting caller) : ¬next.Stuck := by
  rintro ⟨terminated, locked, caller, waits⟩
  rw [thread] at terminated
  rw [lock] at locked
  exact free ⟨terminated, locked, caller, waiting caller waits⟩

theorem not_stuck_pushStep_iff {state next : Mailbox Caller}
    (performed : state.pushStep = some next) :
    ¬next.Stuck ↔ state.LeavesNobody .push := by
  cases pushEffect_of_pushStep performed with
  | testStop point | checkStop point =>
      cases stopped : state.stop_requested <;>
        simp [Stuck, LeavesNobody, Waiting, point, stopped]
  | testPredicate point =>
      have runs : (if state.Predicate then PushPoint.checkStop else .block) ≠ .terminated := by
        split <;> simp
      exact iff_of_true (not_stuck_of_ne runs) (by simp [LeavesNobody, point])
  | block point | readCommand point | readType _ point | send _ _ point | sending _ _ point
  | clearFlag point | unlock point =>
      exact iff_of_true (not_stuck_of_ne (by simp)) (by simp [LeavesNobody, point])

theorem not_stuck_pushFails_iff {state next : Mailbox Caller}
    (performed : state.pushFails = some next) :
    ¬next.Stuck ↔ state.LeavesNobody .sendFails := by
  rcases pushFails_cases performed with ⟨payload_stream, push, -, rfl⟩
  simp [Stuck, LeavesNobody, Waiting]

variable [DecidableEq Caller]

theorem waiting_moved {state : Mailbox Caller} {caller other : Caller} {point : CallPoint}
    (leaves : ∀ push, point ≠ .lock push) :
    (state.moved caller point).Waiting other ↔ other ≠ caller ∧ state.Waiting other := by
  by_cases same : other = caller
  · subst other
    simp [Waiting, leaves]
  · simp [Waiting, moved_callers_of_ne same, same]

theorem not_stuck_callStep_iff {state next : Mailbox Caller} {caller : Caller}
    (free : ¬state.Stuck) (performed : state.callStep caller = some next) :
    ¬next.Stuck ↔ state.LeavesNobody (.proceed caller) := by
  have leaving : ∀ point, (∀ push, point ≠ .lock push) → ¬(state.moved caller point).Stuck := by
    intro point leaves
    apply not_stuck_of_unwatched free (moved_pushThread ..) (moved_push_lock ..)
    intro other waiting
    exact ((waiting_moved leaves).mp waiting).2
  cases callEffect_of_callStep performed with
  | lock push point unlocked =>
      have waits : state.Waiting caller := ⟨push, point⟩
      constructor
      · intro released terminated _ other waiting
        by_contra different
        apply released
        refine ⟨terminated, rfl, other, ?_⟩
        exact (waiting_moved (by simp)).mpr ⟨different, waiting⟩
      · rintro alone ⟨terminated, -, other, waiting⟩
        rcases (waiting_moved (by simp)).mp waiting with ⟨different, before⟩
        exact different (alone terminated waits other before)
  | storeCommand _ point | storeType _ point | setFlag point =>
      apply iff_of_true
      · exact leaving _ (by simp)
      · rintro - ⟨push, waits⟩
        rw [point] at waits
        cases waits
  | notify point =>
      rw [stuck_notified]
      apply iff_of_true
      · exact leaving _ (by simp)
      · rintro - ⟨push, waits⟩
        rw [point] at waits
        cases waits

/-- A step leads to a state with a blocked caller exactly if it is not one of those that leave
nobody behind. -/
theorem not_stuck_step_iff {state next : Mailbox Caller} {event : MailboxEvent Caller}
    (free : ¬state.Stuck) (performed : state.step event = some next) :
    ¬next.Stuck ↔ state.LeavesNobody event := by
  cases event with
  | call caller push =>
      rcases call_cases performed with ⟨outside, rfl⟩
      have waits : (state.moved caller (.lock push)).Waiting caller :=
        ⟨push, moved_callers_self state caller _⟩
      constructor
      · intro released terminated
        by_contra locked
        apply released
        exact ⟨terminated, Bool.of_not_eq_false locked, caller, waits⟩
      · rintro unlocked ⟨terminated, locked, -⟩
        rw [moved_push_lock, unlocked terminated] at locked
        cases locked
  | proceed caller => exact not_stuck_callStep_iff free performed
  | push => exact not_stuck_pushStep_iff performed
  | sendFails => exact not_stuck_pushFails_iff performed
  | wake =>
      rcases wake_cases performed with ⟨-, rfl⟩
      rw [stuck_notified]
      exact iff_of_true free trivial
  | commandNotifies =>
      rcases commandNotifies_cases performed with ⟨failed, -, rfl⟩
      rw [stuck_notified]
      exact iff_of_true free trivial
  | commandFails | commandLeaves | watcherFails | watcherLeaves =>
      simp only [step, Option.ite_none_right_eq_some, Option.some.injEq] at performed
      rcases performed with ⟨-, rfl⟩
      exact iff_of_true free trivial

/-- `caller` waits for a lock that nobody will release. -/
def Abandoned (state : Mailbox Caller) (caller : Caller) (push : Push) : Prop :=
  state.pushThread = .terminated ∧ state.push_lock = true ∧ state.callers caller = .lock push

theorem Abandoned.step {state next : Mailbox Caller} {event : MailboxEvent Caller}
    {caller : Caller} {push : Push} (abandoned : state.Abandoned caller push)
    (performed : state.step event = some next) : next.Abandoned caller push := by
  rcases abandoned with ⟨terminated, locked, waits⟩
  have others : ∀ other point, state.callers other ≠ .lock push →
      (state.moved other point).callers caller = .lock push := by
    intro other point elsewhere
    rw [moved_callers_of_ne _, waits]
    rintro rfl
    exact elsewhere waits
  cases event with
  | call other argument =>
      rcases call_cases performed with ⟨outside, rfl⟩
      exact ⟨terminated, locked, others other _ (by simp [outside])⟩
  | proceed other =>
      cases callEffect_of_callStep performed with
      | lock argument point unlocked =>
          rw [locked] at unlocked
          cases unlocked
      | storeCommand _ point | storeType _ point | setFlag point =>
          exact ⟨terminated, locked, others other _ (by simp [point])⟩
      | notify point =>
          exact ⟨notified_eq_terminated.mpr terminated, locked, others other _ (by simp [point])⟩
  | push => simp [Mailbox.step, pushStep, terminated] at performed
  | sendFails => simp [Mailbox.step, pushFails, terminated] at performed
  | wake => simp [Mailbox.step, terminated] at performed
  | commandNotifies =>
      rcases commandNotifies_cases performed with ⟨failed, -, rfl⟩
      exact ⟨notified_eq_terminated.mpr terminated, locked, waits⟩
  | commandFails | commandLeaves | watcherFails | watcherLeaves =>
      simp only [Mailbox.step, Option.ite_none_right_eq_some, Option.some.injEq] at performed
      rcases performed with ⟨-, rfl⟩
      exact ⟨terminated, locked, waits⟩

/-- A caller that is blocked on a stopped device stays so in every continuation of the run. -/
theorem Abandoned.forever {state last : Mailbox Caller} {caller : Caller} {push : Push}
    (abandoned : state.Abandoned caller push)
    (reached : Reachable Mailbox.step (fun _ _ => True) state last) :
    last.Abandoned caller push := by
  apply reached.invariant
  · exact abandoned
  · intro before event after abandoned _ performed
    exact abandoned.step performed

/-- In a run from the creation of a device, no caller is ever blocked on the stopped device exactly
if every event of the run leaves nobody behind. -/
theorem never_stuck_iff {push_type : UInt16} {push_command : Bytes}
    {events : List (MailboxEvent Caller)} {last : Mailbox Caller}
    (performed : run step (created push_type push_command) events = some last) :
    (∀ state ∈ visited step (created push_type push_command) events, ¬state.Stuck) ↔
      Permits step LeavesNobody (created push_type push_command) events := by
  apply visited_iff_permits _ _ performed
  · intro state event next free performed
    exact not_stuck_step_iff free performed
  · exact not_stuck_of_ne (by simp [created])

/-- One caller leaves a push, and the push thread begins to send it. -/
def pushOfF : List (MailboxEvent Bool) :=
  [.call true ⟨t_WRITE.value, ascii "f"⟩, .proceed true, .proceed true, .proceed true,
    .proceed true, .proceed true, .push, .push, .push, .push, .push, .push]

theorem leavesNobody_pushOfF : Permits step LeavesNobody (created 0 []) pushOfF := by
  refine .cons nofun rfl (.cons nofun rfl (.cons nofun rfl (.cons nofun rfl ?_)))
  refine .cons nofun rfl (.cons nofun rfl ?_)
  -- nobody has requested the device to stop
  refine .cons ?_ rfl (.cons ?_ rfl (.cons ?_ rfl (.cons ?_ rfl (.cons ?_ rfl (.cons ?_ rfl
    trivial)))))
  all_goals
    intro _ stop
    cases stop

theorem never_stuck_iff_pushOfF :
    ∃ last, run step (created 0 []) pushOfF = some last ∧
      ∀ state ∈ visited step (created 0 []) pushOfF, ¬state.Stuck := by
  have performed : (run step (created 0 []) pushOfF).isSome = true := rfl
  rcases Option.isSome_iff_exists.mp performed with ⟨last, reached⟩
  exact ⟨last, reached, (never_stuck_iff reached).mpr leavesNobody_pushOfF⟩

/-- The connection fails while the push is sent, and another caller waits for the lock for ever. -/
theorem stuck_of_failure :
    ∃ state, run step (created 0 [])
        (pushOfF ++ [.call false ⟨t_DELETE.value, ascii "g"⟩, .sendFails]) = some state ∧
      state.Stuck ∧ ∀ last, Reachable step (fun _ _ => True) state last → last.Stuck := by
  have places : (run step (created 0 [])
        (pushOfF ++ [.call false ⟨t_DELETE.value, ascii "g"⟩, .sendFails])).map
      (fun state => (state.pushThread, state.push_lock, state.callers false)) =
      some (.terminated, true, .lock ⟨t_DELETE.value, ascii "g"⟩) := rfl
  rcases Option.map_eq_some_iff.mp places with ⟨state, performed, found⟩
  simp only [Prod.mk.injEq] at found
  have abandoned : state.Abandoned false ⟨t_DELETE.value, ascii "g"⟩ := found
  have stuck : ∀ last, Reachable step (fun _ _ => True) state last → last.Stuck := by
    intro last reached
    rcases abandoned.forever reached with ⟨terminated, locked, waits⟩
    exact ⟨terminated, locked, false, _, waits⟩
  exact ⟨state, performed, stuck state .start, stuck⟩

end Mailbox

end Device

end SyncDir
