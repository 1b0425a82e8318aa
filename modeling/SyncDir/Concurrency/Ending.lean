import Mathlib.Algebra.BigOperators.Group.Finset.Basic
import Mathlib.Algebra.Order.BigOperators.Group.Finset
import Mathlib.Data.Prod.Lex
import SyncDir.Concurrency.WakeUp

/-!
# The end of a device

`Device::start` joins the three threads of the device and then removes it from
the devices of its user.  When the client has gone, the connections of the
command and the file watcher thread fail, and the push thread has to notice that
it should stop.  The file watcher thread is taken to return from its own pushes
to other devices, where it could wait for ever, and the push thread not to wake
up of itself.

Unless pushes of other devices come in for ever, the threads always come to
rest.  Then the device has ended, or a wake-up of its push thread has been
missed and it keeps its place among the devices.
-/

namespace SyncDir

namespace Device

def CallPoint.stepsLeft : CallPoint → ℕ
  | .outside => 0
  | .lock _ => 5
  | .storeCommand _ => 4
  | .storeType _ => 3
  | .setFlag => 2
  | .notify => 1

def CommandPoint.stepsLeft : CommandPoint → ℕ
  | .looping => 2
  | .notifying _ => 1
  | .ended => 0

def WatcherPoint.stepsLeft : WatcherPoint → ℕ
  | .looping => 1
  | .ended => 0

/-- A bound for the steps of the push thread until it stops, or until it is blocked with the flag
lowered. -/
def PushPoint.stepsLeft (stop_requested send_push : Bool) : PushPoint → ℕ
  | .terminated | .blocked => 0
  | .block => 1
  | .testStop => if stop_requested then 1 else if send_push then 12 else 3
  | .testPredicate => if stop_requested then 2 else if send_push then 11 else 2
  | .unlock => if stop_requested then 2 else if send_push then 13 else 4
  | .clearFlag => if stop_requested then 3 else 5
  | .sending _ _ => if stop_requested then 4 else 6
  | .send _ _ => if stop_requested then 5 else 7
  | .readType _ => if stop_requested then 6 else 8
  | .readCommand => if stop_requested then 7 else 9
  | .checkStop => if stop_requested then 1 else 10

namespace Mailbox

open Transition

variable {Caller : Type*}

/-- An event of the device's own threads or of a call that has begun, and no spurious wake-up. -/
def Own : MailboxEvent Caller → Prop
  | .call _ _ | .wake => False
  | _ => True

/-- `start` gets past its three joins. -/
structure Ended (state : Mailbox Caller) : Prop where
  command : state.commandThread = .ended
  push : state.pushThread = .terminated
  fileWatcher : state.fileWatcherThread = .ended

/-! ### Coming to rest -/

section Rank

variable [Fintype Caller]

/-- The steps of the calls, and of the command and file watcher threads. -/
def othersLeft (state : Mailbox Caller) : ℕ :=
  ∑ caller, (state.callers caller).stepsLeft + state.commandThread.stepsLeft +
    state.fileWatcherThread.stepsLeft

/-- The steps of the other threads, then those of the push thread. -/
def stepsLeft (state : Mailbox Caller) : ℕ ×ₗ ℕ :=
  toLex (state.othersLeft, state.pushThread.stepsLeft state.stop_requested state.send_push)

variable {state next : Mailbox Caller}

theorem stepsLeft_of_others (fewer : next.othersLeft < state.othersLeft) :
    next.stepsLeft < state.stepsLeft := by
  rw [stepsLeft, stepsLeft, Prod.Lex.toLex_lt_toLex]
  exact Or.inl fewer

theorem stepsLeft_of_push (same : next.othersLeft = state.othersLeft)
    (fewer : next.pushThread.stepsLeft next.stop_requested next.send_push <
      state.pushThread.stepsLeft state.stop_requested state.send_push) :
    next.stepsLeft < state.stepsLeft := by
  rw [stepsLeft, stepsLeft, Prod.Lex.toLex_lt_toLex]
  exact Or.inr ⟨same, fewer⟩

theorem stepsLeft_pushStep (performed : state.pushStep = some next) :
    next.stepsLeft < state.stepsLeft := by
  cases pushEffect_of_pushStep performed with
  | testStop point =>
      refine stepsLeft_of_push rfl ?_
      cases stop : state.stop_requested <;> cases flag : state.send_push <;>
        simp [PushPoint.stepsLeft, point]
  | testPredicate point =>
      refine stepsLeft_of_push rfl ?_
      cases stop : state.stop_requested <;> cases flag : state.send_push <;>
        simp [PushPoint.stepsLeft, point, Predicate, stop, flag]
  | checkStop point =>
      refine stepsLeft_of_push rfl ?_
      cases stop : state.stop_requested <;> simp [PushPoint.stepsLeft, point]
  | clearFlag point | unlock point =>
      refine stepsLeft_of_push rfl ?_
      cases stop : state.stop_requested <;> cases flag : state.send_push <;>
        simp [PushPoint.stepsLeft, point]
  | block point | readCommand point | readType _ point | send _ _ point | sending _ _ point =>
      refine stepsLeft_of_push rfl ?_
      cases stop : state.stop_requested <;> simp [PushPoint.stepsLeft, point]

theorem othersLeft_notified (state : Mailbox Caller) :
    state.notified.othersLeft = state.othersLeft :=
  rfl

variable [DecidableEq Caller]

theorem othersLeft_moved {caller : Caller} {point : CallPoint}
    (fewer : point.stepsLeft < (state.callers caller).stepsLeft) :
    (state.moved caller point).othersLeft < state.othersLeft := by
  have callers : ∑ other, ((state.moved caller point).callers other).stepsLeft <
      ∑ other, (state.callers other).stepsLeft := by
    apply Finset.sum_lt_sum
    · intro other _
      by_cases same : other = caller
      · subst other
        rw [moved_callers_self]
        exact fewer.le
      · rw [moved_callers_of_ne same]
    · refine ⟨caller, Finset.mem_univ _, ?_⟩
      rw [moved_callers_self]
      exact fewer
  simp only [othersLeft]
  exact Nat.add_lt_add_right (Nat.add_lt_add_right callers _) _

theorem stepsLeft_callStep {caller : Caller} (performed : state.callStep caller = some next) :
    next.stepsLeft < state.stepsLeft := by
  apply stepsLeft_of_others
  cases callEffect_of_callStep performed with
  | lock push point _ | storeCommand push point | storeType push point | setFlag point
  | notify point => exact othersLeft_moved (by simp [point, CallPoint.stepsLeft])

theorem stepsLeft_step {event : MailboxEvent Caller} (own : Own event)
    (performed : state.step event = some next) : next.stepsLeft < state.stepsLeft := by
  cases event with
  | call caller push => exact own.elim
  | wake => exact own.elim
  | proceed caller => exact stepsLeft_callStep performed
  | push => exact stepsLeft_pushStep performed
  | sendFails =>
      rcases pushFails_cases performed with ⟨payload_stream, push, point, rfl⟩
      refine stepsLeft_of_push rfl ?_
      cases stop : state.stop_requested <;> simp [PushPoint.stepsLeft, point]
  | commandNotifies =>
      rcases commandNotifies_cases performed with ⟨failed, point, rfl⟩
      apply stepsLeft_of_others
      rw [othersLeft_notified]
      simp [othersLeft, point, CommandPoint.stepsLeft]
  | commandFails =>
      simp only [step, Option.ite_none_right_eq_some, Option.some.injEq] at performed
      rcases performed with ⟨looping, rfl⟩
      apply stepsLeft_of_others
      simp [othersLeft, looping, CommandPoint.stepsLeft]
  | commandLeaves =>
      simp only [step, Option.ite_none_right_eq_some, Option.some.injEq] at performed
      rcases performed with ⟨⟨looping, -⟩, rfl⟩
      apply stepsLeft_of_others
      simp [othersLeft, looping, CommandPoint.stepsLeft]
  | watcherFails =>
      simp only [step, Option.ite_none_right_eq_some, Option.some.injEq] at performed
      rcases performed with ⟨looping, rfl⟩
      apply stepsLeft_of_others
      simp [othersLeft, looping, WatcherPoint.stepsLeft]
  | watcherLeaves =>
      simp only [step, Option.ite_none_right_eq_some, Option.some.injEq] at performed
      rcases performed with ⟨⟨looping, -⟩, rfl⟩
      apply stepsLeft_of_others
      simp [othersLeft, looping, WatcherPoint.stepsLeft]

end Rank

/-! ### At rest -/

variable [DecidableEq Caller] {state next : Mailbox Caller}

/-- The client has gone, so that all connections fail, and still none of the threads can make a
step. -/
def AtRest (state : Mailbox Caller) : Prop :=
  ∀ event, Own event → state.step event = none

/-- The command thread is left only when the device should stop. -/
def Stops (state : Mailbox Caller) : Prop :=
  state.commandThread ≠ .looping → state.stop_requested = true

theorem Stops.step {event : MailboxEvent Caller} (stops : state.Stops)
    (performed : state.step event = some next) : next.Stops := by
  cases event with
  | call caller push =>
      rcases call_cases performed with ⟨-, rfl⟩
      exact stops
  | proceed caller =>
      cases callEffect_of_callStep performed <;> exact stops
  | push =>
      cases pushEffect_of_pushStep performed <;> exact stops
  | sendFails =>
      rcases pushFails_cases performed with ⟨_, _, -, rfl⟩
      exact fun _ => rfl
  | wake =>
      rcases wake_cases performed with ⟨-, rfl⟩
      exact stops
  | commandNotifies =>
      rcases commandNotifies_cases performed with ⟨failed, point, rfl⟩
      intro _
      exact stops (by simp [point])
  | commandFails =>
      simp only [Mailbox.step, Option.ite_none_right_eq_some, Option.some.injEq] at performed
      rcases performed with ⟨-, rfl⟩
      exact fun _ => rfl
  | commandLeaves =>
      simp only [Mailbox.step, Option.ite_none_right_eq_some, Option.some.injEq] at performed
      rcases performed with ⟨⟨-, stop⟩, rfl⟩
      exact fun _ => stop
  | watcherFails =>
      simp only [Mailbox.step, Option.ite_none_right_eq_some, Option.some.injEq] at performed
      rcases performed with ⟨-, rfl⟩
      exact fun _ => rfl
  | watcherLeaves =>
      simp only [Mailbox.step, Option.ite_none_right_eq_some, Option.some.injEq] at performed
      rcases performed with ⟨-, rfl⟩
      exact stops

/-- At rest, all but the push thread have ended, and the push thread has ended or is blocked. -/
theorem AtRest.points (atRest : state.AtRest) :
    state.commandThread = .ended ∧ state.fileWatcherThread = .ended ∧
      (state.pushThread = .terminated ∨ state.pushThread = .blocked) ∧
      ¬state.Notifying := by
  have command : state.commandThread = .ended := by
    cases point : state.commandThread with
    | looping => simpa [step, point] using atRest .commandFails trivial
    | notifying failed => simpa [step, point] using atRest .commandNotifies trivial
    | ended => rfl
  refine ⟨command, ?_, ?_, ?_⟩
  · cases point : state.fileWatcherThread with
    | looping => simpa [step, point] using atRest .watcherFails trivial
    | ended => rfl
  · have blocked := atRest .push trivial
    simp only [step, pushStep] at blocked
    split at blocked
    case h_4 sleeping => exact Or.inr sleeping
    case h_12 terminated => exact Or.inl terminated
    all_goals cases blocked
  · rintro (⟨caller, notifies⟩ | notifies)
    · simpa [step, callStep, notifies] using atRest (.proceed caller) trivial
    · rw [command] at notifies
      cases notifies

/-- At rest, a device has ended unless a wake-up of its push thread has been missed. -/
theorem AtRest.ended_iff (atRest : state.AtRest) (stops : state.Stops) :
    state.Ended ↔ ¬state.Missed := by
  rcases atRest.points with ⟨command, fileWatcher, push, silent⟩
  constructor
  · intro ended
    apply not_missed_of_awake
    · simp [ended.push]
    · simp [ended.push]
  · intro notMissed
    rcases push with terminated | blocked
    · exact ⟨command, terminated, fileWatcher⟩
    · have stop : state.stop_requested = true := stops (by simp [command])
      exact absurd ⟨Or.inr blocked, Or.inr stop, silent⟩ notMissed

/-- When the client has gone and no more calls come in, the threads of a device come to rest,
whatever has happened before.  Then `start` gets past its joins exactly if no wake-up is missed, as
it is the case if every event so far has been timely. -/
theorem device_ends [Fintype Caller] {push_type : UInt16} {push_command : Bytes}
    (reached : Reachable step (fun _ _ => True) (created push_type push_command) state) :
    ¬Endless step (fun _ event => Own event) state ∧
      (state.AtRest → (state.Ended ↔ ¬state.Missed)) ∧
      (Reachable step Timely (created push_type push_command) state → state.AtRest →
        state.Ended) := by
  have stops : state.Stops := by
    apply reached.invariant
    · exact fun left => absurd rfl left
    · intro state event next stops _ performed
      exact stops.step performed
  refine ⟨?_, fun atRest => atRest.ended_iff stops, ?_⟩
  · apply not_endless_of_rank stepsLeft
    intro state event next own performed
    exact stepsLeft_step own performed
  · intro timely atRest
    rw [atRest.ended_iff stops]
    apply timely.invariant
    · exact not_missed_of_awake (by simp [created]) (by simp [created])
    · intro state event next free timely performed
      exact (not_missed_step_iff free performed).mpr timely

/-- The client goes while the push thread is blocked. -/
def clientGoes : List (MailboxEvent Bool) :=
  [.push, .push, .push, .commandFails, .commandNotifies, .push, .push, .watcherLeaves]

theorem device_ends_clientGoes :
    ∃ state : Mailbox Bool, run step (created 0 []) clientGoes = some state ∧ state.AtRest ∧
      (state.Ended ↔ ¬state.Missed) := by
  have places : (run step (created 0 []) clientGoes).map (fun state =>
      (state.pushThread, state.commandThread, state.fileWatcherThread, state.callers true,
        state.callers false)) =
      some (.terminated, .ended, .ended, .outside, .outside) := rfl
  rcases Option.map_eq_some_iff.mp places with ⟨state, performed, found⟩
  simp only [Prod.mk.injEq] at found
  rcases found with ⟨terminated, command, fileWatcher, first, second⟩
  have atRest : state.AtRest := by
    intro event own
    cases event with
    | call caller push => exact own.elim
    | proceed caller => cases caller <;> simp [step, callStep, first, second]
    | push => simp [step, pushStep, terminated]
    | sendFails => simp [step, pushFails, terminated]
    | wake => exact own.elim
    | commandFails | commandLeaves | commandNotifies => simp [step, command]
    | watcherFails | watcherLeaves => simp [step, fileWatcher]
  have reached := Reachable.of_run (fun _ _ _ => trivial) .start performed
  exact ⟨state, performed, atRest, (device_ends reached).2.1 atRest⟩

end Mailbox

end Device

end SyncDir
