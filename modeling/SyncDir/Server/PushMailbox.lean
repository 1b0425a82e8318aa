import Mathlib.Logic.Function.Basic
import SyncDir.Library.Transition
import SyncDir.Utils.NetworkManager

/-!
# The push mailbox of a device

`sendPushTo` leaves a push in the fields `push_type` and `push_command` of a
device, sets `send_push` and notifies the push thread of the device, which sends
the push.  The caller takes `push_lock` and the push thread releases it, so that
the lock also says whether the mailbox is in use.

This file has the single steps of the threads that work on these fields: any
number of callers, the push thread, and the command and file watcher threads of
the device, which stop it by setting `stop_requested`.  The evaluation of the
predicate of `push_cv.wait` and the blocking of the push thread are two steps.
Both are made under `push_mutex`, which no other thread ever takes, so that it
does not occur here.

`Device::stop` also sets `stop_requested`, but it is only called when the three
threads of the device have been joined.
-/

namespace SyncDir

namespace Device

open PacketType

/-- The arguments of a call of `sendPushTo`. -/
structure Push where
  type : UInt16
  command : Bytes
  deriving DecidableEq

/-- The next step of a thread that calls `sendPushTo`. -/
inductive CallPoint
  | outside
  | lock (push : Push)
  | storeCommand (push : Push)
  | storeType (push : Push)
  | setFlag
  | notify
  deriving DecidableEq

/-- The next step of `pushThread`. -/
inductive PushPoint
  | testStop
  /-- Evaluate the predicate of `push_cv.wait`. -/
  | testPredicate
  /-- The predicate was false. -/
  | block
  | blocked
  /-- The `if` after `push_cv.wait`. -/
  | checkStop
  | readCommand
  | readType (payload_stream : Bytes)
  | send (payload_stream : Bytes) (push_type : UInt16)
  | sending (payload_stream : Bytes) (push : Push)
  | clearFlag
  | unlock
  | terminated
  deriving DecidableEq

/-- Where `commandThread` is: in its loop, at the notification after it, or at its end. -/
inductive CommandPoint
  | looping
  /-- The thread has set `stop_requested` itself, or has found it set. -/
  | notifying (hasSet : Bool)
  | ended
  deriving DecidableEq

inductive WatcherPoint
  | looping
  | ended
  deriving DecidableEq

/-- The fields of a device that the push mailbox consists of, the places of its threads, and what
has been handed over to and taken out of the mailbox. -/
structure Mailbox (Caller : Type*) where
  send_push : Bool
  stop_requested : Bool
  push_type : UInt16
  push_command : Bytes
  push_lock : Bool
  callers : Caller → CallPoint
  pushThread : PushPoint
  commandThread : CommandPoint
  fileWatcherThread : WatcherPoint
  /-- The calls that have acquired `push_lock`, in this order. -/
  acquired : List Push
  /-- What `pushThread` has started to send. -/
  started : List Push

inductive MailboxEvent (Caller : Type*)
  /-- A thread outside of `sendPushTo` calls it. -/
  | call (caller : Caller) (push : Push)
  /-- A thread in `sendPushTo` makes its next step. -/
  | proceed (caller : Caller)
  /-- `pushThread` makes its next step. -/
  | push
  | sendFails
  /-- `push_cv.wait` wakes up without a notification. -/
  | wake
  | commandFails
  | commandLeaves
  | commandNotifies
  | watcherFails
  | watcherLeaves

namespace Mailbox

variable {Caller : Type*}

/-- A device whose threads have not begun to run; the constructor leaves the mailbox unset. -/
def created (push_type : UInt16) (push_command : Bytes) : Mailbox Caller where
  send_push := false
  stop_requested := false
  push_type
  push_command
  push_lock := false
  callers := fun _ => .outside
  pushThread := .testStop
  commandThread := .looping
  fileWatcherThread := .looping
  acquired := []
  started := []

/-- The predicate of `push_cv.wait`. -/
def Predicate (state : Mailbox Caller) : Prop :=
  state.send_push = true ∨ state.stop_requested = true

instance (state : Mailbox Caller) : Decidable state.Predicate :=
  inferInstanceAs (Decidable (_ ∨ _))

/-- `push_cv.notify_one()`, which reaches the push thread only if it is blocked. -/
def notified (state : Mailbox Caller) : Mailbox Caller :=
  { state with
    pushThread := if state.pushThread = .blocked then .testPredicate else state.pushThread }

/-- The next step of `pushThread`, without exceptions. -/
def pushStep (state : Mailbox Caller) : Option (Mailbox Caller) :=
  match state.pushThread with
  | .testStop =>
      some { state with
        pushThread := if state.stop_requested then .terminated else .testPredicate }
  | .testPredicate =>
      some { state with pushThread := if state.Predicate then .checkStop else .block }
  | .block => some { state with pushThread := .blocked }
  | .blocked => none
  | .checkStop =>
      some { state with
        pushThread := if state.stop_requested then .terminated else .readCommand }
  | .readCommand => some { state with pushThread := .readType state.push_command }
  | .readType payload_stream =>
      some { state with pushThread := .send payload_stream state.push_type }
  | .send payload_stream push_type =>
      some { state with
        pushThread := .sending payload_stream ⟨push_type, state.push_command⟩
        started := state.started ++ [⟨push_type, state.push_command⟩] }
  | .sending _ _ => some { state with pushThread := .clearFlag }
  | .clearFlag => some { state with send_push := false, pushThread := .unlock }
  | .unlock => some { state with push_lock := false, pushThread := .testStop }
  | .terminated => none

/-- An exception of `sendPacket` in `pushThread`, which handles it by stopping the device. -/
def pushFails (state : Mailbox Caller) : Option (Mailbox Caller) :=
  match state.pushThread with
  | .sending _ push =>
      if push.type = t_WRITE.value ∨ push.type = t_DELETE.value then
        some { state with stop_requested := true, pushThread := .terminated }
      else
        none
  | _ => none

variable [DecidableEq Caller]

def moved (state : Mailbox Caller) (caller : Caller) (point : CallPoint) : Mailbox Caller :=
  { state with callers := Function.update state.callers caller point }

/-- The next step of a call of `sendPushTo`, unless it waits for `push_lock`. -/
def callStep (state : Mailbox Caller) (caller : Caller) : Option (Mailbox Caller) :=
  match state.callers caller with
  | .outside => none
  | .lock push =>
      if state.push_lock then none
      else some { state.moved caller (.storeCommand push) with
        push_lock := true, acquired := state.acquired ++ [push] }
  | .storeCommand push =>
      some { state.moved caller (.storeType push) with push_command := push.command }
  | .storeType push => some { state.moved caller .setFlag with push_type := push.type }
  | .setFlag => some { state.moved caller .notify with send_push := true }
  | .notify => some (state.moved caller .outside).notified

def step (state : Mailbox Caller) : MailboxEvent Caller → Option (Mailbox Caller)
  | .call caller push =>
      if state.callers caller = .outside then some (state.moved caller (.lock push)) else none
  | .proceed caller => state.callStep caller
  | .push => state.pushStep
  | .sendFails => state.pushFails
  | .wake => if state.pushThread = .blocked then some state.notified else none
  | .commandFails =>
      if state.commandThread = .looping then
        some { state with stop_requested := true, commandThread := .notifying true }
      else none
  | .commandLeaves =>
      if state.commandThread = .looping ∧ state.stop_requested = true then
        some { state with commandThread := .notifying false }
      else none
  | .commandNotifies =>
      match state.commandThread with
      | .notifying _ => some { state with commandThread := .ended }.notified
      | .looping | .ended => none
  | .watcherFails =>
      if state.fileWatcherThread = .looping then
        some { state with stop_requested := true, fileWatcherThread := .ended }
      else none
  | .watcherLeaves =>
      if state.fileWatcherThread = .looping ∧ state.stop_requested = true then
        some { state with fileWatcherThread := .ended }
      else none

/-! ### What an event does -/

/-- A step of `pushThread` by the place at which it is. -/
inductive PushEffect {Caller : Type*} (state : Mailbox Caller) : Mailbox Caller → Prop
  | testStop (point : state.pushThread = .testStop) :
      PushEffect state { state with
        pushThread := if state.stop_requested then .terminated else .testPredicate }
  | testPredicate (point : state.pushThread = .testPredicate) :
      PushEffect state { state with
        pushThread := if state.Predicate then .checkStop else .block }
  | block (point : state.pushThread = .block) :
      PushEffect state { state with pushThread := .blocked }
  | checkStop (point : state.pushThread = .checkStop) :
      PushEffect state { state with
        pushThread := if state.stop_requested then .terminated else .readCommand }
  | readCommand (point : state.pushThread = .readCommand) :
      PushEffect state { state with pushThread := .readType state.push_command }
  | readType (payload_stream : Bytes) (point : state.pushThread = .readType payload_stream) :
      PushEffect state { state with pushThread := .send payload_stream state.push_type }
  | send (payload_stream : Bytes) (push_type : UInt16)
      (point : state.pushThread = .send payload_stream push_type) :
      PushEffect state { state with
        pushThread := .sending payload_stream ⟨push_type, state.push_command⟩
        started := state.started ++ [⟨push_type, state.push_command⟩] }
  | sending (payload_stream : Bytes) (push : Push)
      (point : state.pushThread = .sending payload_stream push) :
      PushEffect state { state with pushThread := .clearFlag }
  | clearFlag (point : state.pushThread = .clearFlag) :
      PushEffect state { state with send_push := false, pushThread := .unlock }
  | unlock (point : state.pushThread = .unlock) :
      PushEffect state { state with push_lock := false, pushThread := .testStop }

/-- A step of a call of `sendPushTo` by the place at which it is. -/
inductive CallEffect (state : Mailbox Caller) (caller : Caller) : Mailbox Caller → Prop
  | lock (push : Push) (point : state.callers caller = .lock push)
      (unlocked : state.push_lock = false) :
      CallEffect state caller { state.moved caller (.storeCommand push) with
        push_lock := true, acquired := state.acquired ++ [push] }
  | storeCommand (push : Push) (point : state.callers caller = .storeCommand push) :
      CallEffect state caller
        { state.moved caller (.storeType push) with push_command := push.command }
  | storeType (push : Push) (point : state.callers caller = .storeType push) :
      CallEffect state caller { state.moved caller .setFlag with push_type := push.type }
  | setFlag (point : state.callers caller = .setFlag) :
      CallEffect state caller { state.moved caller .notify with send_push := true }
  | notify (point : state.callers caller = .notify) :
      CallEffect state caller (state.moved caller .outside).notified

section Cases

variable {state next : Mailbox Caller}

theorem call_cases {caller : Caller} {push : Push}
    (performed : state.step (.call caller push) = some next) :
    state.callers caller = .outside ∧ next = state.moved caller (.lock push) := by
  simp only [step, Option.ite_none_right_eq_some, Option.some.injEq] at performed
  exact ⟨performed.1, performed.2.symm⟩

theorem wake_cases (performed : state.step .wake = some next) :
    state.pushThread = .blocked ∧ next = state.notified := by
  simp only [step, Option.ite_none_right_eq_some, Option.some.injEq] at performed
  exact ⟨performed.1, performed.2.symm⟩

theorem commandNotifies_cases (performed : state.step .commandNotifies = some next) :
    ∃ failed, state.commandThread = .notifying failed ∧
      next = { state with commandThread := .ended }.notified := by
  simp only [step] at performed
  split at performed
  · rename_i failed point
    cases performed
    exact ⟨failed, point, rfl⟩
  · cases performed
  · cases performed

omit [DecidableEq Caller] in
theorem pushFails_cases (performed : state.pushFails = some next) :
    ∃ payload_stream push, state.pushThread = .sending payload_stream push ∧
      next = { state with stop_requested := true, pushThread := .terminated } := by
  simp only [pushFails] at performed
  split at performed
  · rename_i payload_stream push point
    simp only [Option.ite_none_right_eq_some, Option.some.injEq] at performed
    exact ⟨payload_stream, push, point, performed.2.symm⟩
  · cases performed

omit [DecidableEq Caller] in
theorem pushEffect_of_pushStep (performed : state.pushStep = some next) :
    state.PushEffect next := by
  rw [pushStep] at performed
  split at performed <;> cases performed <;> constructor <;> assumption

theorem callEffect_of_callStep {caller : Caller} (performed : state.callStep caller = some next) :
    state.CallEffect caller next := by
  rw [callStep] at performed
  split at performed
  · cases performed
  · rename_i push point
    rw [Option.ite_none_left_eq_some] at performed
    rcases performed with ⟨unlocked, same⟩
    cases same
    exact .lock push point (Bool.eq_false_of_not_eq_true unlocked)
  all_goals
    cases performed
    constructor
    assumption

end Cases

/-! ### The state after a step -/

@[simp]
theorem moved_pushThread (state : Mailbox Caller) (caller : Caller) (point : CallPoint) :
    (state.moved caller point).pushThread = state.pushThread :=
  rfl

@[simp]
theorem moved_push_lock (state : Mailbox Caller) (caller : Caller) (point : CallPoint) :
    (state.moved caller point).push_lock = state.push_lock :=
  rfl

@[simp]
theorem moved_callers_self (state : Mailbox Caller) (caller : Caller) (point : CallPoint) :
    (state.moved caller point).callers caller = point :=
  Function.update_self ..

theorem moved_callers_of_ne {caller other : Caller} (different : other ≠ caller)
    (state : Mailbox Caller) (point : CallPoint) :
    (state.moved caller point).callers other = state.callers other :=
  Function.update_of_ne different ..

end Mailbox

end Device

end SyncDir
