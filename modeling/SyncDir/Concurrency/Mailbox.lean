import SyncDir.Server.PushMailbox

/-!
# Delivery through the push mailbox

Pushes are sent in the order in which their callers have acquired `push_lock`,
each of them once and as a whole.  The reason is that the mailbox goes through
the phases of `Phase`: while the lock is free, everything acquired has been
started; a caller with the lock stores its push while the flag is down; the push
thread reads the mailbox while the flag is up; and it clears the flag before it
releases the lock.  In the first two phases the push thread can pass its wait
only in order to stop.
-/

namespace SyncDir

namespace Device

open PacketType

/-- A caller that has the lock and has not yet raised the flag. -/
def CallPoint.Storing : CallPoint → Prop
  | .storeCommand _ | .storeType _ | .setFlag => True
  | .outside | .lock _ | .notify => False

/-- The push thread has not read anything, or has stopped; it passes its wait only to stop. -/
def PushPoint.Waits (stop_requested : Bool) : PushPoint → Prop
  | .testStop | .testPredicate | .block | .blocked | .terminated => True
  | .checkStop => stop_requested = true
  | _ => False

/-- What the push thread has read so far is `push`, and it has not begun to send it. -/
def PushPoint.Reads (push : Push) : PushPoint → Prop
  | .testStop | .testPredicate | .block | .blocked | .checkStop | .readCommand | .terminated => True
  | .readType payload_stream => payload_stream = push.command
  | .send payload_stream push_type => payload_stream = push.command ∧ push_type = push.type
  | .sending _ _ | .clearFlag | .unlock => False

/-- The push thread has begun to send what is in the mailbox, and reads the name of the file from
the same command. -/
def PushPoint.Sends : PushPoint → Prop
  | .sending payload_stream push => payload_stream = push.command
  | .clearFlag | .terminated => True
  | _ => False

namespace Mailbox

variable {Caller : Type*}

def NoneStoring (state : Mailbox Caller) : Prop :=
  ∀ caller, ¬(state.callers caller).Storing

/-- What `caller` has stored and what it has still to store make up `push`. -/
def Stores (state : Mailbox Caller) (caller : Caller) (push : Push) : Prop :=
  match state.callers caller with
  | .storeCommand argument => argument = push
  | .storeType argument => argument = push ∧ state.push_command = push.command
  | .setFlag => state.push_type = push.type ∧ state.push_command = push.command
  | .outside | .lock _ | .notify => False

inductive Phase (state : Mailbox Caller) : Prop
  | idle (unlocked : state.push_lock = false) (lowered : state.send_push = false)
      (noneStoring : state.NoneStoring) (settled : state.acquired = state.started)
      (waits : state.pushThread.Waits state.stop_requested)
  | storing (caller : Caller) (push : Push) (locked : state.push_lock = true)
      (lowered : state.send_push = false)
      (only : ∀ other, (state.callers other).Storing → other = caller)
      (stores : state.Stores caller push) (open_ : state.acquired = state.started ++ [push])
      (waits : state.pushThread.Waits state.stop_requested)
  | posted (locked : state.push_lock = true) (raised : state.send_push = true)
      (noneStoring : state.NoneStoring)
      (open_ : state.acquired = state.started ++ [⟨state.push_type, state.push_command⟩])
      (reads : state.pushThread.Reads ⟨state.push_type, state.push_command⟩)
  | taken (locked : state.push_lock = true) (noneStoring : state.NoneStoring)
      (settled : state.acquired = state.started) (sends : state.pushThread.Sends)
  | cleared (locked : state.push_lock = true) (lowered : state.send_push = false)
      (noneStoring : state.NoneStoring) (settled : state.acquired = state.started)
      (unlocks : state.pushThread = .unlock)

theorem phase_created (push_type : UInt16) (push_command : Bytes) :
    Phase (created push_type push_command : Mailbox Caller) := by
  apply Phase.idle
  · rfl
  · rfl
  · intro caller storing
    exact storing
  · rfl
  · trivial

/-! ### Steps that leave the mailbox alone -/

/-- The mailbox, the lock and the histories are as before, and what has been true of the place of
the push thread in each phase is still true. -/
structure Keeps (state next : Mailbox Caller) : Prop where
  send_push : next.send_push = state.send_push
  push_type : next.push_type = state.push_type
  push_command : next.push_command = state.push_command
  push_lock : next.push_lock = state.push_lock
  acquired : next.acquired = state.acquired
  started : next.started = state.started
  callers : ∀ caller, next.callers caller = state.callers caller ∨
    ¬(next.callers caller).Storing ∧ ¬(state.callers caller).Storing
  waits : state.send_push = false → state.pushThread.Waits state.stop_requested →
    next.pushThread.Waits next.stop_requested
  reads : state.pushThread.Reads ⟨state.push_type, state.push_command⟩ →
    next.pushThread.Reads ⟨state.push_type, state.push_command⟩
  sends : state.pushThread.Sends → next.pushThread.Sends
  unlocks : state.pushThread = .unlock → next.pushThread = .unlock

theorem Keeps.storing_iff {state next : Mailbox Caller} (keeps : Keeps state next)
    (caller : Caller) : (next.callers caller).Storing ↔ (state.callers caller).Storing := by
  rcases keeps.callers caller with same | ⟨notNext, notState⟩
  · rw [same]
  · exact iff_of_false notNext notState

theorem Stores.storing {state : Mailbox Caller} {caller : Caller} {push : Push}
    (stores : state.Stores caller push) : (state.callers caller).Storing := by
  cases point : state.callers caller <;> simp_all [Stores, CallPoint.Storing]

theorem Phase.keep {state next : Mailbox Caller} (phase : Phase state) (keeps : Keeps state next) :
    Phase next := by
  have noneStoring : state.NoneStoring → next.NoneStoring := by
    intro before caller
    rw [keeps.storing_iff]
    exact before caller
  have settled : state.acquired = state.started → next.acquired = next.started := by
    rw [keeps.acquired, keeps.started]
    exact id
  cases phase with
  | idle unlocked lowered none same waits =>
      apply Phase.idle
      · rw [keeps.push_lock, unlocked]
      · rw [keeps.send_push, lowered]
      · exact noneStoring none
      · exact settled same
      · exact keeps.waits lowered waits
  | storing caller push locked lowered only stores open_ waits =>
      have storing := stores.storing
      apply Phase.storing caller push
      · rw [keeps.push_lock, locked]
      · rw [keeps.send_push, lowered]
      · intro other otherStoring
        exact only other ((keeps.storing_iff other).mp otherStoring)
      · rcases keeps.callers caller with sameCaller | ⟨-, notStoring⟩
        · simp only [Stores, sameCaller, keeps.push_type, keeps.push_command]
          exact stores
        · exact absurd storing notStoring
      · rw [keeps.acquired, keeps.started, open_]
      · exact keeps.waits lowered waits
  | posted locked raised none open_ reads =>
      apply Phase.posted
      · rw [keeps.push_lock, locked]
      · rw [keeps.send_push, raised]
      · exact noneStoring none
      · rw [keeps.acquired, keeps.started, keeps.push_type, keeps.push_command, open_]
      · rw [keeps.push_type, keeps.push_command]
        exact keeps.reads reads
  | taken locked none same sends =>
      apply Phase.taken
      · rw [keeps.push_lock, locked]
      · exact noneStoring none
      · exact settled same
      · exact keeps.sends sends
  | cleared locked lowered none same unlocks =>
      apply Phase.cleared
      · rw [keeps.push_lock, locked]
      · rw [keeps.send_push, lowered]
      · exact noneStoring none
      · exact settled same
      · exact keeps.unlocks unlocks

theorem PushPoint.waits_mono {point : PushPoint} {stop_requested later : Bool}
    (still : stop_requested = true → later = true) (waits : point.Waits stop_requested) :
    point.Waits later := by
  cases point with
  | checkStop => exact still waits
  | testStop | testPredicate | block | blocked | terminated => trivial
  | readCommand | readType _ | send _ _ | sending _ _ | clearFlag | unlock => exact waits

theorem keeps_of_others {state next : Mailbox Caller}
    (mailbox : next = { state with
      stop_requested := next.stop_requested, callers := next.callers
      pushThread := next.pushThread, commandThread := next.commandThread
      fileWatcherThread := next.fileWatcherThread })
    (still : state.stop_requested = true → next.stop_requested = true)
    (callers : ∀ caller, next.callers caller = state.callers caller ∨
      ¬(next.callers caller).Storing ∧ ¬(state.callers caller).Storing)
    (point : next.pushThread = state.pushThread ∨
      state.pushThread = .blocked ∧ next.pushThread = .testPredicate) :
    Keeps state next := by
  have fields := mailbox
  constructor
  · rw [fields]
  · rw [fields]
  · rw [fields]
  · rw [fields]
  · rw [fields]
  · rw [fields]
  · exact callers
  · intro _ waits
    rcases point with same | ⟨-, woken⟩
    · rw [same]
      exact PushPoint.waits_mono still waits
    · rw [woken]
      trivial
  · intro reads
    rcases point with same | ⟨-, woken⟩
    · rwa [same]
    · rw [woken]
      trivial
  · intro sends
    rcases point with same | ⟨blocked, -⟩
    · rwa [same]
    · rw [blocked] at sends
      exact sends.elim
  · intro unlocks
    rcases point with same | ⟨blocked, -⟩
    · rwa [same]
    · rw [blocked] at unlocks
      cases unlocks

theorem keeps_of_pushThread {state : Mailbox Caller} {point : PushPoint} {stop_requested : Bool}
    (waits : state.send_push = false → state.pushThread.Waits state.stop_requested →
      point.Waits stop_requested)
    (reads : state.pushThread.Reads ⟨state.push_type, state.push_command⟩ →
      point.Reads ⟨state.push_type, state.push_command⟩)
    (sends : state.pushThread.Sends → point.Sends) (notUnlock : state.pushThread ≠ .unlock) :
    Keeps state { state with pushThread := point, stop_requested } :=
  { send_push := rfl, push_type := rfl, push_command := rfl, push_lock := rfl, acquired := rfl,
    started := rfl, callers := fun _ => Or.inl rfl, waits, reads, sends,
    unlocks := fun unlocks => absurd unlocks notUnlock }

theorem keeps_notified (state : Mailbox Caller) : Keeps state state.notified := by
  apply keeps_of_others
  · rfl
  · exact id
  · intro other
    exact Or.inl rfl
  · by_cases blocked : state.pushThread = .blocked
    · exact Or.inr ⟨blocked, by rw [notified, blocked, if_pos rfl]⟩
    · exact Or.inl (by rw [notified, if_neg blocked])

/-! ### Steps of the push thread -/

section PushThread

variable {state next : Mailbox Caller}

theorem Phase.send (phase : Phase state) {payload_stream : Bytes} {push_type : UInt16}
    (point : state.pushThread = .send payload_stream push_type) :
    Phase { state with
      pushThread := .sending payload_stream ⟨push_type, state.push_command⟩
      started := state.started ++ [⟨push_type, state.push_command⟩] } := by
  cases phase with
  | posted locked raised none open_ reads =>
      rw [point] at reads
      rcases reads with ⟨sameCommand, sameType⟩
      apply Phase.taken
      · exact locked
      · exact none
      · rw [open_, sameType]
      · exact sameCommand
  | idle _ _ _ _ waits | storing _ _ _ _ _ _ _ waits =>
      rw [point] at waits
      exact waits.elim
  | taken _ _ _ sends =>
      rw [point] at sends
      exact sends.elim
  | cleared _ _ _ _ unlocks =>
      rw [point] at unlocks
      cases unlocks

/-- The push thread is between the reading of the mailbox and the clearing of the flag. -/
theorem Phase.of_sends (phase : Phase state)
    (busy : ¬state.pushThread.Waits state.stop_requested)
    (past : ¬state.pushThread.Reads ⟨state.push_type, state.push_command⟩)
    (notUnlock : state.pushThread ≠ .unlock) :
    state.push_lock = true ∧ state.NoneStoring ∧ state.acquired = state.started ∧
      state.pushThread.Sends := by
  cases phase with
  | taken locked none settled sends => exact ⟨locked, none, settled, sends⟩
  | idle _ _ _ _ waits | storing _ _ _ _ _ _ _ waits => exact absurd waits busy
  | posted _ _ _ _ reads => exact absurd reads past
  | cleared _ _ _ _ unlocks => exact absurd unlocks notUnlock

theorem Phase.clearFlag (phase : Phase state) (point : state.pushThread = .clearFlag) :
    Phase { state with send_push := false, pushThread := .unlock } := by
  have sends : state.push_lock = true ∧ state.NoneStoring ∧ state.acquired = state.started ∧
      state.pushThread.Sends := by
    apply phase.of_sends
    · simp [point, PushPoint.Waits]
    · simp [point, PushPoint.Reads]
    · simp [point]
  rcases sends with ⟨locked, none, settled, -⟩
  apply Phase.cleared
  · exact locked
  · rfl
  · exact none
  · exact settled
  · rfl

theorem Phase.unlock (phase : Phase state) (point : state.pushThread = .unlock) :
    Phase { state with push_lock := false, pushThread := .testStop } := by
  cases phase with
  | cleared _ lowered none settled _ =>
      apply Phase.idle
      · rfl
      · exact lowered
      · exact none
      · exact settled
      · trivial
  | idle _ _ _ _ waits | storing _ _ _ _ _ _ _ waits =>
      rw [point] at waits
      exact waits.elim
  | posted _ _ _ _ reads =>
      rw [point] at reads
      exact reads.elim
  | taken _ _ _ sends =>
      rw [point] at sends
      exact sends.elim

theorem Phase.pushStep (phase : Phase state) (performed : state.pushStep = some next) :
    Phase next := by
  cases pushEffect_of_pushStep performed with
  | testStop point =>
      apply phase.keep
      apply keeps_of_pushThread
      · intro _ _
        split <;> trivial
      · intro _
        split <;> trivial
      · simp [point, PushPoint.Sends]
      · simp [point]
  | testPredicate point =>
      apply phase.keep
      apply keeps_of_pushThread
      · intro lowered _
        split
        · -- the flag is down, so the predicate holds because of the stop request
          rename_i predicate
          simpa [Predicate, lowered, PushPoint.Waits] using predicate
        · trivial
      · intro _
        split <;> trivial
      · simp [point, PushPoint.Sends]
      · simp [point]
  | block point =>
      apply phase.keep
      apply keeps_of_pushThread
      · intro _ _
        trivial
      · intro _
        trivial
      · simp [point, PushPoint.Sends]
      · simp [point]
  | checkStop point =>
      apply phase.keep
      apply keeps_of_pushThread
      · intro _ waits
        rw [point] at waits
        have stopped : state.stop_requested = true := waits
        rw [if_pos stopped]
        trivial
      · intro _
        split <;> trivial
      · simp [point, PushPoint.Sends]
      · simp [point]
  | readCommand point =>
      apply phase.keep
      apply keeps_of_pushThread
      · simp [point, PushPoint.Waits]
      · intro _
        rfl
      · simp [point, PushPoint.Sends]
      · simp [point]
  | readType payload_stream point =>
      apply phase.keep
      apply keeps_of_pushThread
      · simp [point, PushPoint.Waits]
      · intro reads
        rw [point] at reads
        exact ⟨reads, rfl⟩
      · simp [point, PushPoint.Sends]
      · simp [point]
  | send payload_stream push_type point =>
      exact phase.send point
  | sending payload_stream push point =>
      apply phase.keep
      apply keeps_of_pushThread
      · simp [point, PushPoint.Waits]
      · simp [point, PushPoint.Reads]
      · intro _
        trivial
      · simp [point]
  | clearFlag point =>
      exact phase.clearFlag point
  | unlock point =>
      exact phase.unlock point

theorem Phase.pushFails (phase : Phase state) (performed : state.pushFails = some next) :
    Phase next := by
  rcases pushFails_cases performed with ⟨payload_stream, push, point, rfl⟩
  apply phase.keep
  apply keeps_of_pushThread
  · simp [point, PushPoint.Waits]
  · simp [point, PushPoint.Reads]
  · intro _
    trivial
  · simp [point]

end PushThread

/-! ### Steps of the callers -/

/-- A caller that stores is the one that has acquired the lock last. -/
theorem Phase.exists_storing {state : Mailbox Caller} {caller : Caller} (phase : Phase state)
    (storing : (state.callers caller).Storing) :
    ∃ push, state.push_lock = true ∧ state.send_push = false ∧
      (∀ other, (state.callers other).Storing → other = caller) ∧ state.Stores caller push ∧
      state.acquired = state.started ++ [push] ∧
      state.pushThread.Waits state.stop_requested := by
  cases phase with
  | storing holder push locked lowered only stores open_ waits =>
      obtain rfl := only caller storing
      exact ⟨push, locked, lowered, only, stores, open_, waits⟩
  | idle _ _ none | posted _ _ none | taken _ none | cleared _ _ none =>
      exact absurd storing (none caller)

section Callers

variable [DecidableEq Caller] {state next : Mailbox Caller} {caller : Caller}

/-- Only `caller` moves, so only `caller` can store anything that was not stored before. -/
theorem storing_moved {point : CallPoint} {other : Caller}
    (storing : ((state.moved caller point).callers other).Storing) :
    other = caller ∧ point.Storing ∨ other ≠ caller ∧ (state.callers other).Storing := by
  by_cases same : other = caller
  · subst other
    rw [moved_callers_self] at storing
    exact Or.inl ⟨rfl, storing⟩
  · rw [moved_callers_of_ne same] at storing
    exact Or.inr ⟨same, storing⟩

theorem only_moved {point : CallPoint}
    (only : ∀ other, (state.callers other).Storing → other = caller) (other : Caller)
    (storing : ((state.moved caller point).callers other).Storing) : other = caller := by
  rcases storing_moved storing with ⟨same, -⟩ | ⟨-, before⟩
  · exact same
  · exact only other before

theorem keeps_of_moved {point : CallPoint} (notBefore : ¬(state.callers caller).Storing)
    (notAfter : ¬point.Storing) : Keeps state (state.moved caller point) := by
  apply keeps_of_others
  · rfl
  · exact id
  · intro other
    by_cases same : other = caller
    · subst other
      rw [moved_callers_self]
      exact Or.inr ⟨notAfter, notBefore⟩
    · exact Or.inl (moved_callers_of_ne same state point)
  · exact Or.inl rfl

theorem Phase.acquire (phase : Phase state) {push : Push}
    (unlocked : state.push_lock = false) :
    Phase { state.moved caller (.storeCommand push) with
      push_lock := true, acquired := state.acquired ++ [push] } := by
  cases phase with
  | idle _ lowered none settled waits =>
      apply Phase.storing caller push
      · rfl
      · exact lowered
      · intro other storing
        rcases storing_moved storing with ⟨same, -⟩ | ⟨-, before⟩
        · exact same
        · exact absurd before (none other)
      · simp [Stores]
      · exact congrArg (· ++ [push]) settled
      · exact waits
  | storing _ _ locked | posted locked | taken locked | cleared locked =>
      rw [unlocked] at locked
      cases locked

theorem Phase.storeCommand (phase : Phase state) {push : Push}
    (point : state.callers caller = .storeCommand push) :
    Phase { state.moved caller (.storeType push) with push_command := push.command } := by
  have storing : (state.callers caller).Storing := by
    rw [point]
    trivial
  rcases phase.exists_storing storing with
    ⟨argument, locked, lowered, only, stores, open_, waits⟩
  simp only [Stores, point] at stores
  apply Phase.storing caller push
  · exact locked
  · exact lowered
  · exact only_moved only
  · simp [Stores]
  · rw [stores]
    exact open_
  · exact waits

theorem Phase.storeType (phase : Phase state) {push : Push}
    (point : state.callers caller = .storeType push) :
    Phase { state.moved caller .setFlag with push_type := push.type } := by
  have storing : (state.callers caller).Storing := by
    rw [point]
    trivial
  rcases phase.exists_storing storing with
    ⟨argument, locked, lowered, only, stores, open_, waits⟩
  simp only [Stores, point] at stores
  rcases stores with ⟨rfl, stored⟩
  apply Phase.storing caller push
  · exact locked
  · exact lowered
  · exact only_moved only
  · simp [Stores, moved, stored]
  · exact open_
  · exact waits

theorem Phase.setFlag (phase : Phase state) (point : state.callers caller = .setFlag) :
    Phase { state.moved caller .notify with send_push := true } := by
  have storing : (state.callers caller).Storing := by
    rw [point]
    trivial
  rcases phase.exists_storing storing with
    ⟨push, locked, lowered, only, stores, open_, waits⟩
  simp only [Stores, point] at stores
  rcases stores with ⟨storedType, storedCommand⟩
  apply Phase.posted
  · exact locked
  · rfl
  · intro other otherStoring
    rcases storing_moved otherStoring with ⟨-, impossible⟩ | ⟨different, before⟩
    · exact impossible
    · exact different (only other before)
  · simp only [moved, storedType, storedCommand]
    exact open_
  · cases thread : state.pushThread with
    | testStop | testPredicate | block | blocked | checkStop | terminated =>
        simp [moved, thread, PushPoint.Reads]
    | readCommand | readType _ | send _ _ | sending _ _ | clearFlag | unlock =>
        rw [thread] at waits
        exact waits.elim

theorem Phase.callStep (phase : Phase state) (performed : state.callStep caller = some next) :
    Phase next := by
  cases callEffect_of_callStep performed with
  | lock push point unlocked => exact phase.acquire unlocked
  | storeCommand push point => exact phase.storeCommand point
  | storeType push point => exact phase.storeType point
  | setFlag point => exact phase.setFlag point
  | notify point =>
      apply Phase.keep _ (keeps_notified _)
      apply phase.keep
      apply keeps_of_moved
      · simp [point, CallPoint.Storing]
      · exact id

end Callers

/-! ### Runs -/

theorem Phase.sending {state : Mailbox Caller} (phase : Phase state) {payload_stream : Bytes}
    {push : Push} (point : state.pushThread = .sending payload_stream push) :
    payload_stream = push.command := by
  have sends : state.push_lock = true ∧ state.NoneStoring ∧ state.acquired = state.started ∧
      state.pushThread.Sends := by
    apply phase.of_sends
    · simp [point, PushPoint.Waits]
    · simp [point, PushPoint.Reads]
    · simp [point]
  rw [point] at sends
  exact sends.2.2.2

theorem Phase.eq_or_eq_concat {state : Mailbox Caller} (phase : Phase state) :
    state.acquired = state.started ∨ ∃ push, state.acquired = state.started ++ [push] := by
  cases phase with
  | idle _ _ _ settled | taken _ _ settled | cleared _ _ _ settled => exact Or.inl settled
  | storing _ push _ _ _ _ open_ => exact Or.inr ⟨push, open_⟩
  | posted _ _ _ open_ => exact Or.inr ⟨_, open_⟩

section Runs

variable [DecidableEq Caller] {state next : Mailbox Caller}

theorem Phase.step (phase : Phase state) {event : MailboxEvent Caller}
    (performed : state.step event = some next) : Phase next := by
  cases event with
  | call caller push =>
      rcases call_cases performed with ⟨outside, rfl⟩
      apply phase.keep
      apply keeps_of_moved
      · simp [outside, CallPoint.Storing]
      · exact id
  | proceed caller => exact phase.callStep performed
  | push => exact phase.pushStep performed
  | sendFails => exact phase.pushFails performed
  | wake =>
      rcases wake_cases performed with ⟨-, rfl⟩
      exact phase.keep (keeps_notified state)
  | commandNotifies =>
      rcases commandNotifies_cases performed with ⟨failed, -, rfl⟩
      apply Phase.keep _ (keeps_notified _)
      apply phase.keep
      exact keeps_of_others rfl id (fun _ => Or.inl rfl) (Or.inl rfl)
  | commandFails | watcherFails =>
      simp only [Mailbox.step, Option.ite_none_right_eq_some, Option.some.injEq] at performed
      rcases performed with ⟨-, rfl⟩
      exact phase.keep (keeps_of_others rfl (fun _ => rfl) (fun _ => Or.inl rfl) (Or.inl rfl))
  | commandLeaves | watcherLeaves =>
      simp only [Mailbox.step, Option.ite_none_right_eq_some, Option.some.injEq] at performed
      rcases performed with ⟨-, rfl⟩
      exact phase.keep (keeps_of_others rfl id (fun _ => Or.inl rfl) (Or.inl rfl))

/-- At every moment of every run, the pushes that have been started are the calls of `sendPushTo`
in the order in which they acquired the lock, except perhaps for the last one, and the file that is
sent is named by the command that is sent. -/
theorem started_prefix_acquired {push_type : UInt16} {push_command : Bytes}
    (reached : Transition.Reachable step (fun _ _ => True) (created push_type push_command) state) :
    state.started <+: state.acquired ∧ state.acquired.length ≤ state.started.length + 1 ∧
      ∀ payload_stream push, state.pushThread = .sending payload_stream push →
        payload_stream = push.command := by
  have phase : Phase state := by
    apply reached.invariant (phase_created push_type push_command)
    intro before event after phase _ performed
    exact phase.step performed
  have named : ∀ payload_stream push, state.pushThread = .sending payload_stream push →
      payload_stream = push.command := by
    intro payload_stream push point
    exact phase.sending point
  rcases phase.eq_or_eq_concat with same | ⟨push, longer⟩
  · rw [same]
    exact ⟨List.prefix_refl _, Nat.le_succ _, named⟩
  · rw [longer]
    refine ⟨List.prefix_append _ _, ?_, named⟩
    simp

/-- Two callers, the second of which acquires the lock when the push thread has released it. -/
def twoPushes : List (MailboxEvent Bool) :=
  [.call true ⟨t_WRITE.value, ascii "f"⟩, .call false ⟨t_DELETE.value, ascii "g"⟩,
    .proceed true, .proceed true, .proceed true, .proceed true, .proceed true,
    .push, .push, .push, .push, .push, .push, .push, .push, .push, .proceed false]

theorem started_prefix_acquired_twoPushes :
    ∃ state, Transition.run step (created 0 []) twoPushes = some state ∧
      state.acquired = [⟨t_WRITE.value, ascii "f"⟩, ⟨t_DELETE.value, ascii "g"⟩] ∧
      state.started = [⟨t_WRITE.value, ascii "f"⟩] ∧ state.started <+: state.acquired := by
  have histories : (Transition.run step (created 0 []) twoPushes).map
      (fun state => (state.acquired, state.started)) =
      some ([⟨t_WRITE.value, ascii "f"⟩, ⟨t_DELETE.value, ascii "g"⟩],
        [⟨t_WRITE.value, ascii "f"⟩]) := rfl
  rcases Option.map_eq_some_iff.mp histories with ⟨state, performed, recorded⟩
  rcases Prod.mk.inj recorded with ⟨acquired, started⟩
  have reached : Transition.Reachable step (fun _ _ => True) (created 0 []) state := by
    apply Transition.Reachable.of_run _ .start performed
    intro event _ state
    trivial
  exact ⟨state, performed, acquired, started, (started_prefix_acquired reached).1⟩

end Runs

end Mailbox

end Device

end SyncDir
