import SyncDir.Library.ArrayList

/-!
# Access to the devices of a manager

The threads that run `handle_new_connection`, `removeDevice`, `handle_new_push`
and `add_new_backup` of a manager work on its device list in steps, between
which others take theirs.  `handle_new_connection` and `removeDevice` change the
list under `device_mutex`, which a `lock_guard` releases at the end of its
scope.  In `handle_new_connection` this is the end of the function, but the
mutex is also released before, for `start`.

`handle_new_push` goes through the list without the mutex, from the first cell
to the end, in the array as it has been at the beginning.  An array that the
list has left for a larger one is read here as if it had not been freed.
-/

namespace SyncDir

namespace ClientManager

/-- Where a thread is in the functions of a manager. -/
inductive AccessPoint
  | idle
  /-- `handle_new_connection` after its test. -/
  | constructing
  | constructed (device : ℕ)
  /-- The `lock_guard` has been constructed. -/
  | guarding (device : ℕ)
  | inserted (device : ℕ)
  /-- In `start`, after the explicit `unlock`. -/
  | started (device : ℕ)
  /-- `start` has been left; the destructor of the `lock_guard` is next. -/
  | leaving
  /-- `push_back` has thrown; the destructor of the `lock_guard` is next. -/
  | failed
  /-- In `removeDevice`, which `start` has called or someone else. -/
  | removing (device : ℕ) (by_start : Bool)
  | stopping (device : ℕ) (by_start : Bool)
  | stopped (device : ℕ) (by_start : Bool)
  | erased (device : ℕ) (by_start : Bool)
  | removed (by_start : Bool)
  /-- In the loop of `handle_new_push`, with the array, the next cell and the one to stop at. -/
  | iterating (caller array index stop : ℕ)
  | adding (peer : ℕ)
  | guardingPeer (peer : ℕ)
  | added
  deriving DecidableEq

namespace AccessPoint

/-- The thread has acquired the mutex and has not released it since. -/
def Inside : AccessPoint → Prop
  | guarding _ | inserted _ | failed | stopping _ _ | stopped _ _ | erased _ _ | removed _
  | guardingPeer _ | added => True
  | idle | constructing | constructed _ | started _ | leaving | removing _ _ | iterating _ _ _ _
  | adding _ => False

/-- The point after the destructor of a `lock_guard`. -/
def afterGuard : AccessPoint → Option AccessPoint
  | leaving | failed | added => some idle
  | removed by_start => some (if by_start then leaving else idle)
  | _ => none

/-- The device that the thread has, while it is not in the list: before `push_back`, or between
`erase` and `delete`. -/
def owned : AccessPoint → Option ℕ
  | constructed device | guarding device | erased device _ => some device
  | _ => none

end AccessPoint

structure DeviceAccess (Thread : Type*) where
  device_mutex : Option Thread
  max_devices : ℕ
  devices : ArrayList ℕ
  backup_peers : List ℕ
  /-- The devices that have been constructed are numbered. -/
  constructed : ℕ
  deleted : List ℕ
  points : Thread → AccessPoint

inductive AccessEvent (Thread : Type*)
  | connect (thread : Thread)
  | construct (thread : Thread)
  | constructFails (thread : Thread)
  | guard (thread : Thread) (device : ℕ)
  | push_back (thread : Thread) (device : ℕ)
  | push_backFails (thread : Thread) (device : ℕ)
  | unlock (thread : Thread) (device : ℕ)
  | startFails (thread : Thread) (device : ℕ)
  /-- `start` has joined the threads of the device, and calls `removeDevice`. -/
  | finish (thread : Thread) (device : ℕ)
  | removeDevice (thread : Thread) (device : ℕ)
  | guardRemove (thread : Thread) (device : ℕ) (by_start : Bool)
  | stop (thread : Thread) (device : ℕ) (by_start : Bool)
  | stopFails (thread : Thread) (device : ℕ) (by_start : Bool)
  | erase (thread : Thread) (device : ℕ) (by_start : Bool)
  | delete (thread : Thread) (device : ℕ) (by_start : Bool)
  /-- The destructor of a `lock_guard`. -/
  | destroyGuard (thread : Thread)
  | handle_new_push (thread : Thread) (caller : ℕ)
  | iterate (thread : Thread) (caller array index stop : ℕ)
  | add_new_backup (thread : Thread) (peer : ℕ)
  | guardPeer (thread : Thread) (peer : ℕ)
  | push_backPeer (thread : Thread) (peer : ℕ)

namespace DeviceAccess

variable {Thread : Type*}

def created (max_devices : ℕ) : DeviceAccess Thread where
  device_mutex := none
  max_devices := max_devices
  devices := .empty
  backup_peers := []
  constructed := 0
  deleted := []
  points := fun _ => .idle

variable [DecidableEq Thread]

def moved (state : DeviceAccess Thread) (thread : Thread) (point : AccessPoint) :
    DeviceAccess Thread :=
  { state with points := Function.update state.points thread point }

/-- The thread goes on with the mutex, if it is free. -/
def acquired (state : DeviceAccess Thread) (thread : Thread) (point : AccessPoint) :
    Option (DeviceAccess Thread) :=
  if state.device_mutex = none then
    some { state.moved thread point with device_mutex := some thread }
  else none

/-- The thread goes on after an `unlock`, which frees the mutex whoever holds it. -/
def released (state : DeviceAccess Thread) (thread : Thread) (point : AccessPoint) :
    DeviceAccess Thread :=
  { state.moved thread point with device_mutex := none }

def atPoint (state : DeviceAccess Thread) (thread : Thread) (point : AccessPoint)
    (next : Option (DeviceAccess Thread)) : Option (DeviceAccess Thread) :=
  if state.points thread = point then next else none

def step (state : DeviceAccess Thread) : AccessEvent Thread → Option (DeviceAccess Thread)
  | .connect thread => state.atPoint thread .idle <|
      if state.devices.size = state.max_devices then state
      else state.moved thread .constructing
  | .construct thread => state.atPoint thread .constructing <|
      some { state.moved thread (.constructed state.constructed) with
        constructed := state.constructed + 1 }
  | .constructFails thread => state.atPoint thread .constructing (state.moved thread .idle)
  | .guard thread device => state.atPoint thread (.constructed device) <|
      state.acquired thread (.guarding device)
  | .push_back thread device => state.atPoint thread (.guarding device) <|
      some { state.moved thread (.inserted device) with
        devices := state.devices.push_back device }
  | .push_backFails thread device => state.atPoint thread (.guarding device) <|
      state.moved thread .failed
  | .unlock thread device => state.atPoint thread (.inserted device) <|
      state.released thread (.started device)
  | .startFails thread device => state.atPoint thread (.started device) <|
      state.moved thread .leaving
  | .finish thread device => state.atPoint thread (.started device) <|
      state.moved thread (.removing device true)
  | .removeDevice thread device => state.atPoint thread .idle <|
      state.moved thread (.removing device false)
  | .guardRemove thread device by_start => state.atPoint thread (.removing device by_start) <|
      state.acquired thread (.stopping device by_start)
  | .stop thread device by_start => state.atPoint thread (.stopping device by_start) <|
      state.moved thread (.stopped device by_start)
  | .stopFails thread device by_start => state.atPoint thread (.stopping device by_start) <|
      state.moved thread (.removed by_start)
  | .erase thread device by_start => state.atPoint thread (.stopped device by_start) <|
      match state.devices.find device with
      | none => state.moved thread (.removed by_start)
      | some position =>
          some { state.moved thread (.erased device by_start) with
            devices := state.devices.erase position }
  | .delete thread device by_start => state.atPoint thread (.erased device by_start) <|
      some { state.moved thread (.removed by_start) with deleted := device :: state.deleted }
  | .destroyGuard thread => (state.points thread).afterGuard.map (state.released thread)
  | .handle_new_push thread caller => state.atPoint thread .idle <|
      state.moved thread (.iterating caller state.devices.array 0 state.devices.size)
  | .iterate thread caller array index stop =>
      state.atPoint thread (.iterating caller array index stop) <|
        if index < stop then state.moved thread (.iterating caller array (index + 1) stop)
        else state.moved thread .idle
  | .add_new_backup thread peer => state.atPoint thread .idle <|
      state.moved thread (.adding peer)
  | .guardPeer thread peer => state.atPoint thread (.adding peer) <|
      state.acquired thread (.guardingPeer peer)
  | .push_backPeer thread peer => state.atPoint thread (.guardingPeer peer) <|
      some { state.moved thread .added with backup_peers := state.backup_peers ++ [peer] }

/-- The device on which the thread calls `sendPushTo` with its next step. -/
def sendsTo (state : DeviceAccess Thread) (thread : Thread) : Option ℕ :=
  match state.points thread with
  | .iterating caller array index stop =>
      if index < stop then (state.devices.arrays array index).filter (· ≠ caller) else none
  | _ => none

end DeviceAccess

/-! ### What a step does -/

/-- A cell that the loop of `handle_new_push` for `caller` has still to read. -/
def AccessPoint.Ahead (caller array cell : ℕ) : AccessPoint → Prop
  | iterating iterating_for read index stop =>
      caller = iterating_for ∧ array = read ∧ index ≤ cell ∧ cell < stop
  | _ => False

namespace AccessEvent

variable {Thread : Type*}

def releases : AccessEvent Thread → Option Thread
  | unlock thread _ | destroyGuard thread => some thread
  | _ => none

def deletes : AccessEvent Thread → Option ℕ
  | delete _ device _ => some device
  | _ => none

end AccessEvent

namespace DeviceAccess

variable {Thread : Type*}

theorem atPoint_eq_some {state next : DeviceAccess Thread} {thread : Thread} {point : AccessPoint}
    {result : Option (DeviceAccess Thread)} :
    state.atPoint thread point result = some next ↔
      state.points thread = point ∧ result = some next := by
  rw [atPoint, Option.ite_none_right_eq_some]

variable [DecidableEq Thread]

/-- A step of a thread, which may release the mutex or delete a device. -/
inductive Effect (state : DeviceAccess Thread) :
    Option Thread → Option ℕ → DeviceAccess Thread → Prop
  | move (thread : Thread) (point : AccessPoint) (backup_peers : List ℕ)
      (inside : point.Inside ↔ (state.points thread).Inside)
      (owned : ∀ device, point.owned = some device →
        (state.points thread).owned = some device)
      (ahead : ∀ caller array cell, point.Ahead caller array cell →
        (state.points thread).Ahead caller array cell ∨
          array = state.devices.array ∧ cell < state.devices.size) :
      Effect state none none { state.moved thread point with backup_peers }
  | acquire (thread : Thread) (point : AccessPoint) (free : state.device_mutex = none)
      (inside : point.Inside)
      (owned : ∀ device, point.owned = some device →
        (state.points thread).owned = some device)
      (ahead : ∀ caller array cell, ¬point.Ahead caller array cell) :
      Effect state none none { state.moved thread point with device_mutex := some thread }
  | release (thread : Thread) (point : AccessPoint)
      (inside : (state.points thread).Inside ∨ state.points thread = .leaving)
      (outside : ¬point.Inside) (owned : point.owned = none)
      (ahead : ∀ caller array cell, ¬point.Ahead caller array cell) :
      Effect state (some thread) none (state.released thread point)
  | construct (thread : Thread) (at_ : state.points thread = .constructing) :
      Effect state none none
        { state.moved thread (.constructed state.constructed) with
          constructed := state.constructed + 1 }
  | push_back (thread : Thread) (device : ℕ) (at_ : state.points thread = .guarding device) :
      Effect state none none
        { state.moved thread (.inserted device) with
          devices := state.devices.push_back device }
  | erase (thread : Thread) (device : ℕ) (by_start : Bool) (position : ℕ)
      (at_ : state.points thread = .stopped device by_start)
      (found : state.devices.find device = some position) :
      Effect state none none
        { state.moved thread (.erased device by_start) with
          devices := state.devices.erase position }
  | delete (thread : Thread) (device : ℕ) (by_start : Bool)
      (at_ : state.points thread = .erased device by_start) :
      Effect state none (some device)
        { state.moved thread (.removed by_start) with deleted := device :: state.deleted }

theorem acquired_eq_some {state next : DeviceAccess Thread} {thread : Thread}
    {point : AccessPoint} :
    state.acquired thread point = some next ↔
      state.device_mutex = none ∧
        { state.moved thread point with device_mutex := some thread } = next := by
  rw [acquired, Option.ite_none_right_eq_some, Option.some_inj]

section Effects

variable {state next : DeviceAccess Thread} {thread : Thread} {source point : AccessPoint}

theorem moved_self : state.moved thread (state.points thread) = state := by
  rw [moved, Function.update_eq_self]

/-- Most steps go to a point where the thread has no device and no cell to read. -/
theorem Effect.walk (at_ : state.points thread = source) (inside : point.Inside ↔ source.Inside)
    (owned : point.owned = none) (ahead : ∀ caller array cell, ¬point.Ahead caller array cell) :
    Effect state none none (state.moved thread point) := by
  subst at_
  refine .move thread point state.backup_peers inside ?_ ?_
  · simp [owned]
  · intro caller array cell isAhead
    exact absurd isAhead (ahead caller array cell)

theorem Effect.enter (at_ : state.points thread = source)
    (performed : state.acquired thread point = some next) (inside : point.Inside)
    (owned : point.owned = source.owned)
    (ahead : ∀ caller array cell, ¬point.Ahead caller array cell) :
    Effect state none none next := by
  subst at_
  rcases acquired_eq_some.mp performed with ⟨free, rfl⟩
  exact .acquire thread point free inside (fun device has => owned ▸ has) ahead

theorem afterGuard_cases (after : source.afterGuard = some point) :
    (source.Inside ∨ source = .leaving) ∧ (point = .idle ∨ point = .leaving) := by
  cases source with
  | leaving | failed | added =>
      simp only [AccessPoint.afterGuard, Option.some_inj] at after
      subst after
      simp [AccessPoint.Inside]
  | removed by_start =>
      simp only [AccessPoint.afterGuard, Option.some_inj] at after
      subst after
      cases by_start <;> simp [AccessPoint.Inside]
  | _ => simp [AccessPoint.afterGuard] at after

theorem effect_of_step {event : AccessEvent Thread} (performed : state.step event = some next) :
    Effect state event.releases event.deletes next := by
  cases event with
  | connect thread =>
      rcases atPoint_eq_some.mp performed with ⟨at_, performed⟩
      split at performed
      · cases performed
        have unchanged : state.moved thread .idle = state := at_ ▸ moved_self
        have walked : Effect state none none (state.moved thread .idle) :=
          .walk at_ Iff.rfl rfl fun _ _ _ => id
        rwa [unchanged] at walked
      · cases performed
        exact .walk at_ Iff.rfl rfl fun _ _ _ => id
  | construct thread =>
      rcases atPoint_eq_some.mp performed with ⟨at_, ⟨⟩⟩
      exact .construct thread at_
  | constructFails thread =>
      rcases atPoint_eq_some.mp performed with ⟨at_, ⟨⟩⟩
      exact .walk at_ Iff.rfl rfl fun _ _ _ => id
  | guard thread device =>
      rcases atPoint_eq_some.mp performed with ⟨at_, entered⟩
      exact .enter at_ entered trivial rfl fun _ _ _ => id
  | push_back thread device =>
      rcases atPoint_eq_some.mp performed with ⟨at_, ⟨⟩⟩
      exact .push_back thread device at_
  | push_backFails thread device =>
      rcases atPoint_eq_some.mp performed with ⟨at_, ⟨⟩⟩
      exact .walk at_ Iff.rfl rfl fun _ _ _ => id
  | unlock thread device =>
      rcases atPoint_eq_some.mp performed with ⟨at_, ⟨⟩⟩
      exact .release thread _ (Or.inl (at_ ▸ trivial)) id rfl fun _ _ _ => id
  | startFails thread device =>
      rcases atPoint_eq_some.mp performed with ⟨at_, ⟨⟩⟩
      exact .walk at_ Iff.rfl rfl fun _ _ _ => id
  | finish thread device =>
      rcases atPoint_eq_some.mp performed with ⟨at_, ⟨⟩⟩
      exact .walk at_ Iff.rfl rfl fun _ _ _ => id
  | removeDevice thread device =>
      rcases atPoint_eq_some.mp performed with ⟨at_, ⟨⟩⟩
      exact .walk at_ Iff.rfl rfl fun _ _ _ => id
  | guardRemove thread device by_start =>
      rcases atPoint_eq_some.mp performed with ⟨at_, entered⟩
      exact .enter at_ entered trivial rfl fun _ _ _ => id
  | stop thread device by_start =>
      rcases atPoint_eq_some.mp performed with ⟨at_, ⟨⟩⟩
      exact .walk at_ Iff.rfl rfl fun _ _ _ => id
  | stopFails thread device by_start =>
      rcases atPoint_eq_some.mp performed with ⟨at_, ⟨⟩⟩
      exact .walk at_ Iff.rfl rfl fun _ _ _ => id
  | erase thread device by_start =>
      rcases atPoint_eq_some.mp performed with ⟨at_, performed⟩
      cases found : state.devices.find device with
      | none =>
          rw [found] at performed
          cases performed
          exact .walk at_ Iff.rfl rfl fun _ _ _ => id
      | some position =>
          rw [found] at performed
          cases performed
          exact .erase thread device by_start position at_ found
  | delete thread device by_start =>
      rcases atPoint_eq_some.mp performed with ⟨at_, ⟨⟩⟩
      exact .delete thread device by_start at_
  | destroyGuard thread =>
      rcases Option.map_eq_some_iff.mp performed with ⟨point, after, rfl⟩
      rcases afterGuard_cases after with ⟨inside, rfl | rfl⟩
      · exact .release thread _ inside id rfl fun _ _ _ => id
      · exact .release thread _ inside id rfl fun _ _ _ => id
  | handle_new_push thread caller =>
      rcases atPoint_eq_some.mp performed with ⟨at_, ⟨⟩⟩
      refine .move thread _ state.backup_peers (at_ ▸ Iff.rfl) (fun _ => nofun) ?_
      rintro _ _ cell ⟨_, current, _, within⟩
      exact Or.inr ⟨current, within⟩
  | iterate thread caller array index stop =>
      rcases atPoint_eq_some.mp performed with ⟨at_, performed⟩
      split at performed
      · cases performed
        refine .move thread _ state.backup_peers (at_ ▸ Iff.rfl) (fun _ => nofun) ?_
        rintro _ _ cell ⟨same, read, after, within⟩
        rw [at_]
        exact Or.inl ⟨same, read, by omega, within⟩
      · cases performed
        exact .walk at_ Iff.rfl rfl fun _ _ _ => id
  | add_new_backup thread peer =>
      rcases atPoint_eq_some.mp performed with ⟨at_, ⟨⟩⟩
      exact .walk at_ Iff.rfl rfl fun _ _ _ => id
  | guardPeer thread peer =>
      rcases atPoint_eq_some.mp performed with ⟨at_, entered⟩
      exact .enter at_ entered trivial rfl fun _ _ _ => id
  | push_backPeer thread peer =>
      rcases atPoint_eq_some.mp performed with ⟨at_, ⟨⟩⟩
      exact .move thread _ _ (at_ ▸ Iff.rfl) (fun _ => nofun) fun _ _ _ => nofun

end Effects

end DeviceAccess

end ClientManager

end SyncDir
