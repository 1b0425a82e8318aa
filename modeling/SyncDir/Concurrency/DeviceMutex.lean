import SyncDir.Library.MutualExclusion
import SyncDir.Library.Ownership
import SyncDir.Library.Transition
import SyncDir.Server.DeviceAccess

/-!
# The mutex of the device list

Access to the device list of a manager should be exclusive.  A call of
`handle_new_connection` releases the mutex twice, the second time without
holding it, so that another thread can enter while the holder is inside.  The
loop of `handle_new_push` does not take the mutex, so that it can call
`sendPushTo` on a device that `removeDevice` has deleted.  There is nothing else
that can go wrong.
-/

namespace SyncDir

namespace ClientManager

open Transition MutualExclusion Ownership

namespace DeviceAccess

variable {Thread : Type*}

/-! ### The invariant -/

/-- The mutex guards the critical sections, and a device is in the list, or with the one thread
that has it, or deleted. -/
structure Sound (state : DeviceAccess Thread) : Prop where
  guards : Guards AccessPoint.Inside state.device_mutex state.points
  distinct : state.devices.Distinct
  listed : ∀ device, state.devices.Holds device →
    device < state.constructed ∧ device ∉ state.deleted
  owned : ∀ thread device, (state.points thread).owned = some device →
    device < state.constructed ∧ ¬state.devices.Holds device ∧ device ∉ state.deleted
  unshared : Unshared AccessPoint.owned state.points
  deleted : ∀ device ∈ state.deleted, device < state.constructed

def Respected (state : DeviceAccess Thread) (event : AccessEvent Thread) : Prop :=
  ∀ thread, event.releases = some thread → state.device_mutex = some thread

/-- What the loops of `handle_new_push` have still to read has not been deleted, or is the device
they leave out. -/
def Unread (state : DeviceAccess Thread) : Prop :=
  ∀ thread caller array cell device, (state.points thread).Ahead caller array cell →
    state.devices.arrays array cell = some device → device ≠ caller → device ∉ state.deleted

/-- No `lock_guard` is destroyed after an explicit `unlock`, and no device is deleted that a loop
of `handle_new_push` has still to read. -/
def Admissible (state : DeviceAccess Thread) (event : AccessEvent Thread) : Prop :=
  (∀ thread, event.releases = some thread → state.points thread ≠ .leaving) ∧
    ∀ deleted, event.deletes = some deleted → ∀ thread caller array cell,
      (state.points thread).Ahead caller array cell →
        state.devices.arrays array cell = some deleted → deleted = caller

theorem sound_created (max_devices : ℕ) : (created max_devices : DeviceAccess Thread).Sound where
  guards := fun _ => iff_of_false id (Option.some_ne_none _ ∘ Eq.symm)
  distinct := ArrayList.distinct_empty
  listed := fun _ holds => absurd holds ArrayList.not_holds_empty
  owned := fun _ _ => nofun
  unshared := fun _ _ _ => nofun
  deleted := fun _ => nofun

theorem unread_created (max_devices : ℕ) : (created max_devices : DeviceAccess Thread).Unread :=
  fun _ _ _ _ _ => False.elim

theorem Sound.not_deleted {state : DeviceAccess Thread} (sound : state.Sound)
    {device : ℕ} (holds : state.devices.Holds device) : device ∉ state.deleted :=
  (sound.listed device holds).2

section Invariant

variable [DecidableEq Thread] {state next : DeviceAccess Thread} {thread other : Thread}
  {point : AccessPoint} {device : ℕ}

theorem Sound.walk (sound : state.Sound)
    (owned : ∀ device, point.owned = some device → (state.points thread).owned = some device)
    (device_mutex : Option Thread) (backup_peers : List ℕ)
    (guards : Guards AccessPoint.Inside device_mutex
      (Function.update state.points thread point)) :
    Sound { state.moved thread point with device_mutex, backup_peers } := by
  exact {
    guards
    distinct := sound.distinct
    listed := sound.listed
    owned := fun other device has => sound.owned other device (owned_of_kept owned has)
    unshared := sound.unshared.keep owned
    deleted := sound.deleted }

theorem Sound.construct (sound : state.Sound) (at_ : state.points thread = .constructing) :
    Sound { state.moved thread (.constructed state.constructed) with
      constructed := state.constructed + 1 } where
  guards := sound.guards.stay (at_ ▸ Iff.rfl)
  distinct := sound.distinct
  listed := fun device holds =>
    ⟨Nat.lt_succ_of_lt (sound.listed device holds).1, (sound.listed device holds).2⟩
  owned := by
    intro other device has
    rcases owned_of_update has with ⟨-, new⟩ | ⟨-, has⟩
    · cases new
      exact ⟨Nat.lt_succ_self _, fun holds => (sound.listed _ holds).1.false,
        fun gone => (sound.deleted _ gone).false⟩
    · rcases sound.owned other device has with ⟨known, absent, present⟩
      exact ⟨Nat.lt_succ_of_lt known, absent, present⟩
  unshared := by
    apply sound.unshared.take
    rintro _ ⟨⟩ other has
    exact absurd (sound.owned other _ has).1 (lt_irrefl _)
  deleted := fun device gone => Nat.lt_succ_of_lt (sound.deleted device gone)

theorem Sound.push_back (sound : state.Sound) (at_ : state.points thread = .guarding device) :
    Sound { state.moved thread (.inserted device) with
      devices := state.devices.push_back device } := by
  have mine : (state.points thread).owned = some device := by rw [at_]; rfl
  rcases sound.owned thread device mine with ⟨known, absent, present⟩
  exact {
    guards := sound.guards.stay (at_ ▸ Iff.rfl)
    distinct := sound.distinct.push_back absent
    listed := by
      intro other holds
      rcases ArrayList.holds_of_push_back holds with holds | rfl
      · exact sound.listed other holds
      · exact ⟨known, present⟩
    owned := by
      intro other theirs has
      rcases owned_of_update has with ⟨-, new⟩ | ⟨different, old⟩
      · cases new
      · rcases sound.owned other theirs old with ⟨theirKnown, theirAbsent, theirPresent⟩
        refine ⟨theirKnown, ?_, theirPresent⟩
        intro holds
        rcases ArrayList.holds_of_push_back holds with holds | rfl
        · exact theirAbsent holds
        · exact different (sound.unshared other thread _ old mine)
    unshared := sound.unshared.take fun _ => nofun
    deleted := sound.deleted }

theorem Sound.erase (sound : state.Sound) {by_start : Bool} {position : ℕ}
    (at_ : state.points thread = .stopped device by_start)
    (found : state.devices.find device = some position) :
    Sound { state.moved thread (.erased device by_start) with
      devices := state.devices.erase position } := by
  rcases ArrayList.find_eq_some found with ⟨within, stored⟩
  have before {other : ℕ} (holds : (state.devices.erase position).Holds other) :
      state.devices.Holds other ∧ other ≠ device :=
    ArrayList.holds_of_erase sound.distinct within stored holds
  have holds : state.devices.Holds device := ⟨position, within, stored⟩
  exact {
    guards := sound.guards.stay (at_ ▸ Iff.rfl)
    distinct := sound.distinct.erase
    listed := fun other holds => sound.listed other (before holds).1
    owned := by
      intro other theirs has
      rcases owned_of_update has with ⟨-, new⟩ | ⟨-, old⟩
      · cases new
        exact ⟨(sound.listed _ holds).1, fun still => (before still).2 rfl,
          (sound.listed _ holds).2⟩
      · rcases sound.owned other theirs old with ⟨known, absent, present⟩
        exact ⟨known, fun still => absent (before still).1, present⟩
    unshared := by
      apply sound.unshared.take
      rintro _ ⟨⟩ other has
      exact absurd holds (sound.owned other _ has).2.1
    deleted := sound.deleted }

theorem Sound.delete (sound : state.Sound) {by_start : Bool}
    (at_ : state.points thread = .erased device by_start) :
    Sound { state.moved thread (.removed by_start) with deleted := device :: state.deleted } := by
  have mine : (state.points thread).owned = some device := by rw [at_]; rfl
  rcases sound.owned thread device mine with ⟨known, absent, -⟩
  exact {
    guards := sound.guards.stay (at_ ▸ Iff.rfl)
    distinct := sound.distinct
    listed := by
      intro other holds
      have different : other ≠ device := by
        rintro rfl
        exact absent holds
      exact ⟨(sound.listed other holds).1,
        List.not_mem_cons_of_ne_of_not_mem different (sound.listed other holds).2⟩
    owned := by
      intro other theirs has
      rcases owned_of_update has with ⟨-, new⟩ | ⟨different, old⟩
      · cases new
      · rcases sound.owned other theirs old with ⟨theirKnown, theirAbsent, theirPresent⟩
        have unequal : theirs ≠ device := by
          rintro rfl
          exact different (sound.unshared other thread _ old mine)
        exact ⟨theirKnown, theirAbsent, List.not_mem_cons_of_ne_of_not_mem unequal theirPresent⟩
    unshared := sound.unshared.take fun _ => nofun
    deleted := List.forall_mem_cons.mpr ⟨known, sound.deleted⟩ }

/-- The invariant is kept as long as the mutex is released by its holder. -/
theorem Sound.step {event : AccessEvent Thread} (sound : state.Sound)
    (respected : state.Respected event) (performed : state.step event = some next) :
    next.Sound := by
  have effect := effect_of_step performed
  rw [Respected] at respected
  generalize event.releases = releases at effect respected
  generalize event.deletes = deletes at effect
  cases effect with
  | move thread point backup_peers inside owned ahead =>
      exact sound.walk owned state.device_mutex backup_peers (sound.guards.stay inside)
  | acquire thread point free inside owned ahead =>
      have guards := sound.guards
      rw [free] at guards
      exact sound.walk owned (some thread) state.backup_peers (guards.acquire inside)
  | release thread point inside outside owned ahead =>
      have guards := sound.guards
      rw [respected thread rfl] at guards
      refine sound.walk ?_ none state.backup_peers (guards.release outside)
      simp [owned]
  | construct thread at_ => exact sound.construct at_
  | push_back thread device at_ => exact sound.push_back at_
  | erase thread device by_start position at_ found => exact sound.erase at_ found
  | delete thread device by_start at_ => exact sound.delete at_

/-- A release is made by the holder exactly if it is not the second one. -/
theorem respected_iff {event : AccessEvent Thread} (sound : state.Sound)
    (performed : state.step event = some next) :
    state.Respected event ↔
      ∀ thread, event.releases = some thread → state.points thread ≠ .leaving := by
  have effect := effect_of_step performed
  rw [Respected]
  generalize event.releases = releases at effect
  generalize event.deletes = deletes at effect
  cases effect with
  | release thread point inside outside owned ahead =>
      simp only [Option.some_inj, forall_eq', ← sound.guards thread]
      constructor
      · intro held leaves
        rw [leaves] at held
        exact held
      · exact inside.resolve_right
  | _ => simp

theorem ahead_of_moved {caller array cell : ℕ}
    (nothing : ∀ caller array cell, ¬point.Ahead caller array cell)
    (ahead : (Function.update state.points thread point other).Ahead caller array cell) :
    other ≠ thread ∧ (state.points other).Ahead caller array cell := by
  by_cases same : other = thread
  · rw [same, Function.update_self] at ahead
    exact absurd ahead (nothing caller array cell)
  · rw [Function.update_of_ne same] at ahead
    exact ⟨same, ahead⟩

theorem Unread.step {releases : Option Thread} (sound : state.Sound) (unread : state.Unread)
    (effect : Effect state releases none next) : next.Unread := by
  intro other caller array cell device isAhead stored notCaller
  cases effect with
  | move thread point backup_peers inside owned ahead =>
      by_cases same : other = thread
      · have pointAhead : point.Ahead caller array cell := by
          simpa only [moved, same, Function.update_self] using isAhead
        rcases ahead caller array cell pointAhead with before | ⟨current, within⟩
        · exact unread thread caller array cell device before stored notCaller
        · rw [current] at stored
          exact sound.not_deleted ⟨cell, within, stored⟩
      · have before : (state.points other).Ahead caller array cell := by
          simpa only [moved, Function.update_of_ne same] using isAhead
        exact unread other caller array cell device before stored notCaller
  | acquire thread point free inside owned ahead =>
      exact unread other caller array cell device (ahead_of_moved ahead isAhead).2 stored notCaller
  | release thread point inside outside owned ahead =>
      exact unread other caller array cell device (ahead_of_moved ahead isAhead).2 stored notCaller
  | construct thread at_ =>
      have before := ahead_of_moved (fun _ _ _ => id) isAhead
      exact unread other caller array cell device before.2 stored notCaller
  | push_back thread pushed at_ =>
      have before := ahead_of_moved (fun _ _ _ => id) isAhead
      rcases ArrayList.arrays_push_back stored with old | holds | rfl
      · exact unread other caller array cell device before.2 old notCaller
      · exact sound.not_deleted holds
      · exact (sound.owned thread device (at_ ▸ rfl)).2.2
  | erase thread erased by_start position at_ found =>
      have before := ahead_of_moved (fun _ _ _ => id) isAhead
      rcases ArrayList.arrays_erase stored with old | holds
      · exact unread other caller array cell device before.2 old notCaller
      · exact sound.not_deleted holds

/-- A step keeps the devices that have still to be read exactly if it deletes none of them. -/
theorem unread_iff {event : AccessEvent Thread} (sound : state.Sound) (unread : state.Unread)
    (performed : state.step event = some next) :
    next.Unread ↔
      ∀ deleted, event.deletes = some deleted → ∀ thread caller array cell,
        (state.points thread).Ahead caller array cell →
          state.devices.arrays array cell = some deleted → deleted = caller := by
  have effect := effect_of_step performed
  generalize event.releases = releases at effect
  generalize event.deletes = deletes at effect
  cases deletes with
  | none => exact iff_of_true (unread.step sound effect) fun _ => nofun
  | some deleted =>
      cases effect with
      | delete thread _ by_start at_ =>
          simp only [Option.some_inj, forall_eq']
          constructor
          · intro kept other caller array cell ahead stored
            by_contra notCaller
            have different : other ≠ thread := by
              rintro rfl
              rw [at_] at ahead
              exact ahead
            have still : (Function.update state.points thread (.removed by_start) other).Ahead
                caller array cell := by
              rwa [Function.update_of_ne different]
            exact kept other caller array cell deleted still stored notCaller List.mem_cons_self
          · intro spared other caller array cell device ahead stored notCaller
            have before := ahead_of_moved (fun _ _ _ => id) ahead
            refine List.not_mem_cons_of_ne_of_not_mem ?_
              (unread other caller array cell device before.2 stored notCaller)
            rintro rfl
            exact notCaller (spared other caller array cell before.2 stored)

end Invariant

/-! ### The calls of `sendPushTo` -/

end DeviceAccess

/-- The event belongs to a call of `handle_new_push` that goes through the list. -/
def AccessEvent.Iterates {Thread : Type*} : AccessEvent Thread → Prop
  | iterate _ _ _ _ _ => True
  | _ => False

namespace DeviceAccess

variable {Thread : Type*}

theorem sendsTo_eq_some {state : DeviceAccess Thread} {thread : Thread} {device : ℕ}
    (sends : state.sendsTo thread = some device) :
    ∃ caller array cell, (state.points thread).Ahead caller array cell ∧
      state.devices.arrays array cell = some device ∧ device ≠ caller := by
  rw [sendsTo] at sends
  split at sends
  · rename_i caller array index stop at_
    split_ifs at sends with within
    rcases Option.filter_eq_some_iff.mp sends with ⟨stored, notCaller⟩
    rw [at_]
    exact ⟨caller, array, index, ⟨rfl, rfl, le_rfl, within⟩, stored, of_decide_eq_true notCaller⟩
  · cases sends

variable [DecidableEq Thread]

/-- The second state is reached from the first one by going through the list. -/
abbrev Iteration : DeviceAccess Thread → DeviceAccess Thread → Prop :=
  Reachable step fun _ event => event.Iterates

/-- `sendPushTo` is not called on a deleted device, also if the loops that have begun go on. -/
def SendsToPresent (state : DeviceAccess Thread) : Prop :=
  ∀ final, Iteration state final → ∀ thread device, final.sendsTo thread = some device →
    device ∉ final.deleted

section Sends

variable {state next : DeviceAccess Thread} {thread : Thread} {caller array index stop : ℕ}

theorem Unread.iterate (unread : state.Unread)
    (performed : state.step (.iterate thread caller array index stop) = some next) :
    next.Unread := by
  rcases atPoint_eq_some.mp performed with ⟨at_, performed⟩
  intro other for_caller read cell device ahead stored notCaller
  split at performed
  · cases performed
    by_cases same : other = thread
    · subst same
      simp only [moved, Function.update_self] at ahead
      rcases ahead with ⟨rfl, rfl, after, within⟩
      refine unread other _ _ cell device ?_ stored notCaller
      rw [at_]
      exact ⟨rfl, rfl, by omega, within⟩
    · simp only [moved, Function.update_of_ne same] at ahead
      exact unread other for_caller read cell device ahead stored notCaller
  · cases performed
    have before := ahead_of_moved (fun _ _ _ => id) ahead
    exact unread other for_caller read cell device before.2 stored notCaller

/-- A loop can go on to any cell that it has still to read. -/
theorem exists_reading (at_ : state.points thread = .iterating caller array index stop) {count : ℕ}
    (within : index + count < stop) :
    ∃ final, Iteration state final ∧
      final.points thread = .iterating caller array (index + count) stop ∧
      final.devices = state.devices ∧ final.deleted = state.deleted := by
  induction count with
  | zero => exact ⟨state, .start, at_, rfl, rfl⟩
  | succ count ih =>
      rcases ih (by omega) with ⟨middle, reached, middleAt, sameDevices, sameDeleted⟩
      have moves : middle.step (.iterate thread caller array (index + count) stop) =
          some (middle.moved thread (.iterating caller array (index + count + 1) stop)) := by
        rw [step, atPoint, if_pos middleAt, if_pos (by omega)]
      have iterates : (AccessEvent.iterate thread caller array (index + count) stop).Iterates :=
        trivial
      exact ⟨_, .step reached iterates moves, Function.update_self .., sameDevices, sameDeleted⟩

theorem unread_iff_sendsToPresent : state.Unread ↔ state.SendsToPresent := by
  constructor
  · intro unread final reached thread device sends
    have finalUnread : final.Unread := by
      apply reached.invariant
      · exact unread
      · intro before event after beforeUnread iterates performed
        cases event with
        | iterate => exact beforeUnread.iterate performed
        | _ => exact iterates.elim
    rcases sendsTo_eq_some sends with ⟨caller, array, cell, ahead, stored, notCaller⟩
    exact finalUnread thread caller array cell device ahead stored notCaller
  · intro present thread caller array cell device ahead stored notCaller
    cases at_ : state.points thread with
    | iterating iterating_for read index stop =>
        rw [at_] at ahead
        rcases ahead with ⟨rfl, rfl, after, within⟩
        obtain ⟨count, rfl⟩ := Nat.exists_eq_add_of_le after
        rcases exists_reading at_ within with ⟨final, reached, finalAt, devices, deleted⟩
        have sends : final.sendsTo thread = some device := by
          simp only [sendsTo, finalAt, if_pos within, devices, stored]
          simp [notCaller]
        exact deleted ▸ present final reached thread device sends
    | _ =>
        rw [at_] at ahead
        exact ahead.elim

end Sends

/-! ### The runs with exclusive access -/

def AtMostOneInside (state : DeviceAccess Thread) : Prop :=
  ∀ first second, (state.points first).Inside → (state.points second).Inside → first = second

/-- In a run of a manager, every release of the mutex is made by its holder, at most one thread is
inside, and `sendPushTo` is not called on a deleted device, exactly if no `lock_guard` is destroyed
after an explicit `unlock` and no device is deleted that a loop has still to read. -/
theorem exclusive_iff (max_devices : ℕ) {events : List (AccessEvent Thread)}
    {last : DeviceAccess Thread} (performed : run step (created max_devices) events = some last) :
    ((∀ state ∈ visited step (created max_devices) events,
        state.AtMostOneInside ∧ state.SendsToPresent) ∧
      Permits step Respected (created max_devices) events) ↔
      Permits step Admissible (created max_devices) events := by
  have alone {state : DeviceAccess Thread} (sound : state.Sound) : state.AtMostOneInside :=
    fun _ _ => sound.guards.unique
  have stable : ∀ (state : DeviceAccess Thread) event next, state.Sound → state.Respected event →
      state.step event = some next → next.Sound :=
    fun state event next sound respected moves => sound.step respected moves
  have kept : ∀ (state : DeviceAccess Thread) event next, state.Sound →
      state.AtMostOneInside ∧ state.SendsToPresent → state.step event = some next →
      (state.Respected event ∧ next.AtMostOneInside ∧ next.SendsToPresent ↔
        state.Admissible event) := by
    rintro state event next sound ⟨-, present⟩ moves
    have unread := unread_iff_sendsToPresent.mpr present
    rw [Admissible, ← respected_iff sound moves, ← unread_iff sound unread moves,
      ← unread_iff_sendsToPresent]
    refine and_congr_right fun respected => and_iff_right ?_
    exact alone (sound.step respected moves)
  exact visited_and_permits_iff stable kept (sound_created max_devices)
    ⟨alone (sound_created max_devices),
      unread_iff_sendsToPresent.mp (unread_created max_devices)⟩ performed

/-- A device is inserted while another thread goes through the list. -/
theorem exclusive_iff_inserted :
    ∃ last, run step (created 2) [.connect 0, .construct 0, .guard 0 0, .handle_new_push 1 7,
        .push_back 0 0, .iterate 1 7 0 0 0, .unlock 0 0] = some last ∧
      Permits step Respected (created 2) [.connect 0, .construct 0, .guard 0 0,
        .handle_new_push 1 7, .push_back 0 0, .iterate 1 7 0 0 0, .unlock 0 0] := by
  refine ⟨_, rfl, ((exclusive_iff 2 rfl).mpr ?_).2⟩
  simp [Permits, Admissible, AccessEvent.releases, AccessEvent.deletes, step, atPoint, acquired,
    moved, created, ArrayList.empty]

def inserting (thread device : ℕ) : List (AccessEvent ℕ) :=
  [.connect thread, .construct thread, .guard thread device, .push_back thread device,
    .unlock thread device]

/-- `start` leaves the call and removes its device. -/
def finishing (thread device : ℕ) : List (AccessEvent ℕ) :=
  [.finish thread device, .guardRemove thread device true, .stop thread device true,
    .erase thread device true, .delete thread device true, .destroyGuard thread]

/-- A call of `handle_new_connection` that returns releases the mutex that another one holds, so
that a third thread enters; and a loop over two devices reads the second one after it has been
deleted. -/
theorem two_inside_and_deleted_read :
    (run step (created 2) (inserting 0 0 ++ finishing 0 0 ++
        [.connect 1, .construct 1, .guard 1 1, .destroyGuard 0, .add_new_backup 2 7,
          .guardPeer 2 7])).map (fun state => (state.points 1, state.points 2)) =
      some (.guarding 1, .guardingPeer 7) ∧
    (run step (created 2) (inserting 0 0 ++ inserting 1 1 ++
        [.handle_new_push 2 0, .iterate 2 0 2 0 2] ++ finishing 1 1)).map
          (fun state => (state.sendsTo 2, state.deleted)) =
      some (some 1, [1]) := by
  decide

end DeviceAccess

end ClientManager

end SyncDir
