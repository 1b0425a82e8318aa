import SyncDir.Library.Transition

/-!
# The device limit of a client manager

`handle_new_connection` runs in a thread of its own for each connection.  It
tests the number of devices, constructs a `Device`, which includes a handshake
with the client, and only then inserts it.  The mutex is held for the insertion
alone, so that any number of calls can pass the test before one of them inserts
its device, and since the test is for equality a list that has become too long
is never refused again.

The number that has to stay below the limit is that of the devices together with
the calls between their test and their insertion.
-/

namespace SyncDir

namespace ClientManager

open Transition

/-- `MAX_DEVICES`, the limit that the constructor of a manager stores. -/
def MAX_DEVICES : ℕ := 2

/-- The device list of a manager, and the calls of `handle_new_connection` that have passed their
test: by their socket while they construct a device, and by the device after that. -/
structure DeviceList where
  max_devices : ℕ
  devices : List ℕ
  constructing : List ℕ
  constructed : List ℕ
  deriving DecidableEq

inductive DeviceEvent
  | test (socket : ℕ)
  | construct (socket device : ℕ)
  /-- The constructor throws, for example because the client is gone. -/
  | constructFails (socket : ℕ)
  | push_back (device : ℕ)
  | erase (device : ℕ)

/-- The event belongs to a call that has already passed its test. -/
def DeviceEvent.Completes : DeviceEvent → Prop
  | .construct _ _ | .push_back _ => True
  | .test _ | .constructFails _ | .erase _ => False

namespace DeviceList

def created : DeviceList :=
  { max_devices := MAX_DEVICES, devices := [], constructing := [], constructed := [] }

def step (state : DeviceList) : DeviceEvent → Option DeviceList
  | .test socket =>
      if state.devices.length = state.max_devices then some state
      else some { state with constructing := socket :: state.constructing }
  | .construct socket device =>
      if socket ∈ state.constructing then
        some { state with
          constructing := state.constructing.erase socket
          constructed := device :: state.constructed }
      else none
  | .constructFails socket =>
      if socket ∈ state.constructing then
        some { state with constructing := state.constructing.erase socket }
      else none
  | .push_back device =>
      if device ∈ state.constructed then
        some { state with
          devices := state.devices ++ [device]
          constructed := state.constructed.erase device }
      else none
  | .erase device => some { state with devices := state.devices.erase device }

/-- The second state is reached from the first one by completing calls that have passed the test. -/
abbrev Completion : DeviceList → DeviceList → Prop :=
  Reachable step fun _ event => event.Completes

def pending (state : DeviceList) : ℕ :=
  state.constructing.length + state.constructed.length

def Bounded (state : DeviceList) : Prop :=
  state.devices.length + state.pending ≤ state.max_devices

/-- A test that is passed leaves room for the calls that have passed it before. -/
def Admissible (state : DeviceList) : DeviceEvent → Prop
  | .test _ => state.devices.length ≠ state.max_devices →
      state.devices.length + state.pending < state.max_devices
  | _ => True

theorem bounded_step_iff {state next : DeviceList} {event : DeviceEvent}
    (bounded : state.Bounded) (performed : state.step event = some next) :
    next.Bounded ↔ state.Admissible event := by
  cases event with
  | test socket =>
      simp only [step] at performed
      split at performed
      · rename_i full
        simp only [Option.some.injEq] at performed
        subst performed
        refine iff_of_true bounded ?_
        intro open_
        exact absurd full open_
      · rename_i open_
        simp only [Option.some.injEq] at performed
        subst performed
        simp only [Bounded, Admissible, pending, List.length_cons]
        omega
  | construct socket device =>
      simp only [step, Option.ite_none_right_eq_some, Option.some.injEq] at performed
      rcases performed with ⟨present, rfl⟩
      have shorter := List.length_erase_of_mem present
      have nonempty := List.length_pos_of_mem present
      refine iff_of_true ?_ trivial
      simp only [Bounded, pending, List.length_cons] at bounded ⊢
      omega
  | constructFails socket =>
      simp only [step, Option.ite_none_right_eq_some, Option.some.injEq] at performed
      rcases performed with ⟨present, rfl⟩
      have shorter := List.length_erase_of_mem present
      refine iff_of_true ?_ trivial
      simp only [Bounded, pending] at bounded ⊢
      omega
  | push_back device =>
      simp only [step, Option.ite_none_right_eq_some, Option.some.injEq] at performed
      rcases performed with ⟨present, rfl⟩
      have shorter := List.length_erase_of_mem present
      have nonempty := List.length_pos_of_mem present
      refine iff_of_true ?_ trivial
      simp only [Bounded, pending, List.length_append, List.length_singleton] at bounded ⊢
      omega
  | erase device =>
      simp only [step, Option.some.injEq] at performed
      subst performed
      have shorter := List.length_erase_le (a := device) (l := state.devices)
      refine iff_of_true ?_ trivial
      simp only [Bounded, pending] at bounded ⊢
      omega

/-! ### Completing the pending calls -/

theorem exists_constructed (state : DeviceList) :
    ∃ next, Completion state next ∧
      next.max_devices = state.max_devices ∧ next.devices = state.devices ∧
      next.constructing = [] ∧ next.constructed.length = state.pending := by
  induction sockets : state.constructing generalizing state with
  | nil => exact ⟨state, .start, rfl, rfl, sockets, by simp [pending, sockets]⟩
  | cons socket rest ih =>
      have performed : state.step (.construct socket 0) =
          some { state with constructing := rest, constructed := 0 :: state.constructed } := by
        simp [step, sockets]
      rcases ih { state with constructing := rest, constructed := 0 :: state.constructed } rfl with
        ⟨next, reached, sameMax, sameDevices, done, all⟩
      have first : Completion state _ := .single performed trivial
      refine ⟨next, first.trans reached, sameMax, sameDevices, done, ?_⟩
      simp only [all, pending, sockets, List.length_cons]
      omega

theorem exists_inserted (state : DeviceList) :
    ∃ next, Completion state next ∧
      next.max_devices = state.max_devices ∧
      next.devices.length = state.devices.length + state.constructed.length := by
  induction waiting : state.constructed generalizing state with
  | nil => exact ⟨state, .start, rfl, by simp⟩
  | cons device rest ih =>
      have performed : state.step (.push_back device) =
          some { state with devices := state.devices ++ [device], constructed := rest } := by
        simp [step, waiting]
      rcases ih { state with devices := state.devices ++ [device], constructed := rest } rfl with
        ⟨next, reached, sameMax, all⟩
      have first : Completion state _ := .single performed trivial
      refine ⟨next, first.trans reached, sameMax, ?_⟩
      rw [all, List.length_append, List.length_singleton, List.length_cons]
      omega

/-- A state is bounded exactly if the limit is kept when the pending calls are completed. -/
theorem bounded_iff {state : DeviceList} :
    state.Bounded ↔ ∀ final, Completion state final →
      final.devices.length ≤ final.max_devices := by
  constructor
  · intro bounded final reached
    have finalBounded : final.Bounded := by
      apply reached.invariant
      · exact bounded
      · intro before event after beforeBounded completes performed
        apply (bounded_step_iff beforeBounded performed).mpr
        cases event with
        | test => exact completes.elim
        | construct | constructFails | push_back | erase => trivial
    exact le_trans (Nat.le_add_right _ _) finalBounded
  · intro kept
    rcases exists_constructed state with ⟨middle, constructed, sameMax, same, -, count⟩
    rcases exists_inserted middle with ⟨final, inserted, finalMax, total⟩
    have within := kept final (constructed.trans inserted)
    rw [total, finalMax, sameMax, same, count] at within
    exact within

/-- In a run of a manager, the number of devices stays within the limit, also if the pending calls
are completed from any state of the run, exactly if every test that is passed leaves room for the
calls that have passed it before. -/
theorem devices_le_iff {events : List DeviceEvent} {last : DeviceList}
    (performed : run step created events = some last) :
    (∀ state ∈ visited step created events, ∀ final, Completion state final →
      final.devices.length ≤ final.max_devices) ↔
      Permits step Admissible created events := by
  have kept : (∀ state ∈ visited step created events, state.Bounded) ↔
      Permits step Admissible created events := by
    apply visited_iff_permits _ _ performed
    · intro state event next bounded performed
      exact bounded_step_iff bounded performed
    · exact Nat.zero_le _
  rw [← kept]
  apply forall₂_congr
  intro state _
  exact bounded_iff.symm

/-- A third connection is refused when the first two have been inserted. -/
theorem devices_le_iff_refused :
    ∃ last, run step created [.test 4, .construct 4 1, .push_back 1, .test 5, .construct 5 2,
        .push_back 2, .test 6] = some last ∧
      ∀ state ∈ visited step created [.test 4, .construct 4 1, .push_back 1, .test 5,
        .construct 5 2, .push_back 2, .test 6], ∀ final, Completion state final →
        final.devices.length ≤ final.max_devices := by
  refine ⟨_, rfl, (devices_le_iff rfl).mpr ?_⟩
  simp [Permits, Admissible, step, created, pending, MAX_DEVICES]

/-- Three connections pass the test before the first of them is inserted. -/
theorem devices_gt_of_overlap :
    (run step created [.test 4, .test 5, .test 6, .construct 4 1, .construct 5 2, .construct 6 3,
        .push_back 1, .push_back 2, .push_back 3]).map
      (fun state => (state.devices, state.max_devices)) = some ([1, 2, 3], 2) := by
  decide

end DeviceList

end ClientManager

end SyncDir
