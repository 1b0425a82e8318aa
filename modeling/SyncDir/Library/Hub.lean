import Mathlib.Logic.Function.Basic
import SyncDir.Library.Transition

/-!
# A hub with devices

A hub keeps a store and is connected to any number of devices, each with a
store of its own and two FIFO channels: `up` to the hub and `down` from it.  A
device edits its store and announces the edit; the hub serves one announcement
at a time and may forward it to all other devices; a device absorbs one
forwarded message at a time and may echo messages back to the hub.

What the hub and the devices do with a message is a parameter, so that a
program's own reactions and an abstract description of them can be run by the
same machine.  An `Agreement` states that two such sets of reactions are equal on
the stores and messages that matter, and transfers runs between them.
-/

namespace Hub

universe u v w

/-- How the hub and the devices react to a message. -/
structure Reactions (Store : Type u) (Message : Type v) where
  /-- The hub's store after serving a message, and whether the message is forwarded. -/
  serve : Store → Message → Store × Bool
  /-- A device's store after a forwarded message, and what the device sends back. -/
  absorb : Store → Message → Store × List Message
  /-- A device's store after the edit that a message announces, if the edit is possible. -/
  edit : Store → Message → Option Store

/-- A message on its way to the hub. -/
structure Upload (Message : Type v) where
  message : Message
  /-- The message was sent because a forwarded message was absorbed, not because of an edit. -/
  echo : Bool
  deriving DecidableEq

structure State (Device : Type w) (Store : Type u) (Message : Type v) where
  server : Store
  device : Device → Store
  up : Device → List (Upload Message)
  down : Device → List Message

inductive Event (Device : Type w) (Message : Type v)
  | edit (device : Device) (message : Message)
  | serve (device : Device)
  | absorb (device : Device)

def Event.IsEdit {Device : Type w} {Message : Type v} : Event Device Message → Prop
  | .edit _ _ => True
  | .serve _ | .absorb _ => False

variable {Device : Type w} {Store : Type u} {Message : Type v}

namespace State

/-- All stores are equal and nothing is in flight. -/
def synced (store : Store) : State Device Store Message :=
  { server := store, device := fun _ => store, up := fun _ => [], down := fun _ => [] }

def Quiescent (state : State Device Store Message) : Prop :=
  ∀ device, state.up device = [] ∧ state.down device = []

def InFlight (state : State Device Store Message) (message : Message) : Prop :=
  ∃ device, message ∈ (state.up device).map Upload.message ∨ message ∈ state.down device

variable [DecidableEq Device]

/-- A device has changed its store to `store` and announces `message`. -/
def edited (state : State Device Store Message) (device : Device) (message : Message)
    (store : Store) : State Device Store Message :=
  { state with
    device := Function.update state.device device store
    up := Function.update state.up device (state.up device ++ [⟨message, false⟩]) }

/-- What is pushed to a device: a forwarded message goes to all devices but its sender. -/
def pushed (forwarded : Bool) (sender : Device) (message : Message) (other : Device) :
    List Message :=
  if forwarded = true ∧ other ≠ sender then [message] else []

/-- The hub has served the first upload of a device; `waiting` are the later ones. -/
def served (reactions : Reactions Store Message) (state : State Device Store Message)
    (device : Device) (message : Message) (waiting : List (Upload Message)) :
    State Device Store Message :=
  { state with
    server := (reactions.serve state.server message).1
    up := Function.update state.up device waiting
    down := fun other => state.down other ++
      pushed (reactions.serve state.server message).2 device message other }

/-- A device has absorbed the first message of its down channel. -/
def absorbed (reactions : Reactions Store Message) (state : State Device Store Message)
    (device : Device) (message : Message) (waiting : List Message) :
    State Device Store Message :=
  { state with
    device := Function.update state.device device
      (reactions.absorb (state.device device) message).1
    up := Function.update state.up device (state.up device ++
      (reactions.absorb (state.device device) message).2.map fun echo => ⟨echo, true⟩)
    down := Function.update state.down device waiting }

end State

variable [DecidableEq Device]

def step (reactions : Reactions Store Message) (state : State Device Store Message) :
    Event Device Message → Option (State Device Store Message)
  | .edit device message =>
      (reactions.edit (state.device device) message).map (state.edited device message)
  | .serve device =>
      match state.up device with
      | [] => none
      | upload :: waiting => some (state.served reactions device upload.message waiting)
  | .absorb device =>
      match state.down device with
      | [] => none
      | message :: waiting => some (state.absorbed reactions device message waiting)

section Inversion

variable {reactions : Reactions Store Message} {state next : State Device Store Message}
  {device : Device}

theorem step_edit_eq_some {message : Message} :
    step reactions state (.edit device message) = some next ↔
      ∃ store, reactions.edit (state.device device) message = some store ∧
        state.edited device message store = next := by
  simp [step]

theorem step_serve_eq_some :
    step reactions state (.serve device) = some next ↔
      ∃ upload waiting, state.up device = upload :: waiting ∧
        state.served reactions device upload.message waiting = next := by
  cases found : state.up device <;> simp [step, found]

theorem step_absorb_eq_some :
    step reactions state (.absorb device) = some next ↔
      ∃ message waiting, state.down device = message :: waiting ∧
        state.absorbed reactions device message waiting = next := by
  cases found : state.down device <;> simp [step, found]

end Inversion

/-! ### Messages in flight -/

section InFlight

variable {state : State Device Store Message} {device : Device} {message : Message}

theorem mem_pushed {forwarded : Bool} {sender : Device} {sent : Message} :
    message ∈ State.pushed forwarded sender sent device ↔
      message = sent ∧ forwarded = true ∧ device ≠ sender := by
  unfold State.pushed
  split <;> simp_all

theorem inFlight_edited {edit : Message} {store : Store}
    (inFlight : (state.edited device edit store).InFlight message) :
    state.InFlight message ∨ message = edit := by
  rcases inFlight with ⟨other, waiting | waiting⟩
  · by_cases same : other = device
    · subst other
      simp only [State.edited, Function.update_self, List.map_append, List.mem_append,
        List.map_cons, List.map_nil, List.mem_singleton] at waiting
      exact waiting.imp_left fun old => ⟨device, Or.inl old⟩
    · exact Or.inl ⟨other, Or.inl (by simpa [State.edited, same] using waiting)⟩
  · exact Or.inl ⟨other, Or.inr waiting⟩

theorem inFlight_served {reactions : Reactions Store Message} {upload : Upload Message}
    {rest : List (Upload Message)} (first : state.up device = upload :: rest)
    (inFlight : (state.served reactions device upload.message rest).InFlight message) :
    state.InFlight message := by
  have upload_inFlight : state.InFlight upload.message := ⟨device, Or.inl (by simp [first])⟩
  rcases inFlight with ⟨other, waiting | waiting⟩
  · by_cases same : other = device
    · subst other
      simp only [State.served, Function.update_self] at waiting
      exact ⟨device, Or.inl (by rw [first]; exact List.mem_cons_of_mem _ waiting)⟩
    · exact ⟨other, Or.inl (by simpa [State.served, same] using waiting)⟩
  · rcases List.mem_append.mp waiting with old | new
    · exact ⟨other, Or.inr old⟩
    · rcases mem_pushed.mp new with ⟨rfl, -⟩
      exact upload_inFlight

theorem inFlight_absorbed {reactions : Reactions Store Message} {head : Message}
    {rest : List Message} (first : state.down device = head :: rest)
    (inFlight : (state.absorbed reactions device head rest).InFlight message) :
    state.InFlight message ∨ message ∈ (reactions.absorb (state.device device) head).2 := by
  rcases inFlight with ⟨other, waiting | waiting⟩
  · by_cases same : other = device
    · subst other
      simp only [State.absorbed, Function.update_self, List.map_append, List.mem_append,
        List.map_map, Function.comp_def, List.map_id'] at waiting
      exact waiting.imp_left fun old => ⟨device, Or.inl old⟩
    · exact Or.inl ⟨other, Or.inl (by simpa [State.absorbed, same] using waiting)⟩
  · by_cases same : other = device
    · subst other
      simp only [State.absorbed, Function.update_self] at waiting
      exact Or.inl ⟨device, Or.inr (by rw [first]; exact List.mem_cons_of_mem _ waiting)⟩
    · exact Or.inl ⟨other, Or.inr (by simpa [State.absorbed, same] using waiting)⟩

end InFlight

/-! ### Agreement of reactions -/

/-- On `good` stores and `permitted` messages, which the reactions do not leave, the concrete
reactions are the abstract ones. -/
structure Agreement (concrete abstract : Reactions Store Message) (good : Store → Prop)
    (permitted : Message → Prop) : Prop where
  serve_eq : ∀ store message, good store → permitted message →
    concrete.serve store message = abstract.serve store message
  serve_good : ∀ store message, good store → permitted message →
    good (concrete.serve store message).1
  absorb_eq : ∀ store message, good store → permitted message →
    concrete.absorb store message = abstract.absorb store message
  absorb_good : ∀ store message, good store → permitted message →
    good (concrete.absorb store message).1
  absorb_permitted : ∀ store message echo, good store → permitted message →
    echo ∈ (concrete.absorb store message).2 → permitted echo
  edit_eq : ∀ store message, good store → permitted message →
    concrete.edit store message = abstract.edit store message
  edit_good : ∀ store message edited, good store → permitted message →
    concrete.edit store message = some edited → good edited

structure State.Good (good : Store → Prop) (permitted : Message → Prop)
    (state : State Device Store Message) : Prop where
  server : good state.server
  device : ∀ device, good (state.device device)
  messages : ∀ message, state.InFlight message → permitted message

omit [DecidableEq Device] in
theorem State.Good.synced {good : Store → Prop} {permitted : Message → Prop} {store : Store}
    (good_store : good store) :
    (State.synced store : State Device Store Message).Good good permitted :=
  ⟨good_store, fun _ => good_store, by
    rintro message ⟨device, waiting | waiting⟩ <;> simp [State.synced] at waiting⟩

def Event.Permitted (permitted : Message → Prop) : Event Device Message → Prop
  | .edit _ message => permitted message
  | .serve _ | .absorb _ => True

namespace Agreement

variable {concrete abstract : Reactions Store Message} {good : Store → Prop}
  {permitted : Message → Prop} {state next : State Device Store Message}
  {event : Event Device Message}

theorem symm (agreement : Agreement concrete abstract good permitted) :
    Agreement abstract concrete good permitted where
  serve_eq store message store_good message_permitted :=
    (agreement.serve_eq store message store_good message_permitted).symm
  serve_good store message store_good message_permitted :=
    agreement.serve_eq store message store_good message_permitted ▸
      agreement.serve_good store message store_good message_permitted
  absorb_eq store message store_good message_permitted :=
    (agreement.absorb_eq store message store_good message_permitted).symm
  absorb_good store message store_good message_permitted :=
    agreement.absorb_eq store message store_good message_permitted ▸
      agreement.absorb_good store message store_good message_permitted
  absorb_permitted store message echo store_good message_permitted :=
    agreement.absorb_eq store message store_good message_permitted ▸
      agreement.absorb_permitted store message echo store_good message_permitted
  edit_eq store message store_good message_permitted :=
    (agreement.edit_eq store message store_good message_permitted).symm
  edit_good store message edited store_good message_permitted :=
    agreement.edit_eq store message store_good message_permitted ▸
      agreement.edit_good store message edited store_good message_permitted

theorem trans {third : Reactions Store Message} {alsoGood : Store → Prop}
    {alsoPermitted : Message → Prop} (first : Agreement concrete abstract good permitted)
    (second : Agreement abstract third alsoGood alsoPermitted) :
    Agreement concrete third (fun store => good store ∧ alsoGood store)
      (fun message => permitted message ∧ alsoPermitted message) where
  serve_eq store message store_good message_permitted :=
    (first.serve_eq store message store_good.1 message_permitted.1).trans
      (second.serve_eq store message store_good.2 message_permitted.2)
  serve_good store message store_good message_permitted :=
    ⟨first.serve_good store message store_good.1 message_permitted.1,
      first.serve_eq store message store_good.1 message_permitted.1 ▸
        second.serve_good store message store_good.2 message_permitted.2⟩
  absorb_eq store message store_good message_permitted :=
    (first.absorb_eq store message store_good.1 message_permitted.1).trans
      (second.absorb_eq store message store_good.2 message_permitted.2)
  absorb_good store message store_good message_permitted :=
    ⟨first.absorb_good store message store_good.1 message_permitted.1,
      first.absorb_eq store message store_good.1 message_permitted.1 ▸
        second.absorb_good store message store_good.2 message_permitted.2⟩
  absorb_permitted store message echo store_good message_permitted echoed :=
    ⟨first.absorb_permitted store message echo store_good.1 message_permitted.1 echoed,
      second.absorb_permitted store message echo store_good.2 message_permitted.2
        (first.absorb_eq store message store_good.1 message_permitted.1 ▸ echoed)⟩
  edit_eq store message store_good message_permitted :=
    (first.edit_eq store message store_good.1 message_permitted.1).trans
      (second.edit_eq store message store_good.2 message_permitted.2)
  edit_good store message edited store_good message_permitted possible :=
    ⟨first.edit_good store message edited store_good.1 message_permitted.1 possible,
      second.edit_good store message edited store_good.2 message_permitted.2
        (first.edit_eq store message store_good.1 message_permitted.1 ▸ possible)⟩

theorem step_eq (agreement : Agreement concrete abstract good permitted)
    (state_good : state.Good good permitted) (event_permitted : event.Permitted permitted) :
    step concrete state event = step abstract state event := by
  cases event with
  | edit device message =>
      simp only [step, agreement.edit_eq _ _ (state_good.device device) event_permitted]
  | serve device =>
      cases first : state.up device with
      | nil => simp only [step, first]
      | cons upload waiting =>
          have upload_permitted : permitted upload.message :=
            state_good.messages _ ⟨device, Or.inl (by simp [first])⟩
          simp only [step, first, State.served,
            agreement.serve_eq _ _ state_good.server upload_permitted]
  | absorb device =>
      cases first : state.down device with
      | nil => simp only [step, first]
      | cons message waiting =>
          have message_permitted : permitted message :=
            state_good.messages _ ⟨device, Or.inr (by simp [first])⟩
          simp only [step, first, State.absorbed,
            agreement.absorb_eq _ _ (state_good.device device) message_permitted]

theorem step_good (agreement : Agreement concrete abstract good permitted)
    (state_good : state.Good good permitted) (event_permitted : event.Permitted permitted)
    (performed : step concrete state event = some next) : next.Good good permitted := by
  cases event with
  | edit device message =>
      rcases step_edit_eq_some.mp performed with ⟨store, possible, rfl⟩
      refine ⟨state_good.server, ?_, ?_⟩
      · intro other
        by_cases same : other = device
        · subst other
          simpa [State.edited] using
            agreement.edit_good _ _ _ (state_good.device device) event_permitted possible
        · simpa [State.edited, same] using state_good.device other
      · intro other inFlight
        rcases inFlight_edited inFlight with old | rfl
        · exact state_good.messages other old
        · exact event_permitted
  | serve device =>
      rcases step_serve_eq_some.mp performed with ⟨upload, waiting, first, rfl⟩
      have upload_permitted : permitted upload.message :=
        state_good.messages _ ⟨device, Or.inl (by simp [first])⟩
      exact ⟨agreement.serve_good _ _ state_good.server upload_permitted, state_good.device,
        fun message inFlight => state_good.messages message (inFlight_served first inFlight)⟩
  | absorb device =>
      rcases step_absorb_eq_some.mp performed with ⟨message, waiting, first, rfl⟩
      have message_permitted : permitted message :=
        state_good.messages _ ⟨device, Or.inr (by simp [first])⟩
      refine ⟨state_good.server, ?_, ?_⟩
      · intro other
        by_cases same : other = device
        · subst other
          simpa [State.absorbed] using
            agreement.absorb_good _ _ (state_good.device device) message_permitted
        · simpa [State.absorbed, same] using state_good.device other
      · intro other inFlight
        rcases inFlight_absorbed first inFlight with old | echoed
        · exact state_good.messages other old
        · exact agreement.absorb_permitted _ _ _ (state_good.device device)
            message_permitted echoed

theorem run_eq (agreement : Agreement concrete abstract good permitted)
    (state_good : state.Good good permitted) {events : List (Event Device Message)}
    (events_permitted : ∀ event ∈ events, event.Permitted permitted) :
    Transition.run (step concrete) state events = Transition.run (step abstract) state events := by
  induction events generalizing state with
  | nil => rfl
  | cons event events ih =>
      have event_permitted := events_permitted event List.mem_cons_self
      simp only [Transition.run, ← agreement.step_eq state_good event_permitted]
      cases performed : step concrete state event with
      | none => rfl
      | some next =>
          exact ih (agreement.step_good state_good event_permitted performed)
            fun later later_mem => events_permitted later (List.mem_cons_of_mem _ later_mem)

theorem permits (agreement : Agreement concrete abstract good permitted)
    (state_good : state.Good good permitted) {events : List (Event Device Message)}
    (events_permitted : ∀ event ∈ events, event.Permitted permitted)
    {allowed : State Device Store Message → Event Device Message → Prop}
    (events_allowed : Transition.Permits (step concrete) allowed state events) :
    Transition.Permits (step abstract) allowed state events := by
  induction events generalizing state with
  | nil => trivial
  | cons event events ih =>
      have event_permitted := events_permitted event List.mem_cons_self
      refine ⟨events_allowed.1, ?_⟩
      intro next performed
      rw [← agreement.step_eq state_good event_permitted] at performed
      exact ih (agreement.step_good state_good event_permitted performed)
        (fun later later_mem => events_permitted later (List.mem_cons_of_mem _ later_mem))
        (events_allowed.2 next performed)

/-- What one machine reaches by permitted events is good, and the other machine reaches it too. -/
theorem reachable (agreement : Agreement concrete abstract good permitted)
    {allowed : State Device Store Message → Event Device Message → Prop}
    (allowed_permitted : ∀ state event, allowed state event → event.Permitted permitted)
    {start : State Device Store Message} (start_good : start.Good good permitted)
    (reached : Transition.Reachable (step concrete) allowed start state) :
    Transition.Reachable (step abstract) allowed start state ∧ state.Good good permitted := by
  induction reached with
  | start => exact ⟨.start, start_good⟩
  | step _ event_allowed performed ih =>
      have event_permitted := allowed_permitted _ _ event_allowed
      refine ⟨.step ih.1 event_allowed ?_, agreement.step_good ih.2 event_permitted performed⟩
      rw [← agreement.step_eq ih.2 event_permitted, performed]

/-- Without edits, an endless run of one machine is one of the other. -/
theorem endless (agreement : Agreement concrete abstract good permitted)
    (state_good : state.Good good permitted)
    (endless : Transition.Endless (step concrete) (fun _ event => ¬event.IsEdit) state) :
    Transition.Endless (step abstract) (fun _ event => ¬event.IsEdit) state := by
  rcases endless with ⟨path, rfl, moves⟩
  have permitted_of_noEdit : ∀ event : Event Device Message, ¬event.IsEdit →
      event.Permitted permitted := by
    rintro (_ | _ | _) noEdit
    · exact absurd trivial noEdit
    · trivial
    · trivial
  have path_good : ∀ time, (path time).Good good permitted := by
    intro time
    induction time with
    | zero => exact state_good
    | succ time ih =>
        rcases moves time with ⟨event, noEdit, performed⟩
        exact agreement.step_good ih (permitted_of_noEdit event noEdit) performed
  refine ⟨path, rfl, ?_⟩
  intro time
  rcases moves time with ⟨event, noEdit, performed⟩
  refine ⟨event, noEdit, ?_⟩
  rw [← agreement.step_eq (path_good time) (permitted_of_noEdit event noEdit), performed]

end Agreement

end Hub
