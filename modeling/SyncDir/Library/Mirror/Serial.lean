import SyncDir.Library.Mirror.Convergence

/-!
# Edits one after the other

If an entry of a mirrored map is edited only while no message about it is in
flight, then no edit of it is lost: whenever nothing about the entry is in
flight again, the hub and all devices have what the last edit has left.  Other
entries can be edited at any time.

Such a run has one value at a time that spreads.  All messages about the entry
carry it, a device that has sent one has it, and a device without it is going to
be told of it, now or when the hub learns of it.
-/

namespace Mirror

open Hub

variable {Key Value Device : Type*} {differs : Value → Value → Bool} {blank : Value} {key : Key}
  {value : Option Value}

def Calm (key : Key) (state : State Device (Key → Option Value) (Change Key Value)) : Prop :=
  ∀ change, state.InFlight change → change.key ≠ key

/-- The entry is edited only while nothing about it is in flight. -/
def Serial (key : Key) (state : State Device (Key → Option Value) (Change Key Value)) :
    Event Device (Change Key Value) → Prop
  | .edit _ change => change.key = key → Calm key state
  | .serve _ | .absorb _ => True

/-- What the last edit has left of an entry. -/
def lastEdit [DecidableEq Key] (key : Key) (value : Option Value) :
    List (Event Device (Change Key Value)) → Option Value
  | [] => value
  | .edit _ change :: events =>
      lastEdit key (if change.key = key then change.result else value) events
  | .serve _ :: events | .absorb _ :: events => lastEdit key value events

structure Spreads (blank : Value) (key : Key) (value : Option Value)
    (state : State Device (Key → Option Value) (Change Key Value)) : Prop where
  messages : ∀ change, state.InFlight change → change.key = key → change.result = value
  notBlank : ∀ change, state.InFlight change → change.result ≠ some blank
  sender : ∀ device, ∀ upload ∈ state.up device, upload.message.key = key →
    state.device device key = value
  server : state.server key = value ∨
    ∃ device, ∃ upload ∈ state.up device, upload.message.key = key
  device : ∀ device, state.device device key = value ∨
    (∃ change ∈ state.down device, change.key = key) ∨ state.server key ≠ value

theorem Spreads.synced (map : Key → Option Value) :
    Spreads blank key (map key)
      (State.synced map : State Device (Key → Option Value) (Change Key Value)) where
  messages := by rintro change ⟨device, waiting | waiting⟩ <;> simp [State.synced] at waiting
  notBlank := by rintro change ⟨device, waiting | waiting⟩ <;> simp [State.synced] at waiting
  sender device upload waiting := by simp [State.synced] at waiting
  server := Or.inl rfl
  device _ := Or.inl rfl

section

variable {state : State Device (Key → Option Value) (Change Key Value)}

theorem inFlight_of_mem_up {device : Device} {upload : Upload (Change Key Value)}
    (waiting : upload ∈ state.up device) : state.InFlight upload.message :=
  ⟨device, Or.inl (List.mem_map_of_mem waiting)⟩

/-- When nothing about the entry is in flight, everybody has the value. -/
theorem Spreads.calm (spreads : Spreads blank key value state) (calm : Calm key state) :
    state.server key = value ∧ ∀ device, state.device device key = value := by
  have server : state.server key = value := by
    rcases spreads.server with has | ⟨device, upload, waiting, about⟩
    · exact has
    · exact absurd about (calm _ (inFlight_of_mem_up waiting))
  refine ⟨server, ?_⟩
  intro device
  rcases spreads.device device with has | ⟨change, waiting, about⟩ | behind
  · exact has
  · exact absurd about (calm change ⟨device, Or.inr waiting⟩)
  · exact absurd server behind

end

variable [DecidableEq Key] [DecidableEq Device]
  {state last : State Device (Key → Option Value) (Change Key Value)} {device : Device}

/-- An edit of an entry begins to spread when nothing about the entry is in flight. -/
theorem Spreads.edited (spreads : Spreads blank key value state) (calm : Calm key state)
    {change : Change Key Value} (about : change.key = key)
    (notBlank : change.result ≠ some blank) :
    Spreads blank key change.result
      (state.edited device change (change.apply (state.device device))) := by
  subst about
  rcases spreads.calm calm with ⟨server, devices⟩
  have applied : change.apply (state.device device) change.key = change.result :=
    Function.update_self ..
  refine ⟨?_, ?_, ?_, ?_, ?_⟩
  · intro other inFlight about
    rcases inFlight_edited inFlight with old | rfl
    · exact absurd about (calm other old)
    · rfl
  · intro other inFlight
    rcases inFlight_edited inFlight with old | rfl
    · exact spreads.notBlank other old
    · exact notBlank
  · intro other upload waiting about
    by_cases same : other = device
    · subst other
      simp only [State.edited, Function.update_self]
      exact applied
    · simp only [State.edited, Function.update_of_ne same] at waiting
      exact absurd about (calm _ (inFlight_of_mem_up waiting))
  · right
    refine ⟨device, ⟨change, false⟩, ?_, rfl⟩
    simp [State.edited]
  · intro other
    by_cases same : other = device
    · subst other
      left
      simp only [State.edited, Function.update_self]
      exact applied
    · simp only [State.edited, Function.update_of_ne same]
      by_cases unchanged : state.server change.key = change.result
      · left
        rw [devices, ← server, unchanged]
      · exact Or.inr (Or.inr unchanged)

theorem Spreads.edited_of_ne (spreads : Spreads blank key value state)
    {change : Change Key Value} (elsewhere : change.key ≠ key)
    (notBlank : change.result ≠ some blank) :
    Spreads blank key value
      (state.edited device change (change.apply (state.device device))) := by
  have kept : ∀ other, (state.edited device change
      (change.apply (state.device device))).device other key = state.device other key := by
    intro other
    by_cases same : other = device
    · subst other
      simp only [State.edited, Function.update_self]
      exact Function.update_of_ne (Ne.symm elsewhere) _ _
    · simp only [State.edited, Function.update_of_ne same]
  refine ⟨?_, ?_, ?_, ?_, ?_⟩
  · intro other inFlight about
    rcases inFlight_edited inFlight with old | rfl
    · exact spreads.messages other old about
    · exact absurd about elsewhere
  · intro other inFlight
    rcases inFlight_edited inFlight with old | rfl
    · exact spreads.notBlank other old
    · exact notBlank
  · intro other upload waiting about
    rw [kept]
    by_cases same : other = device
    · subst other
      simp only [State.edited, Function.update_self, List.mem_append, List.mem_singleton]
        at waiting
      rcases waiting with old | rfl
      · exact spreads.sender device upload old about
      · exact absurd about elsewhere
    · simp only [State.edited, Function.update_of_ne same] at waiting
      exact spreads.sender other upload waiting about
  · rcases spreads.server with has | ⟨other, upload, waiting, about⟩
    · exact Or.inl has
    · refine Or.inr ⟨other, upload, ?_, about⟩
      by_cases same : other = device
      · subst other
        simp only [State.edited, Function.update_self]
        exact List.mem_append_left _ waiting
      · simpa only [State.edited, Function.update_of_ne same] using waiting
  · intro other
    rw [kept]
    exact spreads.device other

theorem Spreads.served [DecidableEq Value]
    (exact : ∀ stored value, differs stored value = true ↔ stored ≠ value)
    (spreads : Spreads blank key value state) {upload : Upload (Change Key Value)}
    {waiting : List (Upload (Change Key Value))} (first : state.up device = upload :: waiting) :
    Spreads blank key value
      (state.served (reactions differs blank) device upload.message waiting) := by
  have upload_mem : upload ∈ state.up device := by simp [first]
  have inFlight := inFlight_of_mem_up upload_mem
  rcases serve_exact exact state.server (spreads.notBlank _ inFlight) with ⟨applied, idle⟩
  have fewer : ∀ other, ∀ left ∈ (state.served (reactions differs blank) device
      upload.message waiting).up other, left ∈ state.up other := by
    intro other left left_mem
    by_cases same : other = device
    · subst other
      simp only [State.served, Function.update_self] at left_mem
      rw [first]
      exact List.mem_cons_of_mem _ left_mem
    · simpa only [State.served, Function.update_of_ne same] using left_mem
  refine ⟨?_, ?_, ?_, ?_, ?_⟩
  · intro change changeInFlight
    exact spreads.messages change (inFlight_served first changeInFlight)
  · intro change changeInFlight
    exact spreads.notBlank change (inFlight_served first changeInFlight)
  · intro other left left_mem
    exact spreads.sender other left (fewer other left left_mem)
  · by_cases about : upload.message.key = key
    · left
      have carried := spreads.messages _ inFlight about
      simp only [State.served, reactions, applied, Change.apply]
      rw [← about, Function.update_self, carried]
    · have kept : (serve differs blank state.server upload.message).1 key = state.server key :=
        serve_frame _ _ (Ne.symm about)
      rcases spreads.server with has | ⟨other, left, left_mem, aboutKey⟩
      · exact Or.inl (kept.trans has)
      · refine Or.inr ⟨other, left, ?_, aboutKey⟩
        by_cases same : other = device
        · subst other
          rw [first] at left_mem
          rcases List.mem_cons.mp left_mem with rfl | later
          · exact absurd aboutKey about
          · simpa only [State.served, Function.update_self] using later
        · simpa only [State.served, Function.update_of_ne same] using left_mem
  · intro other
    rcases spreads.device other with has | ⟨change, coming, about⟩ | behind
    · exact Or.inl has
    · exact Or.inr (Or.inl ⟨change, List.mem_append_left _ coming, about⟩)
    · by_cases about : upload.message.key = key
      · -- The hub learns of the value, and tells everybody but the sender.
        by_cases same : other = device
        · subst other
          exact Or.inl (spreads.sender device upload upload_mem about)
        · have forwarded : (serve differs blank state.server upload.message).2 = true := by
            rw [← Bool.not_eq_false]
            intro silent
            have unchanged := applied.symm.trans (idle silent)
            have carried := congrFun unchanged key
            rw [Change.apply, ← about, Function.update_self,
              spreads.messages _ inFlight about] at carried
            rw [← about] at behind
            exact behind carried.symm
          refine Or.inr (Or.inl ⟨upload.message, ?_, about⟩)
          exact List.mem_append_right _ (mem_pushed.mpr ⟨rfl, forwarded, same⟩)
      · have kept : (serve differs blank state.server upload.message).1 key = state.server key :=
          serve_frame _ _ (Ne.symm about)
        exact Or.inr (Or.inr (kept.trans_ne behind))

theorem Spreads.absorbed [DecidableEq Value] (spreads : Spreads blank key value state)
    {change : Change Key Value} {waiting : List (Change Key Value)}
    (first : state.down device = change :: waiting) :
    Spreads blank key value
      (state.absorbed (reactions differs blank) device change waiting) := by
  have inFlight : state.InFlight change := ⟨device, Or.inr (by simp [first])⟩
  have echo_eq : ∀ echo ∈ (absorb (state.device device) change).2, echo = change :=
    fun echo => eq_of_mem_absorb
  have stored : (absorb (state.device device) change).1 key =
      if change.key = key then value else state.device device key := by
    rw [absorb_apply]
    split_ifs with about
    · rw [← spreads.messages change inFlight about, ← about]
      exact Function.update_self ..
    · exact Function.update_of_ne (Ne.symm about) _ _
  refine ⟨?_, ?_, ?_, ?_, ?_⟩
  · intro other otherInFlight about
    rcases inFlight_absorbed first otherInFlight with old | echoed
    · exact spreads.messages other old about
    · rw [echo_eq other echoed] at about ⊢
      exact spreads.messages change inFlight about
  · intro other otherInFlight
    rcases inFlight_absorbed first otherInFlight with old | echoed
    · exact spreads.notBlank other old
    · rw [echo_eq other echoed]
      exact spreads.notBlank change inFlight
  · intro other upload upload_mem about
    by_cases same : other = device
    · subst other
      simp only [State.absorbed, reactions, Function.update_self, stored] at upload_mem ⊢
      split_ifs with aboutKey
      · rfl
      · rcases List.mem_append.mp upload_mem with old | echoed
        · exact spreads.sender device upload old about
        · rcases List.mem_map.mp echoed with ⟨echo, echo_mem, rfl⟩
          rw [echo_eq echo echo_mem] at about
          exact absurd about aboutKey
    · simp only [State.absorbed, Function.update_of_ne same] at upload_mem ⊢
      exact spreads.sender other upload upload_mem about
  · rcases spreads.server with has | ⟨other, upload, upload_mem, about⟩
    · exact Or.inl has
    · refine Or.inr ⟨other, upload, ?_, about⟩
      by_cases same : other = device
      · subst other
        simp only [State.absorbed, Function.update_self]
        exact List.mem_append_left _ upload_mem
      · simpa only [State.absorbed, Function.update_of_ne same] using upload_mem
  · intro other
    by_cases same : other = device
    · subst other
      simp only [State.absorbed, reactions, Function.update_self, stored]
      split_ifs with about
      · exact Or.inl rfl
      · rcases spreads.device device with has | ⟨push, push_mem, aboutKey⟩ | behind
        · exact Or.inl has
        · rw [first] at push_mem
          rcases List.mem_cons.mp push_mem with rfl | later
          · exact absurd aboutKey about
          · exact Or.inr (Or.inl ⟨push, later, aboutKey⟩)
        · exact Or.inr (Or.inr behind)
    · simp only [State.absorbed, Function.update_of_ne same]
      exact spreads.device other

/-- Along a run that edits an entry serially, it is the last edit that spreads. -/
theorem Spreads.run [DecidableEq Value]
    (exact : ∀ stored value, differs stored value = true ↔ stored ≠ value)
    (spreads : Spreads blank key value state) {events : List (Event Device (Change Key Value))}
    (serial : Transition.Permits (step (reactions differs blank)) (Serial key) state events)
    (performed : Transition.run (step (reactions differs blank)) state events = some last) :
    Spreads blank key (lastEdit key value events) last := by
  induction events generalizing state value with
  | nil =>
      cases performed
      exact spreads
  | cons event events ih =>
      rcases Option.bind_eq_some_iff.mp performed with ⟨next, stepped, remaining⟩
      have later := serial.2 next stepped
      cases event with
      | edit device change =>
          rcases step_edit_eq_some.mp stepped with ⟨edited, possible, rfl⟩
          rcases edit_eq_some possible with ⟨rfl, notBlank⟩
          rw [lastEdit]
          split_ifs with about
          · exact ih (spreads.edited (serial.1 about) about notBlank) later remaining
          · exact ih (spreads.edited_of_ne about notBlank) later remaining
      | serve device =>
          rcases step_serve_eq_some.mp stepped with ⟨upload, waiting, first, rfl⟩
          exact ih (spreads.served exact first) later remaining
      | absorb device =>
          rcases step_absorb_eq_some.mp stepped with ⟨change, waiting, first, rfl⟩
          exact ih (spreads.absorbed first) later remaining

end Mirror
