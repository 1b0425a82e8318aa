import SyncDir.Library.Mirror.Basic

/-!
# Echoes of mirrored maps

The comparison at the hub recognizes an echo only by its value.  It is enough
that an entry is edited only while no message about it is in flight: then a push
and its echoes always announce what the hub has, so that an echo changes nothing
and is not forwarded.

The invariant separates the two kinds of messages: a pushed change and an echo
agree with the hub, and the upload of an edit is the only message in flight about
its entry.
-/

namespace Mirror

open Hub

variable {Key Value Device : Type*}

/-- An entry may be edited only while no message about it is in flight. -/
def Disciplined (state : State Device (Key → Option Value) (Change Key Value)) :
    Event Device (Change Key Value) → Prop
  | .edit _ change => ∀ other, state.InFlight other → other.key ≠ change.key
  | .serve _ | .absorb _ => True

/-- The invariant of disciplined runs. -/
structure Settled (state : State Device (Key → Option Value) (Change Key Value)) : Prop where
  /-- A pushed change is in effect at the hub. -/
  pushes : ∀ device change, change ∈ state.down device →
    state.server change.key = change.result
  /-- An echo announces what the hub has. -/
  echoes : ∀ device upload, upload ∈ state.up device → upload.echo = true →
    state.server upload.message.key = upload.message.result
  /-- The upload of an edit is alone in its own channel, -/
  alone : ∀ device, (state.up device).Pairwise fun first second =>
    first.echo = false ∨ second.echo = false → first.message.key ≠ second.message.key
  /-- among the uploads of the other devices, -/
  aloneAcross : ∀ device other edit upload, device ≠ other → edit ∈ state.up device →
    upload ∈ state.up other → edit.echo = false → edit.message.key ≠ upload.message.key
  /-- and among the pushes. -/
  alonePushed : ∀ device other edit change, edit ∈ state.up device →
    change ∈ state.down other → edit.echo = false → edit.message.key ≠ change.key

theorem Settled.synced (map : Key → Option Value) :
    Settled (State.synced map : State Device (Key → Option Value) (Change Key Value)) := by
  constructor <;> simp [State.synced]

section Steps

variable {state : State Device (Key → Option Value) (Change Key Value)} {device : Device}

/-- In a settled state the hub serves an echo without any effect. -/
theorem Settled.serve_echo [DecidableEq Key] {differs : Value → Value → Bool} {blank : Value}
    (reflexive : ∀ value, differs value value = false)
    (settled : Settled state) {change : Change Key Value}
    {waiting : List (Upload (Change Key Value))}
    (first : state.up device = ⟨change, true⟩ :: waiting) :
    serve differs blank state.server change = (state.server, false) :=
  serve_of_reflected reflexive
    (settled.echoes device ⟨change, true⟩ (by simp [first]) rfl)

variable [DecidableEq Device]

theorem Settled.edited (settled : Settled state) {change : Change Key Value}
    (quiet : ∀ other, state.InFlight other → other.key ≠ change.key)
    (map : Key → Option Value) : Settled (state.edited device change map) := by
  have quietUp : ∀ other, ∀ upload ∈ state.up other, upload.message.key ≠ change.key :=
    fun other upload upload_mem =>
      quiet _ ⟨other, Or.inl (List.mem_map_of_mem upload_mem)⟩
  have quietDown : ∀ other, ∀ pushed ∈ state.down other, pushed.key ≠ change.key :=
    fun other pushed pushed_mem => quiet _ ⟨other, Or.inr pushed_mem⟩
  have uploads : ∀ other upload, upload ∈ (state.edited device change map).up other →
      upload ∈ state.up other ∨ other = device ∧ upload = ⟨change, false⟩ := by
    intro other upload upload_mem
    by_cases same : other = device
    · subst other
      simpa [State.edited] using upload_mem
    · simpa [State.edited, same] using upload_mem
  constructor
  · exact settled.pushes
  · intro other upload upload_mem isEcho
    rcases uploads other upload upload_mem with old | ⟨-, rfl⟩
    · exact settled.echoes other upload old isEcho
    · simp at isEcho
  · intro other
    by_cases same : other = device
    · subst other
      simp only [State.edited, Function.update_self, List.pairwise_append]
      refine ⟨settled.alone device, by simp, ?_⟩
      intro upload upload_mem new new_mem _
      rw [List.mem_singleton.mp new_mem]
      exact quietUp device upload upload_mem
    · simpa [State.edited, same] using settled.alone other
  · intro first second edit upload distinct edit_mem upload_mem isEdit
    rcases uploads first edit edit_mem with oldEdit | ⟨rfl, rfl⟩
    · rcases uploads second upload upload_mem with oldUpload | ⟨-, rfl⟩
      · exact settled.aloneAcross first second edit upload distinct oldEdit oldUpload isEdit
      · exact quietUp first edit oldEdit
    · rcases uploads second upload upload_mem with oldUpload | ⟨rfl, -⟩
      · exact (quietUp second upload oldUpload).symm
      · exact absurd rfl distinct
  · intro first second edit pushed edit_mem pushed_mem isEdit
    rcases uploads first edit edit_mem with oldEdit | ⟨-, rfl⟩
    · exact settled.alonePushed first second edit pushed oldEdit pushed_mem isEdit
    · exact (quietDown second pushed pushed_mem).symm

variable [DecidableEq Key] [DecidableEq Value] {differs : Value → Value → Bool} {blank : Value}

theorem Settled.served (reflexive : ∀ value, differs value value = false)
    (settled : Settled state) {upload : Upload (Change Key Value)}
    {waiting : List (Upload (Change Key Value))} (first : state.up device = upload :: waiting) :
    Settled (state.served (reactions differs blank) device upload.message waiting) := by
  have upload_mem : upload ∈ state.up device := by simp [first]
  have remaining : ∀ other later,
      later ∈ Function.update state.up device waiting other → later ∈ state.up other := by
    intro other later later_mem
    by_cases same : other = device
    · subst other
      rw [Function.update_self] at later_mem
      exact first ▸ List.mem_cons_of_mem _ later_mem
    · rwa [Function.update_of_ne same] at later_mem
  have apart : ∀ other later, later ∈ Function.update state.up device waiting other →
      upload.echo = false ∨ later.echo = false →
        upload.message.key ≠ later.message.key := by
    intro other later later_mem oneEdit
    by_cases same : other = device
    · subst other
      rw [Function.update_self] at later_mem
      have alone := settled.alone device
      rw [first] at alone
      exact List.rel_of_pairwise_cons alone later_mem oneEdit
    · have later_up := remaining other later later_mem
      rcases oneEdit with uploadEdit | laterEdit
      · exact settled.aloneAcross device other upload later (Ne.symm same) upload_mem later_up
          uploadEdit
      · exact (settled.aloneAcross other device later upload same later_up upload_mem
          laterEdit).symm
  -- An entry that a later message relies on keeps its value.
  have kept : ∀ change : Change Key Value, state.server change.key = change.result →
      (upload.echo = false → upload.message.key ≠ change.key) →
        (serve differs blank state.server upload.message).1 change.key = change.result := by
    intro change reflected distinct
    cases isEcho : upload.echo with
    | true =>
        have idle := settled.echoes device upload upload_mem isEcho
        rw [serve_of_reflected reflexive idle]
        exact reflected
    | false =>
        rw [serve_frame _ _ (distinct isEcho).symm]
        exact reflected
  constructor
  · intro other change change_mem
    rcases List.mem_append.mp change_mem with old | new
    · exact kept change (settled.pushes other change old)
        fun isEdit => settled.alonePushed device other upload change upload_mem old isEdit
    · rcases mem_pushed.mp new with ⟨rfl, forwarded, -⟩
      simp only [State.served, reactions, serve_forwarded forwarded]
      exact Function.update_self _ _ _
  · intro other later later_mem isEcho
    exact kept later.message (settled.echoes other later (remaining other later later_mem) isEcho)
      fun isEdit => apart other later later_mem (Or.inl isEdit)
  · intro other
    by_cases same : other = device
    · subst other
      have alone := settled.alone device
      rw [first] at alone
      simpa [State.served] using (List.pairwise_cons.mp alone).2
    · simpa [State.served, same] using settled.alone other
  · intro left right edit later distinct edit_mem later_mem isEdit
    exact settled.aloneAcross left right edit later distinct (remaining left edit edit_mem)
      (remaining right later later_mem) isEdit
  · intro left right edit change edit_mem change_mem isEdit
    rcases List.mem_append.mp change_mem with old | new
    · exact settled.alonePushed left right edit change (remaining left edit edit_mem) old isEdit
    · rcases mem_pushed.mp new with ⟨rfl, -, -⟩
      exact (apart left edit edit_mem (Or.inr isEdit)).symm

theorem Settled.absorbed (settled : Settled state) {change : Change Key Value}
    {waiting : List (Change Key Value)} (first : state.down device = change :: waiting) :
    Settled (state.absorbed (reactions differs blank) device change waiting) := by
  have change_mem : change ∈ state.down device := by simp [first]
  have uploads : ∀ other upload,
      upload ∈ (state.absorbed (reactions differs blank) device change waiting).up other →
        upload ∈ state.up other ∨ other = device ∧ upload = ⟨change, true⟩ := by
    intro other upload upload_mem
    by_cases same : other = device
    · subst other
      simp only [State.absorbed, Function.update_self, List.mem_append, List.mem_map] at upload_mem
      rcases upload_mem with old | ⟨echo, echoed, rfl⟩
      · exact Or.inl old
      · exact Or.inr ⟨rfl, by rw [eq_of_mem_absorb echoed]⟩
    · exact Or.inl (by simpa [State.absorbed, same] using upload_mem)
  have remaining : ∀ other pushed,
      pushed ∈ Function.update state.down device waiting other → pushed ∈ state.down other := by
    intro other pushed pushed_mem
    by_cases same : other = device
    · subst other
      rw [Function.update_self] at pushed_mem
      exact first ▸ List.mem_cons_of_mem _ pushed_mem
    · rwa [Function.update_of_ne same] at pushed_mem
  constructor
  · intro other pushed pushed_mem
    exact settled.pushes other pushed (remaining other pushed pushed_mem)
  · intro other upload upload_mem isEcho
    rcases uploads other upload upload_mem with old | ⟨-, rfl⟩
    · exact settled.echoes other upload old isEcho
    · exact settled.pushes device change change_mem
  · intro other
    by_cases same : other = device
    · subst other
      simp only [State.absorbed, Function.update_self, List.pairwise_append]
      refine ⟨settled.alone device, ?_, ?_⟩
      · rw [List.pairwise_map]
        exact List.pairwise_of_forall fun _ _ impossible => by simp at impossible
      · intro upload upload_mem echo echo_mem oneEdit
        rcases List.mem_map.mp echo_mem with ⟨echoed, echoed_mem, rfl⟩
        rw [eq_of_mem_absorb echoed_mem]
        exact settled.alonePushed device device upload change upload_mem change_mem
          (by simpa using oneEdit)
    · simpa [State.absorbed, same] using settled.alone other
  · intro left right edit upload distinct edit_mem upload_mem isEdit
    rcases uploads left edit edit_mem with oldEdit | ⟨-, rfl⟩
    · rcases uploads right upload upload_mem with oldUpload | ⟨rfl, rfl⟩
      · exact settled.aloneAcross left right edit upload distinct oldEdit oldUpload isEdit
      · exact settled.alonePushed left right edit change oldEdit change_mem isEdit
    · simp at isEdit
  · intro left right edit pushed edit_mem pushed_mem isEdit
    rcases uploads left edit edit_mem with oldEdit | ⟨-, rfl⟩
    · exact settled.alonePushed left right edit pushed oldEdit
        (remaining right pushed pushed_mem) isEdit
    · simp at isEdit

end Steps

theorem Settled.reachable [DecidableEq Device] [DecidableEq Key] [DecidableEq Value]
    {differs : Value → Value → Bool} {blank : Value}
    (reflexive : ∀ value, differs value value = false)
    {start state : State Device (Key → Option Value) (Change Key Value)}
    (initially : Settled start)
    (reached : Transition.Reachable (step (reactions differs blank)) Disciplined start state) :
    Settled state := by
  refine reached.invariant initially ?_
  intro state event next settled disciplined performed
  cases event with
  | edit device change =>
      rcases step_edit_eq_some.mp performed with ⟨edited, -, rfl⟩
      exact settled.edited disciplined edited
  | serve device =>
      rcases step_serve_eq_some.mp performed with ⟨upload, waiting, first, rfl⟩
      exact settled.served reflexive first
  | absorb device =>
      rcases step_absorb_eq_some.mp performed with ⟨change, waiting, first, rfl⟩
      exact settled.absorbed first

end Mirror
