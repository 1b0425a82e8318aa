import SyncDir.Library.Mirror.Provenance
import SyncDir.Library.Mirror.Serial
import SyncDir.Protocol.Sync

/-!
# What becomes of edits

Among plain names, a file never gets a content that nobody has written to it:
this needs no order of events and no property of the hash.  If the hash tells
the contents of every file apart, the program reacts like one that compares the
contents themselves.  A file that is edited only while no transfer of it is on
its way then keeps its last edit, on the server and on all devices.
-/

namespace SyncDir

namespace Sync

open Hub FileManager Transition

variable {Device : Type*}

/-- A file's content before a run, what is written to it in the run, and the content of a new
file. -/
def contentsOf (files : Directory) (events : List (Event Device Change)) (file_name : Bytes) :
    Set Bytes :=
  {content | content = [] ∨ files file_name = some content ∨
    ∃ device, Event.edit device (.write file_name content) ∈ events}

variable {names : Set Bytes} {files : Directory} {events : List (Event Device Change)}
  {differs : Bytes → Bytes → Bool}

theorem within_contentsOf (files : Directory) (events : List (Event Device Change)) :
    Mirror.Within (contentsOf files events) files :=
  fun _ _ stored => Or.inr (Or.inl stored)

theorem permitted_contentsOf (files : Directory)
    (concern : ∀ event ∈ events, event.Permitted (Concerns names)) :
    ∀ event ∈ events, event.Permitted fun change =>
      Concerns names change ∧ Mirror.Carries (contentsOf files events) change := by
  intro event event_mem
  cases event with
  | edit device change =>
      refine ⟨concern _ event_mem, ?_⟩
      intro value result
      cases change with
      | write file_name content =>
          cases result
          exact Or.inr (Or.inr ⟨device, event_mem⟩)
      | delete file_name => cases result
  | serve device => trivial
  | absorb device => trivial

/-- Comparisons that are the same on the contents of each file make the program and a mirrored map
react in the same way. -/
theorem agreement_contentsOf (files : Directory) (events : List (Event Device Change))
    (plain : PlainNames names) {other : Bytes → Bytes → Bool}
    (same : ∀ file_name, ∀ stored ∈ contentsOf files events file_name,
      ∀ content ∈ contentsOf files events file_name,
        differs stored content = other stored content) :
    Agreement (reactions differs) (Mirror.reactions other [])
      (fun disk => SupportedIn names disk ∧ Mirror.Within (contentsOf files events) disk)
      (fun change => Concerns names change ∧ Mirror.Carries (contentsOf files events) change) :=
  (agreement plain).trans (Mirror.agreement_within (fun _ => Or.inl rfl) same)

theorem fnvDiffers_eq_contentDiffers {contents : Set Bytes}
    (distinguished : Set.InjOn fnv1a contents) {stored content : Bytes}
    (stored_mem : stored ∈ contents) (content_mem : content ∈ contents) :
    fnvDiffers stored content = contentDiffers stored content := by
  rw [fnvDiffers, contentDiffers, Bool.eq_iff_iff, bne_iff_ne, bne_iff_ne, ne_eq, ne_eq,
    distinguished.eq_iff stored_mem content_mem]

/-- If the hash tells the contents of each file apart, the program compares the contents. -/
theorem agreement_distinguished (plain : PlainNames names)
    (distinguished : ∀ file_name, Set.InjOn fnv1a (contentsOf files events file_name)) :
    Agreement (reactions fnvDiffers) (Mirror.reactions contentDiffers [])
      (fun disk => SupportedIn names disk ∧ Mirror.Within (contentsOf files events) disk)
      (fun change => Concerns names change ∧ Mirror.Carries (contentsOf files events) change) := by
  apply agreement_contentsOf files events plain
  intro file_name stored stored_mem content content_mem
  exact fnvDiffers_eq_contentDiffers (distinguished file_name) stored_mem content_mem

theorem good_contentsOf (events : List (Event Device Change))
    (supported : SupportedIn names files) :
    (State.synced files : State Device Directory Change).Good
      (fun disk => SupportedIn names disk ∧ Mirror.Within (contentsOf files events) disk)
      (fun change => Concerns names change ∧ Mirror.Carries (contentsOf files events) change) :=
  .synced ⟨supported, within_contentsOf files events⟩

variable [DecidableEq Device] {state : State Device Directory Change}

/-- A file, wherever it is and however the transfers are interleaved, is empty, as it was, or as
somebody has written it in the run; and so is every transfer of it. -/
theorem contents_written (plain : PlainNames names) (supported : SupportedIn names files)
    (concern : ∀ event ∈ events, event.Permitted (Concerns names))
    (performed : run (step (reactions differs)) (State.synced files) events = some state)
    (file_name content : Bytes)
    (present : state.server file_name = some content ∨
      (∃ device, state.device device file_name = some content) ∨
      state.InFlight (.write file_name content)) :
    content = [] ∨ files file_name = some content ∨
      ∃ device, Event.edit device (.write file_name content) ∈ events := by
  have agrees : Agreement (reactions differs) (Mirror.reactions differs []) _ _ :=
    agreement_contentsOf files events plain fun _ _ _ _ _ => rfl
  have permitted := permitted_contentsOf files concern
  have reached : Reachable (step (reactions differs)) (fun _ event => event.Permitted fun change =>
      Concerns names change ∧ Mirror.Carries (contentsOf files events) change)
      (State.synced files) state :=
    .of_run (fun event event_mem _ => permitted event event_mem) .start performed
  have good := (agrees.reachable (fun _ _ => id)
    (.synced ⟨supported, within_contentsOf files events⟩) reached).2
  rcases present with stored | ⟨device, stored⟩ | inFlight
  · exact good.server.2 _ _ stored
  · exact (good.device device).2 _ _ stored
  · exact (good.messages _ inFlight).2 _ rfl

/-- A file is written on one device and, when this is everywhere, on the other one. -/
def serialEdits : List (Event Bool Change) :=
  [.edit true (.write (ascii "f") (ascii "x")), .serve true, .absorb false, .serve false,
    .edit false (.write (ascii "f") (ascii "y")), .serve false, .absorb true, .serve true]

theorem serialEdits_concern : ∀ event ∈ serialEdits, event.Permitted (Concerns {ascii "f"}) := by
  simp [serialEdits, Event.Permitted, Concerns, Mirror.Change.key]

theorem contentsOf_serialEdits (file_name : Bytes) :
    Set.InjOn fnv1a (contentsOf (fun _ => none) serialEdits file_name) := by
  have listed : contentsOf (fun _ => none) serialEdits file_name ⊆
      {[], ascii "x", ascii "y"} := by
    rintro content (rfl | stored | ⟨device, edited⟩)
    · exact Or.inl rfl
    · cases stored
    · simp only [serialEdits, List.mem_cons, List.not_mem_nil, Event.edit.injEq,
        Mirror.Change.write.injEq, reduceCtorEq, or_false, false_or] at edited
      rcases edited with ⟨-, -, rfl⟩ | ⟨-, -, rfl⟩
      · exact Or.inr (Or.inl rfl)
      · exact Or.inr (Or.inr rfl)
  refine Set.InjOn.mono listed ?_
  simp only [Set.InjOn, fnv1a_eq_foldl]
  rintro first (rfl | rfl | rfl) second (rfl | rfl | rfl) same
  all_goals first
    | rfl
    | exact absurd same (by decide)

theorem run_serialEdits :
    ∃ state : State Bool Directory Change,
      run (step (reactions fnvDiffers)) (State.synced fun _ => none) serialEdits = some state ∧
        Mirror.Calm (ascii "f") state ∧ state.server (ascii "f") = some (ascii "y") := by
  have plain : PlainNames {ascii "f"} := plainNames_singleton (by decide) (by decide)
  have agrees := agreement_distinguished plain contentsOf_serialEdits
  rw [agrees.run_eq (good_contentsOf serialEdits (supportedIn_empty {ascii "f"}))
    (permitted_contentsOf (fun _ => none) serialEdits_concern)]
  refine ⟨_, rfl, ?_, rfl⟩
  rintro change ⟨_ | _, waiting | waiting⟩ <;> cases waiting

theorem contents_written_serialEdits :
    ∃ state : State Bool Directory Change, state.server (ascii "f") = some (ascii "y") ∧
      (ascii "y" = [] ∨ none = some (ascii "y") ∨
        ∃ device, Event.edit device (.write (ascii "f") (ascii "y")) ∈ serialEdits) := by
  rcases run_serialEdits with ⟨state, performed, -, stored⟩
  exact ⟨state, stored, contents_written (plainNames_singleton (by decide) (by decide))
    (supportedIn_empty _) serialEdits_concern performed (ascii "f") (ascii "y") (Or.inl stored)⟩

end Sync

end SyncDir
