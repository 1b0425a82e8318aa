import Mathlib.Data.Set.Lattice
import Mathlib.Order.CompletePartialOrder
import SyncDir.Library.HandleTable
import SyncDir.Library.Resumption

/-!
# Programs that hold handles

A program opens handles, refers to them, and closes them again.  It keeps to its
own handles if it refers to none that it does not hold at that moment, whatever
the answers to its operations are.  The rules are those of a logic of triples:
programs are composed, and what a program does to its own handles it also does
in the presence of others.

Programs that keep to their own handles can run in parallel on one table: none
of them ever refers to a handle of another one.
-/

universe u v w

namespace Custody

open HandleTable Resumption

/-- What operations do to handles: the handle that an operation refers to, whether it closes it,
and the handle that it opens. -/
structure Effects (Op : Type u) (Answer : Op → Type v) (Handle : Type*) where
  refers : Op → Option Handle
  closes : Op → Bool
  opens : (op : Op) → Answer op → Option Handle

variable {Op : Type u} {Answer : Op → Type v} {Handle : Type*} {Result Next : Type w}
  {effects : Effects Op Answer Handle}

namespace Effects

variable (effects : Effects Op Answer Handle)

/-- The handles that are held after an operation. -/
def after (op : Op) (answer : Answer op) (held : Set Handle) : Set Handle :=
  {handle | handle ∈ held ∧ ¬(effects.closes op = true ∧ effects.refers op = some handle) ∨
    effects.opens op answer = some handle}

/-- The program refers only to handles that it holds, and ends with the handles that it should,
if what is opened for it is new. -/
def Keeps (post : Result → Set Handle → Prop) : Resumption Op Answer Result → Set Handle → Prop
  | done result, held => post result held
  | perform op next, held =>
      (∀ handle, effects.refers op = some handle → handle ∈ held) ∧
        ∀ answer, (∀ handle, effects.opens op answer = some handle → handle ∉ held) →
          Keeps post (next answer) (effects.after op answer held)

end Effects

section Rules

variable {post middle : Result → Set Handle → Prop} {program : Resumption Op Answer Result}
  {held : Set Handle}

theorem Effects.Keeps.mono (keeps : effects.Keeps middle program held)
    (weaker : ∀ result held, middle result held → post result held) :
    effects.Keeps post program held := by
  induction program generalizing held with
  | done result => exact weaker result held keeps
  | perform op next ih =>
      refine ⟨keeps.1, ?_⟩
      intro answer fresh
      exact ih answer (keeps.2 answer fresh)

theorem Effects.Keeps.bind {later : Next → Set Handle → Prop}
    {rest : Result → Resumption Op Answer Next}
    (keeps : effects.Keeps middle program held)
    (continues : ∀ result held, middle result held → effects.Keeps later (rest result) held) :
    effects.Keeps later (program >>= rest) held := by
  induction program generalizing held with
  | done result => exact continues result held keeps
  | perform op next ih =>
      refine ⟨keeps.1, ?_⟩
      intro answer fresh
      exact ih answer (keeps.2 answer fresh)

theorem after_union {op : Op} {answer : Answer op} {frame : Set Handle}
    (apart : Disjoint held frame)
    (holds : ∀ handle, effects.refers op = some handle → handle ∈ held) :
    effects.after op answer (held ∪ frame) = effects.after op answer held ∪ frame := by
  ext handle
  have unclosed : handle ∈ frame → effects.refers op ≠ some handle := by
    intro framed refers
    exact Set.disjoint_left.mp apart (holds handle refers) framed
  simp only [Effects.after, Set.mem_union, Set.mem_ofPred_eq]
  tauto

/-- Handles that a program does not hold are neither closed nor opened by it. -/
theorem Effects.Keeps.frame (keeps : effects.Keeps post program held) {frame : Set Handle}
    (apart : Disjoint held frame) :
    effects.Keeps (fun result all => ∃ own, all = own ∪ frame ∧ Disjoint own frame ∧
      post result own) program (held ∪ frame) := by
  induction program generalizing held with
  | done result => exact ⟨held, rfl, apart, keeps⟩
  | perform op next ih =>
      refine ⟨fun handle refers => Or.inl (keeps.1 handle refers), ?_⟩
      intro answer fresh
      have unheld : ∀ handle, effects.opens op answer = some handle → handle ∉ held :=
        fun handle opens => fun owned => fresh handle opens (Or.inl owned)
      rw [after_union apart keeps.1]
      apply ih answer (keeps.2 answer unheld)
      rw [Set.disjoint_left]
      rintro handle (⟨owned, -⟩ | opens) framed
      · exact Set.disjoint_left.mp apart owned framed
      · exact fresh handle opens (Or.inr framed)

/-! ### One operation -/

variable {op : Op} {rest : Answer op → Resumption Op Answer Result} {handle : Handle}

theorem keeps_query (unclosed : effects.closes op = false)
    (unopened : ∀ answer, effects.opens op answer = none)
    (owned : ∀ handle, effects.refers op = some handle → handle ∈ held)
    (continues : ∀ answer, effects.Keeps post (rest answer) held) :
    effects.Keeps post (perform op rest) held := by
  refine ⟨owned, ?_⟩
  intro answer _
  have unchanged : effects.after op answer held = held := by
    simp [Effects.after, unclosed, unopened]
  rw [unchanged]
  exact continues answer

theorem keeps_close (closes : effects.closes op = true) (refers : effects.refers op = some handle)
    (unopened : ∀ answer, effects.opens op answer = none) (owned : handle ∈ held)
    (continues : ∀ answer, effects.Keeps post (rest answer) (held \ {handle})) :
    effects.Keeps post (perform op rest) held := by
  refine ⟨?_, ?_⟩
  · intro other leads
    rw [refers] at leads
    cases leads
    exact owned
  · intro answer _
    have without : effects.after op answer held = held \ {handle} := by
      ext other
      simp [Effects.after, closes, refers, unopened, eq_comm]
    rw [without]
    exact continues answer

theorem keeps_open (unclosed : effects.closes op = false)
    (owned : ∀ handle, effects.refers op = some handle → handle ∈ held)
    (fails : ∀ answer, effects.opens op answer = none → effects.Keeps post (rest answer) held)
    (opens : ∀ answer handle, effects.opens op answer = some handle → handle ∉ held →
      effects.Keeps post (rest answer) (insert handle held)) :
    effects.Keeps post (perform op rest) held := by
  refine ⟨owned, ?_⟩
  intro answer fresh
  cases opened : effects.opens op answer with
  | none =>
      have unchanged : effects.after op answer held = held := by
        simp [Effects.after, unclosed, opened]
      rw [unchanged]
      exact fails answer opened
  | some handle =>
      have more : effects.after op answer held = insert handle held := by
        ext other
        simp only [Effects.after, unclosed, opened, Set.mem_ofPred_eq, Set.mem_insert_iff,
          Option.some.injEq]
        tauto
      rw [more]
      exact opens answer handle opened (fresh handle opened)

end Rules

/-! ### Programs in parallel -/

section Parallel

variable {Thread : Type*}

/-- The handles that the table gives to a thread. -/
def held (table : Table Handle Thread) (thread : Thread) : Set Handle :=
  {handle | table handle = some thread}

variable (Op Answer Handle Result Thread) in
structure Process where
  table : Table Handle Thread
  threads : Thread → Resumption Op Answer Result

/-- Each thread keeps to the handles that the table gives to it. -/
def Kept (effects : Effects Op Answer Handle) (post : Thread → Result → Set Handle → Prop)
    (process : Process Op Answer Handle Result Thread) : Prop :=
  ∀ thread, effects.Keeps (post thread) (process.threads thread) (held process.table thread)

variable {thread other : Thread} {table : Table Handle Thread}
  {post : Thread → Result → Set Handle → Prop}
  {process next : Process Op Answer Handle Result Thread}

/-- No thread refers to a handle of another one, or to a closed one. -/
theorem Kept.owned (kept : Kept effects post process) {op : Op}
    {rest : Answer op → Resumption Op Answer Result}
    (program : process.threads thread = perform op rest) {handle : Handle}
    (refers : effects.refers op = some handle) : process.table handle = some thread := by
  have own := kept thread
  rw [program] at own
  exact own.1 handle refers

theorem Kept.ended (kept : Kept effects post process) {result : Result}
    (program : process.threads thread = done result) :
    post thread result (held process.table thread) := by
  have own := kept thread
  rwa [program] at own

variable [DecidableEq Handle]

namespace Effects

variable (effects : Effects Op Answer Handle)

def settle (op : Op) (answer : Answer op) (thread : Thread) (table : Table Handle Thread) :
    Table Handle Thread :=
  let remaining :=
    match effects.closes op, effects.refers op with
    | true, some handle => release table handle
    | _, _ => table
  match effects.opens op answer with
  | some handle => acquire remaining handle thread
  | none => remaining

variable [DecidableEq Thread]

/-- A thread performs its next operation with an answer that opens no handle that is open. -/
def advance (process : Process Op Answer Handle Result Thread) (thread : Thread)
    (oracle : (op : Op) → Answer op) : Option (Process Op Answer Handle Result Thread) :=
  match process.threads thread with
  | done _ => none
  | perform op next =>
      if (effects.opens op (oracle op)).all fun handle => (process.table handle).isNone then
        some {
          table := effects.settle op (oracle op) thread process.table
          threads := Function.update process.threads thread (next (oracle op)) }
      else none

end Effects

theorem settle_apply (op : Op) (answer : Answer op) (thread : Thread) (table : Table Handle Thread)
    (handle : Handle) : effects.settle op answer thread table handle =
      if effects.opens op answer = some handle then some thread
      else if effects.closes op = true ∧ effects.refers op = some handle then none
      else table handle := by
  have remaining : (match effects.closes op, effects.refers op with
      | true, some handle => release table handle
      | _, _ => table) handle =
        if effects.closes op = true ∧ effects.refers op = some handle then none
        else table handle := by
    cases effects.closes op <;> cases effects.refers op <;>
      simp [release, Function.update_apply, eq_comm]
  rw [Effects.settle]
  cases effects.opens op answer with
  | none => simpa using remaining
  | some opened =>
      by_cases same : handle = opened
      · subst same
        simp [acquire]
      · simpa [acquire, Function.update_of_ne same, Ne.symm same] using remaining

theorem held_settle_self (op : Op) (answer : Answer op) :
    held (effects.settle op answer thread table) thread =
      effects.after op answer (held table thread) := by
  ext handle
  simp only [held, Effects.after, Set.mem_ofPred_eq, settle_apply]
  split_ifs with opened closed
  · simp [opened]
  · simp [opened, closed]
  · simp [opened, closed]

theorem held_settle_of_ne (different : other ≠ thread) {op : Op} {answer : Answer op}
    (holds : ∀ handle, effects.refers op = some handle → handle ∈ held table thread)
    (fresh : ∀ handle, effects.opens op answer = some handle → table handle = none) :
    held (effects.settle op answer thread table) other = held table other := by
  ext handle
  simp only [held, Set.mem_ofPred_eq, settle_apply]
  split_ifs with opened closed
  · simp [fresh handle opened, Ne.symm different]
  · have owned : table handle = some thread := holds handle closed.2
    simp [owned, Ne.symm different]
  · rfl

variable [DecidableEq Thread]

theorem Kept.advance (kept : Kept effects post process) {oracle : (op : Op) → Answer op}
    (performed : effects.advance process thread oracle = some next) : Kept effects post next := by
  rw [Effects.advance] at performed
  cases program : process.threads thread with
  | done result =>
      rw [program] at performed
      cases performed
  | perform op rest =>
      rw [program] at performed
      rcases Option.ite_none_right_eq_some.mp performed with ⟨unopened, same⟩
      cases same
      have fresh : ∀ handle, effects.opens op (oracle op) = some handle →
          process.table handle = none := by
        intro handle opens
        rw [opens] at unopened
        exact Option.isNone_iff_eq_none.mp unopened
      have own := kept thread
      rw [program] at own
      intro other
      by_cases same : other = thread
      · subst same
        simp only [Function.update_self, held_settle_self]
        apply own.2
        intro handle opens owned
        rw [held, Set.mem_ofPred_eq, fresh handle opens] at owned
        cases owned
      · simp only [Function.update_of_ne same, held_settle_of_ne same own.1 fresh]
        exact kept other

/-- A thread that holds nothing is given a handle and a program for it. -/
def Process.spawn (process : Process Op Answer Handle Result Thread) (thread : Thread)
    (handle : Handle) (program : Resumption Op Answer Result) :
    Process Op Answer Handle Result Thread where
  table := acquire process.table handle thread
  threads := Function.update process.threads thread program

theorem Kept.spawn (kept : Kept effects post process) {handle : Handle}
    {program : Resumption Op Answer Result} (empty : held process.table thread = ∅)
    (free : process.table handle = none) (keeps : effects.Keeps (post thread) program {handle}) :
    Kept effects post (process.spawn thread handle program) := by
  intro other
  by_cases same : other = thread
  · subst same
    have only : held (process.spawn other handle program).table other = {handle} := by
      ext asked
      have unheld : process.table asked ≠ some other := fun owned => by
        have member : asked ∈ held process.table other := owned
        rw [empty] at member
        exact member
      by_cases given : asked = handle
      · simp [held, Process.spawn, acquire, given]
      · simp [held, Process.spawn, acquire, given, unheld]
    rw [only]
    simpa [Process.spawn] using keeps
  · have unchanged : held (process.spawn thread handle program).table other =
        held process.table other := by
      ext asked
      by_cases given : asked = handle
      · simp [held, Process.spawn, acquire, given, free, Ne.symm same]
      · simp [held, Process.spawn, acquire, Function.update_of_ne given]
    rw [unchanged]
    simpa [Process.spawn, Function.update_of_ne same] using kept other

end Parallel

end Custody
