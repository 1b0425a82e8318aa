import Mathlib.Data.Nat.Notation
import Mathlib.Logic.Function.Basic

/-!
# Resumptions

A resumption performs operations one after the other, and what it does next may
depend on the answers.  It says nothing about what an operation does; that is
the matter of an interpretation, which maps a state and an operation to an
answer and a state.

Several resumptions can run as the threads of one system.  What is preserved by
each operation that the threads may perform is preserved by every interleaving
of them, and if such operations cannot tell related states apart, neither can
the threads.  A thread that does not notice what the others do gets on as if it
were alone.  An operation may keep its thread waiting for some turns, which are
lost for the thread and change nothing else.
-/

universe u v w

inductive Resumption (Op : Type u) (Answer : Op → Type v) (Result : Type w)
  | done (result : Result)
  | perform (op : Op) (next : Answer op → Resumption Op Answer Result)

namespace Resumption

variable {Op : Type u} {Answer : Op → Type v}

section Monad

variable {Result Next : Type w}

def bind : Resumption Op Answer Result → (Result → Resumption Op Answer Next) →
    Resumption Op Answer Next
  | done result, next => next result
  | perform op rest, next => perform op fun answer => bind (rest answer) next

instance : Monad (Resumption Op Answer) where
  pure := done
  bind := bind

@[simp]
theorem done_bind (result : Result) (next : Result → Resumption Op Answer Next) :
    done result >>= next = next result :=
  rfl

@[simp]
theorem perform_bind (op : Op) (rest : Answer op → Resumption Op Answer Result)
    (next : Result → Resumption Op Answer Next) :
    perform op rest >>= next = perform op fun answer => rest answer >>= next :=
  rfl

end Monad

def call (op : Op) : Resumption Op Answer (Answer op) :=
  perform op done

variable {Result : Type w} {Next : Type w}

/-! ### Operations and results -/

/-- All operations are allowed, whatever the answers are. -/
def Performs (allowed : Op → Prop) : Resumption Op Answer Result → Prop
  | done _ => True
  | perform op next => allowed op ∧ ∀ answer, Performs allowed (next answer)

/-- The results that are possible when the answers are arbitrary. -/
inductive Ends : Resumption Op Answer Result → Result → Prop
  | done (result : Result) : Ends (done result) result
  | perform {op : Op} {next : Answer op → Resumption Op Answer Result} {result : Result}
      (answer : Answer op) (ends : Ends (next answer) result) : Ends (perform op next) result

theorem ends_done_iff {result other : Result} :
    (done result : Resumption Op Answer Result).Ends other ↔ other = result := by
  constructor
  · rintro ⟨⟩
    rfl
  · rintro rfl
    exact .done other

theorem ends_perform_iff {op : Op} {next : Answer op → Resumption Op Answer Result}
    {result : Result} :
    (perform op next).Ends result ↔ ∃ answer, (next answer).Ends result := by
  constructor
  · rintro (_ | ⟨answer, ends⟩)
    exact ⟨answer, ends⟩
  · rintro ⟨answer, ends⟩
    exact .perform answer ends

theorem ends_bind_iff {first : Resumption Op Answer Result}
    {next : Result → Resumption Op Answer Next} {result : Next} :
    (first >>= next).Ends result ↔ ∃ middle, first.Ends middle ∧ (next middle).Ends result := by
  induction first with
  | done middle => simp [ends_done_iff]
  | perform op rest ih =>
      rw [perform_bind, ends_perform_iff]
      simp only [ih, ends_perform_iff]
      constructor
      · rintro ⟨answer, middle, first, second⟩
        exact ⟨middle, ⟨answer, first⟩, second⟩
      · rintro ⟨middle, ⟨answer, first⟩, second⟩
        exact ⟨answer, middle, first, second⟩

theorem performs_bind_iff {allowed : Op → Prop} {first : Resumption Op Answer Result}
    {next : Result → Resumption Op Answer Next} :
    (first >>= next).Performs allowed ↔ first.Performs allowed ∧
      ∀ middle, first.Ends middle → (next middle).Performs allowed := by
  induction first with
  | done middle => simp [Performs, ends_done_iff]
  | perform op rest ih =>
      simp only [perform_bind, Performs, ih, ends_perform_iff]
      constructor
      · rintro ⟨permitted, performs⟩
        refine ⟨⟨permitted, fun answer => (performs answer).1⟩, ?_⟩
        rintro middle ⟨answer, ends⟩
        exact (performs answer).2 middle ends
      · rintro ⟨⟨permitted, performs⟩, later⟩
        exact ⟨permitted, fun answer => ⟨performs answer, fun middle ends =>
          later middle ⟨answer, ends⟩⟩⟩

theorem Performs.mono {allowed wider : Op → Prop} {program : Resumption Op Answer Result}
    (performs : program.Performs allowed) (weaker : ∀ op, allowed op → wider op) :
    program.Performs wider := by
  induction program with
  | done result => trivial
  | perform op next ih =>
      exact ⟨weaker op performs.1, fun answer => ih answer (performs.2 answer)⟩

theorem Performs.and {allowed other : Op → Prop} {program : Resumption Op Answer Result}
    (performs : program.Performs allowed) (also : program.Performs other) :
    program.Performs fun op => allowed op ∧ other op := by
  induction program with
  | done result => trivial
  | perform op next ih =>
      exact ⟨⟨performs.1, also.1⟩, fun answer => ih answer (performs.2 answer) (also.2 answer)⟩

/-! ### Interpretations -/

section Interpretation

variable {State : Type*} (interpret : State → (op : Op) → Answer op × State)

def run (state : State) : Resumption Op Answer Result → Result × State
  | done result => (result, state)
  | perform op next => run (interpret state op).2 (next (interpret state op).1)

theorem run_bind (state : State) (first : Resumption Op Answer Result)
    (next : Result → Resumption Op Answer Next) :
    run interpret state (first >>= next) =
      run interpret (run interpret state first).2 (next (run interpret state first).1) := by
  induction first generalizing state with
  | done result => rfl
  | perform op rest ih => exact ih _ _

variable {interpret} in
theorem run_invariant {allowed : Op → Prop} {property : State → Prop}
    (preserved : ∀ state op, allowed op → property state → property (interpret state op).2)
    {program : Resumption Op Answer Result} (performs : program.Performs allowed) {state : State}
    (initially : property state) : property (run interpret state program).2 := by
  induction program generalizing state with
  | done result => exact initially
  | perform op next ih => exact ih _ (performs.2 _) (preserved state op performs.1 initially)

/-- The number of operations that are performed. -/
def steps (state : State) : Resumption Op Answer Result → ℕ
  | done _ => 0
  | perform op next => steps (interpret state op).2 (next (interpret state op).1) + 1

variable {interpret} in
theorem steps_eq_zero_iff {state : State} {program : Resumption Op Answer Result} :
    steps interpret state program = 0 ↔ program = done (run interpret state program).1 := by
  cases program with
  | done result => simp [steps, run]
  | perform op next => simp [steps]

variable (Op Answer Result) in
/-- Threads that share a state, and the operations that they have performed. -/
structure Threads (Thread State : Type*) where
  state : State
  threads : Thread → Resumption Op Answer Result
  performed : List (Thread × Op)

variable {Thread : Type*} [DecidableEq Thread]

def Threads.advance (system : Threads Op Answer Result Thread State) (thread : Thread) :
    Threads Op Answer Result Thread State :=
  match system.threads thread with
  | done _ => system
  | perform op next =>
      { state := (interpret system.state op).2
        threads := Function.update system.threads thread (next (interpret system.state op).1)
        performed := system.performed ++ [(thread, op)] }

/-- The threads perform operations in the order of a schedule. -/
def Threads.interleave (system : Threads Op Answer Result Thread State) (schedule : List Thread) :
    Threads Op Answer Result Thread State :=
  schedule.foldl (Threads.advance interpret) system

/-- The turn of a thread, and the operations that do not return then. -/
structure Turn (Thread Op : Type*) where
  thread : Thread
  waits : Op → Bool

/-- A turn in which every operation returns. -/
def Turn.prompt (thread : Thread) : Turn Thread Op where
  thread
  waits _ := false

/-- Whether the thread waits in its turn. -/
def Threads.waiting (system : Threads Op Answer Result Thread State) (turn : Turn Thread Op) :
    Bool :=
  match system.threads turn.thread with
  | done _ => false
  | perform op _ => turn.waits op

def Threads.take (system : Threads Op Answer Result Thread State) (turn : Turn Thread Op) :
    Threads Op Answer Result Thread State :=
  if system.waiting turn then system else system.advance interpret turn.thread

def Threads.takeAll (system : Threads Op Answer Result Thread State)
    (turns : List (Turn Thread Op)) : Threads Op Answer Result Thread State :=
  turns.foldl (Threads.take interpret) system

/-- The threads that do not wait in their turns. -/
def Threads.returned (system : Threads Op Answer Result Thread State) :
    List (Turn Thread Op) → List Thread
  | [] => []
  | turn :: turns =>
      if system.waiting turn then Threads.returned system turns
      else turn.thread :: Threads.returned (system.take interpret turn) turns

namespace Threads

section Turns

variable (system : Threads Op Answer Result Thread State)

theorem takeAll_eq_interleave (turns : List (Turn Thread Op)) :
    system.takeAll interpret turns =
      system.interleave interpret (system.returned interpret turns) := by
  induction turns generalizing system with
  | nil => rfl
  | cons turn turns ih =>
      rw [takeAll, List.foldl_cons, ← takeAll, ih, returned]
      cases waits : system.waiting turn with
      | true => simp [take, waits]
      | false => simp [take, waits, Threads.interleave]

theorem returned_append (first second : List (Turn Thread Op)) :
    system.returned interpret (first ++ second) = system.returned interpret first ++
      (system.takeAll interpret first).returned interpret second := by
  induction first generalizing system with
  | nil => rfl
  | cons turn first ih =>
      cases waits : system.waiting turn with
      | true => simp [returned, takeAll, take, waits, ih]
      | false => simp [returned, takeAll, take, waits, ih]

theorem returned_replicate (thread : Thread) (count : ℕ) :
    system.returned interpret (List.replicate count (.prompt thread)) =
      List.replicate count thread := by
  induction count generalizing system with
  | zero => rfl
  | succ count ih =>
      have prompt : system.waiting (.prompt thread) = false := by
        unfold waiting Turn.prompt
        split <;> rfl
      rw [List.replicate_succ, returned, prompt, if_neg Bool.false_ne_true, ih]
      rfl

end Turns

variable {interpret} {allowed : Op → Prop} {system other : Threads Op Answer Result Thread State}

def Within (allowed : Op → Prop) (system : Threads Op Answer Result Thread State) : Prop :=
  (∀ thread, (system.threads thread).Performs allowed) ∧
    ∀ entry ∈ system.performed, allowed entry.2

theorem Within.advance (within : system.Within allowed) (thread : Thread) :
    (system.advance interpret thread).Within allowed := by
  unfold Threads.advance
  cases current : system.threads thread with
  | done result => exact within
  | perform op next =>
      have performs := within.1 thread
      rw [current] at performs
      constructor
      · intro other
        by_cases same : other = thread
        · subst other
          simpa using performs.2 _
        · simpa [same] using within.1 other
      · intro entry entry_mem
        rcases List.mem_append.mp entry_mem with earlier | last
        · exact within.2 entry earlier
        · obtain rfl : entry = (thread, op) := by simpa using last
          exact performs.1

theorem Within.interleave (within : system.Within allowed) (schedule : List Thread) :
    (system.interleave interpret schedule).Within allowed := by
  induction schedule generalizing system with
  | nil => exact within
  | cons thread schedule ih => exact ih (within.advance thread)

theorem interleave_invariant {property : State → Prop}
    (preserved : ∀ state op, allowed op → property state → property (interpret state op).2)
    (within : system.Within allowed) (initially : property system.state) (schedule : List Thread) :
    property (system.interleave interpret schedule).state := by
  induction schedule generalizing system with
  | nil => exact initially
  | cons thread schedule ih =>
      apply ih (within.advance thread)
      unfold Threads.advance
      cases current : system.threads thread with
      | done result => exact initially
      | perform op next =>
          have performs := within.1 thread
          rw [current] at performs
          exact preserved _ _ performs.1 initially

/-- If the allowed operations cannot tell related states apart, the threads behave in the same way
on related states. -/
theorem interleave_related {related : State → State → Prop}
    (hidden : ∀ first second op, allowed op → related first second →
      (interpret first op).1 = (interpret second op).1 ∧
        related (interpret first op).2 (interpret second op).2)
    (within : system.Within allowed) (sameThreads : system.threads = other.threads)
    (samePerformed : system.performed = other.performed) (start : related system.state other.state)
    (schedule : List Thread) :
    (system.interleave interpret schedule).threads = (other.interleave interpret schedule).threads ∧
      (system.interleave interpret schedule).performed =
        (other.interleave interpret schedule).performed ∧
      related (system.interleave interpret schedule).state
        (other.interleave interpret schedule).state := by
  induction schedule generalizing system other with
  | nil => exact ⟨sameThreads, samePerformed, start⟩
  | cons thread schedule ih =>
      have sameThread := congrFun sameThreads thread
      cases current : system.threads thread with
      | done result =>
          rw [current] at sameThread
          apply ih (within.advance thread)
          · simpa [advance, current, ← sameThread] using sameThreads
          · simpa [advance, current, ← sameThread] using samePerformed
          · simpa [advance, current, ← sameThread] using start
      | perform op next =>
          have performs := within.1 thread
          rw [current] at performs sameThread
          rcases hidden _ _ op performs.1 start with ⟨sameAnswer, after⟩
          apply ih (within.advance thread)
          · simp [advance, current, ← sameThread, sameThreads, sameAnswer]
          · simp [advance, current, ← sameThread, samePerformed]
          · simpa [advance, current, ← sameThread] using after

/-! ### A thread that does not notice the others -/

/-- Every thread keeps to the operations that it may perform. -/
def Keeping (allowed : Thread → Op → Prop) (system : Threads Op Answer Result Thread State) :
    Prop :=
  ∀ thread, (system.threads thread).Performs (allowed thread)

variable (interpret) in
/-- The thread cannot tell related states apart, and what the others do keeps states related. -/
structure Secluded (permitted : Thread → Op → Prop) (related : State → State → Prop)
    (thread : Thread) : Prop where
  follows : ∀ state alone op, permitted thread op → related state alone →
    (interpret state op).1 = (interpret alone op).1 ∧
      related (interpret state op).2 (interpret alone op).2
  ignores : ∀ state alone next op, next ≠ thread → permitted next op → related state alone →
    related (interpret state op).2 alone

theorem advance_of_done {thread : Thread} {result : Result}
    (current : system.threads thread = done result) : system.advance interpret thread = system := by
  simp only [advance, current]

theorem threads_advance_of_ne {thread next : Thread} (different : thread ≠ next) :
    (system.advance interpret next).threads thread = system.threads thread := by
  unfold advance
  cases system.threads next with
  | done result => rfl
  | perform op continuation => exact Function.update_of_ne different _ _

section Alone

variable {permitted : Thread → Op → Prop} (keeping : system.Keeping permitted)
include keeping

theorem Keeping.advance (next : Thread) : (system.advance interpret next).Keeping permitted := by
  intro thread
  by_cases same : thread = next
  · subst thread
    have performs := keeping next
    cases current : system.threads next with
    | done result => rwa [advance_of_done current]
    | perform op continuation =>
        rw [current] at performs
        simpa only [Threads.advance, current, Function.update_self] using performs.2 _
  · rw [threads_advance_of_ne same]
    exact keeping thread

variable {related : State → State → Prop} {thread : Thread} {alone : State}

/-- What is left of the program ends as it would have ended alone. -/
theorem Keeping.advance_self (secluded : Secluded interpret permitted related thread)
    (start : related system.state alone) :
    ∃ after, related (system.advance interpret thread).state after ∧
      run interpret after ((system.advance interpret thread).threads thread) =
        run interpret alone (system.threads thread) ∧
      steps interpret after ((system.advance interpret thread).threads thread) =
        steps interpret alone (system.threads thread) - 1 := by
  have performs := keeping thread
  cases current : system.threads thread with
  | done result =>
      rw [advance_of_done current, current]
      exact ⟨alone, start, rfl, rfl⟩
  | perform op continuation =>
      rw [current] at performs
      rcases secluded.follows _ _ op performs.1 start with ⟨sameAnswer, alike⟩
      refine ⟨(interpret alone op).2, ?_⟩
      simp only [Threads.advance, current, Function.update_self, sameAnswer]
      exact ⟨alike, rfl, rfl⟩

theorem Keeping.advance_other (secluded : Secluded interpret permitted related thread)
    {next : Thread} (different : next ≠ thread)    (start : related system.state alone) :
    related (system.advance interpret next).state alone := by
  have performs := keeping next
  cases current : system.threads next with
  | done result => rwa [advance_of_done current]
  | perform op continuation =>
      rw [current] at performs
      simpa only [Threads.advance, current] using
        secluded.ignores _ _ next op different performs.1 start

/-- The thread gets on as it would alone, with every turn that it has. -/
theorem Keeping.interleave_alone (secluded : Secluded interpret permitted related thread)
    (start : related system.state alone) (schedule : List Thread) :
    ∃ after, related (system.interleave interpret schedule).state after ∧
      run interpret after ((system.interleave interpret schedule).threads thread) =
        run interpret alone (system.threads thread) ∧
      steps interpret after ((system.interleave interpret schedule).threads thread) =
        steps interpret alone (system.threads thread) - schedule.count thread := by
  induction schedule generalizing system alone with
  | nil => exact ⟨alone, start, rfl, rfl⟩
  | cons next schedule ih =>
      by_cases same : next = thread
      · subst next
        rcases keeping.advance_self secluded start with ⟨middle, alike, sameEnd, shorter⟩
        rcases ih (keeping.advance thread) alike with ⟨after, left, ran, remaining⟩
        refine ⟨after, left, ran.trans sameEnd, remaining.trans ?_⟩
        rw [shorter, List.count_cons_self, Nat.sub_sub, Nat.add_comm]
      · have alike := keeping.advance_other secluded same start
        rcases ih (keeping.advance next) alike with ⟨after, left, ran, remaining⟩
        rw [threads_advance_of_ne (Ne.symm same)] at ran remaining
        rw [List.count_cons_of_ne same]
        exact ⟨after, left, ran, remaining⟩

/-- The thread is done after as many turns as it would need alone, and then the state is related to
the one that it would have left. -/
theorem Keeping.interleave_done (secluded : Secluded interpret permitted related thread)
    (start : related system.state alone) (schedule : List Thread) :
    ((∃ result, (system.interleave interpret schedule).threads thread = done result) ↔
        steps interpret alone (system.threads thread) ≤ schedule.count thread) ∧
      (steps interpret alone (system.threads thread) ≤ schedule.count thread →
        (system.interleave interpret schedule).threads thread =
            done (run interpret alone (system.threads thread)).1 ∧
          related (system.interleave interpret schedule).state
            (run interpret alone (system.threads thread)).2) := by
  rcases keeping.interleave_alone secluded start schedule with
    ⟨after, alike, ran, remaining⟩
  have finishes (enough : steps interpret alone (system.threads thread) ≤
      schedule.count thread) : (system.interleave interpret schedule).threads thread =
        done (run interpret alone (system.threads thread)).1 := by
    rw [Nat.sub_eq_zero_of_le enough] at remaining
    rw [← ran]
    exact steps_eq_zero_iff.mp remaining
  refine ⟨⟨?_, fun enough => ⟨_, finishes enough⟩⟩, fun enough => ⟨finishes enough, ?_⟩⟩
  · rintro ⟨result, ended⟩
    rw [ended, steps] at remaining
    exact Nat.le_of_sub_eq_zero remaining.symm
  · rw [finishes enough] at ran
    rwa [← ran]

end Alone

end Threads

end Interpretation

end Resumption
