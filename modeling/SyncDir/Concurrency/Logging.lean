import Mathlib.Data.List.Induction
import SyncDir.Library.CriticalSection
import SyncDir.Utils.Bytes

/-!
# Logging

All threads of a process log through one `Logger`.  `log` holds the mutex of the
logger while it appends its line to the queue and while it flushes the queue:
line by line to one file after the other, and then to the console.  Hence the
files and the console get the same whole lines in the same order.

`log_assert` flushes the queue once more, without the mutex.  It does so only
when its condition fails, which is left out.
-/

namespace SyncDir

namespace Logger

open CriticalSection Transition

/-- A call of `log`, with what `make_timestamp` makes of the time. -/
structure Call where
  timestamp : Bytes
  level : Bytes
  filemeta : Bytes
  message : Bytes

def Call.log_line (call : Call) : Bytes :=
  call.timestamp ++ call.level ++ ascii " \t" ++ call.filemeta ++ ascii " \t" ++ call.message ++
    ascii "\n"

/-- The members that nothing assigns to, with the values that they are declared with. -/
structure Flags where
  is_enabled : Bool := true
  use_cout : Bool := false
  use_cerr : Bool := true

/-- The queue, and what has been written to the files and to the console. -/
structure Output where
  logging_queue : List Bytes
  sinks : List Bytes
  cout : Bytes
  cerr : Bytes

inductive Point
  | add_to_queue (formatted_message : Bytes)
  /-- In the first loop of `flush_queue`, at an item for a file. -/
  | sink (index item : ℕ)
  /-- In the second loop. -/
  | console (item : ℕ)
  | clear
  | unlock

def Output.print (flags : Flags) (output : Output) (log_item : Bytes) : Output :=
  { output with
    cout := if flags.use_cout then output.cout ++ log_item else output.cout
    cerr := if flags.use_cerr then output.cerr ++ log_item else output.cerr }

def logStep (flags : Flags) : Point → Output → Option (Point × Output)
  | .add_to_queue formatted_message, output =>
      some (.sink 0 0,
        if flags.is_enabled then
          { output with logging_queue := output.logging_queue ++ [formatted_message] }
        else output)
  | .sink index item, output =>
      if index < output.sinks.length then
        match output.logging_queue[item]? with
        | some log_item =>
            some (.sink index (item + 1),
              { output with sinks := output.sinks.modify index (· ++ log_item) })
        | none => some (.sink (index + 1) 0, output)
      else
        some (.console 0, output)
  | .console item, output =>
      match output.logging_queue[item]? with
      | some log_item => some (.console (item + 1), output.print flags log_item)
      | none => some (.clear, output)
  | .clear, output => some (.unlock, { output with logging_queue := [] })
  | .unlock, _ => none

def log (flags : Flags) : Body Call Point Output where
  begin call := .add_to_queue call.log_line
  step := logStep flags

/-! ### A whole call -/

def queued (flags : Flags) (call : Call) (output : Output) : List Bytes :=
  if flags.is_enabled then output.logging_queue ++ [call.log_line] else output.logging_queue

/-- The queue is appended to every file and to the console, and is empty afterwards. -/
def flushed (flags : Flags) (queue : List Bytes) (output : Output) : Output :=
  { output.print flags queue.flatten with
    logging_queue := []
    sinks := output.sinks.map (· ++ queue.flatten) }

def logged (flags : Flags) (call : Call) (output : Output) : Output :=
  flushed flags (queued flags call output) output

variable {flags : Flags} {output result : Output}

theorem print_print (first second : Bytes) :
    (output.print flags first).print flags second = output.print flags (first ++ second) := by
  simp only [Output.print]
  split_ifs <;> simp

theorem print_nil : output.print flags [] = output := by
  simp [Output.print]

theorem getElem?_of_drop_eq_nil {items : List Bytes} {item : ℕ} (rest : items.drop item = []) :
    items[item]? = none := by
  rw [← List.head?_drop, rest, List.head?_nil]

theorem getElem?_of_drop_eq_cons {items later : List Bytes} {item : ℕ} {log_item : Bytes}
    (rest : items.drop item = log_item :: later) :
    items[item]? = some log_item ∧ items.drop (item + 1) = later := by
  rw [← List.head?_drop, ← List.tail_drop, rest]
  exact ⟨rfl, rfl⟩

theorem ends_console (output : Output) (item : ℕ) :
    Ends (log flags) (.console item) output
      { output.print flags (output.logging_queue.drop item).flatten with
        logging_queue := [] } := by
  generalize rest : output.logging_queue.drop item = items
  induction items generalizing item output with
  | nil =>
      have stepped : logStep flags (.console item) output = some (.clear, output) := by
        simp only [logStep, getElem?_of_drop_eq_nil rest]
      rw [List.flatten_nil, print_nil]
      exact .step stepped (.step rfl (.leave rfl))
  | cons log_item items ih =>
      rcases getElem?_of_drop_eq_cons rest with ⟨first, later⟩
      have stepped : logStep flags (.console item) output =
          some (.console (item + 1), output.print flags log_item) := by
        simp only [logStep, first]
      have ends := ih (output.print flags log_item) (item + 1) later
      rw [print_print, ← List.flatten_cons] at ends
      exact .step stepped ends

/-- The items that are left are appended to a file. -/
theorem ends_items {index : ℕ} (output : Output) (item : ℕ)
    (inside : index < output.sinks.length)
    (ends : Ends (log flags) (.sink (index + 1) 0)
      { output with
        sinks := output.sinks.modify index (· ++ (output.logging_queue.drop item).flatten) }
      result) : Ends (log flags) (.sink index item) output result := by
  generalize rest : output.logging_queue.drop item = items at ends
  induction items generalizing item output with
  | nil =>
      have stepped : logStep flags (.sink index item) output =
          some (.sink (index + 1) 0, output) := by
        simp only [logStep, if_pos inside, getElem?_of_drop_eq_nil rest]
      simp only [List.flatten_nil, List.append_nil] at ends
      have unchanged : output.sinks.modify index (fun content => content) = output.sinks :=
        List.modify_id ..
      rw [unchanged] at ends
      exact .step stepped ends
  | cons log_item items ih =>
      rcases getElem?_of_drop_eq_cons rest with ⟨first, later⟩
      have stepped : logStep flags (.sink index item) output =
          some (.sink index (item + 1),
            { output with sinks := output.sinks.modify index (· ++ log_item) }) := by
        simp only [logStep, if_pos inside, first]
      refine .step stepped (ih _ (item + 1) ?_ later ?_)
      · simpa using inside
      · simp only [List.modify_modify_eq]
        convert ends using 3
        funext content
        simp

theorem take_modify_append {contents : List Bytes} {index : ℕ}
    (inside : index < contents.length) (change : Bytes → Bytes) :
    (contents.modify index change).take (index + 1) ++
        ((contents.modify index change).drop (index + 1)).map change =
      contents.take index ++ (contents.drop index).map change := by
  have before : (contents.take index).length = index := List.length_take_of_le inside.le
  have short : (contents.take index).length ≤ index + 1 := by omega
  rw [List.drop_modify_of_lt _ _ _ _ (Nat.lt_succ_self index), List.drop_eq_getElem_cons inside,
    List.modify_eq_take_cons_drop inside, List.take_append, List.take_of_length_le short, before,
    Nat.add_sub_cancel_left, List.take_succ_cons, List.take_zero, List.map_cons,
    List.append_assoc, List.singleton_append]

/-- The queue is appended to the files from an index on. -/
theorem ends_sinks (output : Output) {index : ℕ} (within : index ≤ output.sinks.length)
    (ends : Ends (log flags) (.console 0)
      { output with
        sinks := output.sinks.take index ++
          (output.sinks.drop index).map (· ++ output.logging_queue.flatten) }
      result) : Ends (log flags) (.sink index 0) output result := by
  generalize left : output.sinks.length - index = count
  induction count generalizing index output with
  | zero =>
      have atEnd : ¬index < output.sinks.length := by omega
      have stepped : logStep flags (.sink index 0) output = some (.console 0, output) := by
        simp only [logStep, if_neg atEnd]
      have outside : output.sinks.length ≤ index := by omega
      rw [List.take_of_length_le outside, List.drop_of_length_le outside, List.map_nil,
        List.append_nil] at ends
      exact .step stepped ends
  | succ count ih =>
      have inside : index < output.sinks.length := by omega
      apply ends_items output 0 inside
      apply ih
      · simpa using Nat.succ_le_of_lt inside
      · simp only [List.drop_zero, take_modify_append inside]
        exact ends
      · simp only [List.length_modify]
        omega

theorem performs_log : Performs (log flags) (logged flags) := by
  intro call output
  have ended : ∀ output : Output, Ends (log flags) (.sink 0 0) output
      (flushed flags output.logging_queue output) := by
    intro output
    apply ends_sinks output (Nat.zero_le _)
    exact ends_console { output with
      sinks := output.sinks.map (· ++ output.logging_queue.flatten) } 0
  have stepped : logStep flags (.add_to_queue call.log_line) output =
      some (.sink 0 0, { output with logging_queue := queued flags call output }) := by
    simp only [logStep, queued]
    split_ifs <;> rfl
  exact .step stepped (ended _)

/-! ### All calls -/

variable {Thread : Type*}

/-- The lines of calls, one after the other. -/
def text (flags : Flags) (calls : List (Thread × Call)) : Bytes :=
  if flags.is_enabled then (calls.map fun entry => entry.2.log_line).flatten else []

/-- A text is appended to every file and to the console. -/
def Output.append (flags : Flags) (output : Output) (written : Bytes) : Output :=
  { output.print flags written with sinks := output.sinks.map (· ++ written) }

theorem text_concat (calls : List (Thread × Call)) (thread : Thread) (call : Call) :
    text flags (calls ++ [(thread, call)]) =
      text flags calls ++ (if flags.is_enabled then call.log_line else []) := by
  simp only [text]
  split_ifs <;> simp

theorem logged_append (empty : output.logging_queue = []) (call : Call) (written : Bytes) :
    logged flags call (output.append flags written) =
      output.append flags (written ++ if flags.is_enabled then call.log_line else []) := by
  have queue : (queued flags call (output.append flags written)).flatten =
      if flags.is_enabled then call.log_line else [] := by
    have none_left : (output.append flags written).logging_queue = [] := empty
    rw [queued, none_left]
    split_ifs <;> simp
  rw [logged, flushed, queue, Output.append, Output.append, ← print_print]
  simp only [List.map_map, Function.comp_def, List.append_assoc]
  rw [Output.mk.injEq]
  exact ⟨empty.symm, rfl, rfl, rfl⟩

theorem performed_logged (output : Output) (empty : output.logging_queue = [])
    (calls : List (Thread × Call)) :
    performed (logged flags) output calls = output.append flags (text flags calls) := by
  induction calls using List.reverseRecOn with
  | nil =>
      have nothing : text flags ([] : List (Thread × Call)) = [] := by simp [text]
      rw [nothing, Output.append, print_nil]
      simp [performed]
  | append_singleton calls entry ih =>
      rcases entry with ⟨thread, call⟩
      rw [performed_concat, ih, text_concat, logged_append empty]

/-! ### What the files show -/

/-- The content of a file. -/
def Output.sink (output : Output) (index : ℕ) : Bytes :=
  output.sinks[index]?.getD []

/-- Something has been appended to the files and to the console. -/
structure Output.Before (earlier later : Output) : Prop where
  sink : ∀ index, earlier.sink index <+: later.sink index
  cout : earlier.cout <+: later.cout
  cerr : earlier.cerr <+: later.cerr

theorem Output.Before.refl (output : Output) : output.Before output :=
  ⟨fun _ => List.prefix_refl _, List.prefix_refl _, List.prefix_refl _⟩

theorem before_print (log_item : Bytes) : output.Before (output.print flags log_item) where
  sink _ := List.prefix_refl _
  cout := by
    simp only [Output.print]
    split_ifs
    · exact List.prefix_append _ _
    · exact List.prefix_refl _
  cerr := by
    simp only [Output.print]
    split_ifs
    · exact List.prefix_append _ _
    · exact List.prefix_refl _

theorem before_modify (index : ℕ) (log_item : Bytes) :
    output.Before { output with sinks := output.sinks.modify index (· ++ log_item) } where
  sink other := by
    simp only [Output.sink, List.getElem?_modify]
    cases output.sinks[other]? with
    | none => simp
    | some content =>
        by_cases same : index = other
        · simp [same]
        · simp [same]
  cout := List.prefix_refl _
  cerr := List.prefix_refl _

theorem grows_log : Grows (log flags) Output.Before where
  refl := Output.Before.refl
  trans first second third early late :=
    ⟨fun index => (early.sink index).trans (late.sink index), early.cout.trans late.cout,
      early.cerr.trans late.cerr⟩
  step point output next later stepped := by
    change logStep flags point output = some (next, later) at stepped
    cases point with
    | add_to_queue formatted_message =>
        simp only [logStep, Option.some.injEq, Prod.mk.injEq] at stepped
        rcases stepped with ⟨-, rfl⟩
        split_ifs
        · exact ⟨fun _ => List.prefix_refl _, List.prefix_refl _, List.prefix_refl _⟩
        · exact .refl output
    | sink index item =>
        simp only [logStep] at stepped
        split_ifs at stepped with inside
        · split at stepped
          case h_1 log_item _ =>
            cases stepped
            exact before_modify index log_item
          case h_2 =>
            cases stepped
            exact .refl output
        · cases stepped
          exact .refl output
    | console item =>
        simp only [logStep] at stepped
        split at stepped
        case h_1 log_item _ =>
          cases stepped
          exact before_print log_item
        case h_2 =>
          cases stepped
          exact .refl output
    | clear =>
        cases stepped
        exact ⟨fun _ => List.prefix_refl _, List.prefix_refl _, List.prefix_refl _⟩
    | unlock => cases stepped

theorem sink_append {index : ℕ} (inside : index < output.sinks.length) (written : Bytes) :
    (output.append flags written).sink index = output.sink index ++ written := by
  simp [Output.append, Output.sink, inside]

/-- However the threads take turns, the files and the console get the lines of the calls in the
order in which these have acquired the mutex.  Meanwhile a file has all of them but a last part of
the last one, and the holder can always come to its end. -/
theorem log_serial [DecidableEq Thread] (flags : Flags) {output : Output}
    (empty : output.logging_queue = []) {state : State Thread Call Point Output}
    (reached : Reachable (step (log flags)) (fun _ _ => True) (.free output) state) :
    (state.holder = none → state.store = output.append flags (text flags state.entered)) ∧
      (∀ index < output.sinks.length,
        output.sink index ++ text flags state.entered.dropLast <+: state.store.sink index ∧
          state.store.sink index <+: output.sink index ++ text flags state.entered) ∧
      ∀ thread point, state.holder = some (thread, point) →
        Reachable (step (log flags)) (fun _ event => event = .advance thread) state
          { store := output.append flags (text flags state.entered), holder := none
            entered := state.entered } := by
  have serial := Serial.reachable performs_log reached
  have bounds := between performs_log grows_log reached
  rw [performed_logged output empty, performed_logged output empty] at bounds
  refine ⟨?_, ?_, ?_⟩
  · intro free
    rw [serial.free free, performed_logged output empty]
  · intro index inside
    have lower := bounds.1.sink index
    have upper := bounds.2.sink index
    rw [sink_append inside] at lower upper
    exact ⟨lower, upper⟩
  · intro thread point holder
    have ends := serial.held thread point holder
    rw [performed_logged output empty] at ends
    rcases state with ⟨store, held, entered⟩
    subst holder
    exact exists_free_of_ends ends entered

def oneFile : Output :=
  { logging_queue := [], sinks := [[]], cout := [], cerr := [] }

def lineCall (message : Bytes) : Call :=
  { timestamp := ascii "[now] ", level := ascii "INFO", filemeta := ascii "f:1", message }

/-- One thread logs a line, and another one has written its line to the queue. -/
def twoCalls : List (Event Bool Call) :=
  .lock true (lineCall (ascii "first")) :: List.replicate 8 (.advance true) ++
    [.lock false (lineCall (ascii "second")), .advance false]

theorem log_serial_twoCalls :
    ∃ state : State Bool Call Point Output, state.entered.length = 2 ∧
      state.holder.isSome = true ∧
      state.store.sink 0 = ascii "[now] INFO \tf:1 \tfirst\n" ∧
      oneFile.sink 0 ++ text {} state.entered.dropLast <+: state.store.sink 0 := by
  have performed : (run (step (log {})) (.free oneFile) twoCalls).map (fun state =>
      (state.entered.length, state.holder.isSome, state.store.sink 0)) =
      some (2, true, ascii "[now] INFO \tf:1 \tfirst\n") := by decide
  rcases Option.map_eq_some_iff.mp performed with ⟨state, reached, fields⟩
  simp only [Prod.mk.injEq] at fields
  rcases fields with ⟨two, held, first⟩
  have serial := log_serial {} rfl (Reachable.of_run (fun _ _ _ => trivial) .start reached)
  exact ⟨state, two, held, first, (serial.2.1 0 (by decide)).1⟩

end Logger

end SyncDir
