import Mathlib.Data.Set.Function
import Mathlib.Data.Set.Lattice
import Mathlib.Order.CompletePartialOrder

/-!
# Footprints

A table assigns values to keys.  An operation on a table has a set of keys for
its footprint if it does not look at the other keys and leaves them as they are.

Operations with disjoint footprints can be performed one after the other in any
order: each of them leaves on its own keys what it would leave alone.
-/

variable {Key Value Answer : Type*}

structure Footprint (keys : Set Key) (operation : (Key → Value) → Answer × (Key → Value)) :
    Prop where
  agrees : ∀ first second, Set.EqOn first second keys →
    (operation first).1 = (operation second).1 ∧
      Set.EqOn (operation first).2 (operation second).2 keys
  frame : ∀ table, Set.EqOn (operation table).2 table keysᶜ

namespace Footprint

variable {keys other : Set Key} {operation : (Key → Value) → Answer × (Key → Value)}

theorem eqOn_of_disjoint (footprint : Footprint keys operation) (disjoint : Disjoint keys other)
    (table : Key → Value) : Set.EqOn (operation table).2 table other :=
  (footprint.frame table).mono disjoint.subset_compl_left

theorem constant (answer : Answer) :
    Footprint keys fun table : Key → Value => (answer, table) where
  agrees _ _ same := ⟨rfl, same⟩
  frame _ := Set.eqOn_refl _ _

theorem read {key : Key} (key_mem : key ∈ keys) (answer : Value → Answer) :
    Footprint keys fun table => (answer (table key), table) where
  agrees _ _ same := ⟨congrArg answer (same key_mem), same⟩
  frame _ := Set.eqOn_refl _ _

/-- The value of one key is read and replaced. -/
theorem update [DecidableEq Key] {key : Key} (key_mem : key ∈ keys) (answer : Value → Answer)
    (value : Value → Value) :
    Footprint keys fun table =>
      (answer (table key), Function.update table key (value (table key))) where
  agrees first second same := by
    have sameValue := same key_mem
    refine ⟨congrArg answer sameValue, ?_⟩
    intro other other_mem
    by_cases isKey : other = key
    · simp only [isKey, Function.update_self, sameValue]
    · simp only [Function.update_of_ne isKey]
      exact same other_mem
  frame table other other_mem := by
    apply Function.update_of_ne
    rintro rfl
    exact other_mem key_mem

/-- An operation that depends on the answer of another one. -/
theorem andThen {Next : Type*} {next : Answer → (Key → Value) → Next × (Key → Value)}
    (footprint : Footprint keys operation) (later : ∀ answer, Footprint keys (next answer)) :
    Footprint keys fun table => next (operation table).1 (operation table).2 where
  agrees first second same := by
    rcases footprint.agrees first second same with ⟨sameAnswer, between⟩
    rw [sameAnswer]
    exact (later _).agrees _ _ between
  frame table := ((later _).frame _).trans (footprint.frame table)

theorem mono (footprint : Footprint keys operation) (wider : keys ⊆ other) :
    Footprint other operation where
  agrees first second same := by
    rcases footprint.agrees first second (same.mono wider) with ⟨sameAnswer, inside⟩
    refine ⟨sameAnswer, ?_⟩
    intro key key_mem
    by_cases key_inside : key ∈ keys
    · exact inside key_inside
    · rw [footprint.frame first key_inside, footprint.frame second key_inside, same key_mem]
  frame table := (footprint.frame table).mono (Set.compl_subset_compl.mpr wider)

/-! ### Changes in any order -/

section Serial

variable {Task : Type*} {keys : Task → Set Key} {change : Task → (Key → Value) → Key → Value}
  (footprints : ∀ task, Footprint (keys task) fun table => ((), change task table))
include footprints

theorem foldl_apply_of_forall_notMem {tasks : List Task} {key : Key}
    (untouched : ∀ task ∈ tasks, key ∉ keys task) (table : Key → Value) :
    tasks.foldl (fun table task => change task table) table key = table key := by
  induction tasks generalizing table with
  | nil => rfl
  | cons task tasks ih =>
      have later := fun other other_mem => untouched other (List.mem_cons_of_mem task other_mem)
      rw [List.foldl_cons, ih later]
      exact (footprints task).frame table (untouched task List.mem_cons_self)

/-- Each of the changes has the effect that it has alone. -/
theorem eqOn_foldl (disjoint : Pairwise fun first second => Disjoint (keys first) (keys second))
    {tasks : List Task} (nodup : tasks.Nodup) {task : Task} (task_mem : task ∈ tasks)
    (table : Key → Value) :
    Set.EqOn (tasks.foldl (fun table task => change task table) table) (change task table)
      (keys task) := by
  induction tasks generalizing table with
  | nil => cases task_mem
  | cons first tasks ih =>
      rw [List.foldl_cons]
      rcases List.nodup_cons.mp nodup with ⟨notLater, rest⟩
      by_cases isFirst : task = first
      · subst first
        intro key key_mem
        apply foldl_apply_of_forall_notMem footprints
        intro later later_mem also
        have different : task ≠ later := by
          rintro rfl
          exact notLater later_mem
        exact Set.disjoint_left.mp (disjoint different) key_mem also
      · have later : task ∈ tasks := by
          rcases List.mem_cons.mp task_mem with same | later
          · exact absurd same isFirst
          · exact later
        have unchanged := (footprints first).eqOn_of_disjoint (disjoint (Ne.symm isFirst)) table
        exact (ih rest later _).trans ((footprints task).agrees _ _ unchanged).2

end Serial

end Footprint
