import Mathlib.Data.Option.Basic
import Mathlib.Logic.Function.Basic

/-!
# Mutual exclusion

Threads move between program points, some of which lie inside the critical
section of a mutex.  As long as a thread acquires the mutex when it enters the
section and only its holder releases it, the threads inside are those that hold
the mutex, so that there is at most one of them.
-/

namespace MutualExclusion

variable {Thread Point : Type*} {Inside : Point → Prop} {holder : Option Thread}
  {points : Thread → Point} {thread first second : Thread} {point : Point}

/-- The threads in the critical section are those that hold the mutex. -/
def Guards (Inside : Point → Prop) (holder : Option Thread) (points : Thread → Point) : Prop :=
  ∀ thread, Inside (points thread) ↔ holder = some thread

theorem Guards.unique (guards : Guards Inside holder points) (firstInside : Inside (points first))
    (secondInside : Inside (points second)) : first = second :=
  Option.some_injective _
    (((guards first).mp firstInside).symm.trans ((guards second).mp secondInside))

variable [DecidableEq Thread]

theorem Guards.acquire (guards : Guards Inside none points) (enters : Inside point) :
    Guards Inside (some thread) (Function.update points thread point) := by
  intro other
  by_cases same : other = thread
  · subst same
    rw [Function.update_self]
    exact iff_of_true enters rfl
  · rw [Function.update_of_ne same, guards other]
    simp [Ne.symm same]

theorem Guards.release (guards : Guards Inside (some thread) points) (leaves : ¬Inside point) :
    Guards Inside none (Function.update points thread point) := by
  intro other
  by_cases same : other = thread
  · subst same
    rw [Function.update_self]
    exact iff_of_false leaves (Option.some_ne_none _ ∘ Eq.symm)
  · rw [Function.update_of_ne same, guards other]
    simp [Ne.symm same]

theorem Guards.stay (guards : Guards Inside holder points)
    (same : Inside point ↔ Inside (points thread)) :
    Guards Inside holder (Function.update points thread point) := by
  intro other
  by_cases moved : other = thread
  · subst moved
    rw [Function.update_self, same]
    exact guards other
  · rw [Function.update_of_ne moved]
    exact guards other

end MutualExclusion
