import Mathlib.Logic.Function.Basic

/-!
# Ownership

At some of their points, threads own a token, which no other thread should own
at the same time.  A thread can go on with what it owns, drop it, or take a
token that no one owns.
-/

namespace Ownership

variable {Thread Point Token : Type*} {owned : Point → Option Token} {points : Thread → Point}
  {thread other : Thread} {point : Point} {token : Token}

/-- No token is owned by two threads. -/
def Unshared (owned : Point → Option Token) (points : Thread → Point) : Prop :=
  ∀ first second token, owned (points first) = some token →
    owned (points second) = some token → first = second

variable [DecidableEq Thread]

/-- What is owned after a thread has moved is owned by this thread, or was owned before. -/
theorem owned_of_update
    (has : owned (Function.update points thread point other) = some token) :
    other = thread ∧ owned point = some token ∨
      other ≠ thread ∧ owned (points other) = some token := by
  by_cases same : other = thread
  · rw [same, Function.update_self] at has
    exact Or.inl ⟨same, has⟩
  · rw [Function.update_of_ne same] at has
    exact Or.inr ⟨same, has⟩

/-- What is owned after a thread has moved without a new token was owned before. -/
theorem owned_of_kept
    (kept : ∀ token, owned point = some token → owned (points thread) = some token)
    (has : owned (Function.update points thread point other) = some token) :
    owned (points other) = some token := by
  rcases owned_of_update has with ⟨rfl, new⟩ | ⟨-, old⟩
  · exact kept token new
  · exact old

theorem Unshared.keep (unshared : Unshared owned points)
    (kept : ∀ token, owned point = some token → owned (points thread) = some token) :
    Unshared owned (Function.update points thread point) := by
  intro first second token firstHas secondHas
  exact unshared first second token (owned_of_kept kept firstHas) (owned_of_kept kept secondHas)

/-- A thread may take a token that no thread owns. -/
theorem Unshared.take (unshared : Unshared owned points)
    (unowned : ∀ token, owned point = some token → ∀ other, owned (points other) ≠ some token) :
    Unshared owned (Function.update points thread point) := by
  intro first second token firstHas secondHas
  rcases owned_of_update firstHas with ⟨firstMoved, firstNew⟩ | ⟨-, firstOld⟩
  · rcases owned_of_update secondHas with ⟨secondMoved, -⟩ | ⟨-, secondOld⟩
    · rw [firstMoved, secondMoved]
    · exact absurd secondOld (unowned token firstNew second)
  · rcases owned_of_update secondHas with ⟨-, secondNew⟩ | ⟨-, secondOld⟩
    · exact absurd firstOld (unowned token secondNew first)
    · exact unshared first second token firstOld secondOld

end Ownership
