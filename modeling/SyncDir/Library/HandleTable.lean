import Mathlib.Logic.Function.Basic

/-!
# Handles

A system gives out handles, and takes them back when they are closed.  It gives
out only handles that are not open, so that a closed one can be given to a new
owner.  Who refers to a handle that has been closed does not notice this: the
reference is valid only as long as the handle is open and has not changed its
owner.
-/

namespace HandleTable

variable {Handle Owner : Type*}

/-- The owner of each open handle. -/
abbrev Table (Handle Owner : Type*) := Handle → Option Owner

/-- The reference is null, or leads to an open handle of the owner. -/
def Valid (table : Table Handle Owner) (owner : Owner) (reference : Option Handle) : Prop :=
  ∀ handle, reference = some handle → table handle = some owner

variable {table : Table Handle Owner} {owner other : Owner} {reference : Option Handle}
  {handle : Handle}

theorem valid_none : Valid table owner none :=
  nofun

/-- A valid reference leads to no handle of another owner. -/
theorem Valid.ne_some (valid : Valid table owner reference) (held : table handle = some other)
    (different : other ≠ owner) : reference ≠ some handle := by
  intro leads
  rw [valid handle leads] at held
  exact different (Option.some_inj.mp held).symm

variable [DecidableEq Handle]

def acquire (table : Table Handle Owner) (handle : Handle) (owner : Owner) : Table Handle Owner :=
  Function.update table handle (some owner)

def release (table : Table Handle Owner) (handle : Handle) : Table Handle Owner :=
  Function.update table handle none

theorem valid_acquire : Valid (acquire table handle owner) owner (some handle) := by
  rintro _ ⟨⟩
  exact Function.update_self ..

theorem not_valid_release : ¬Valid (release table handle) owner (some handle) := by
  intro valid
  have held := valid handle rfl
  rw [release, Function.update_self] at held
  cases held

theorem release_acquire (free : table handle = none) :
    release (acquire table handle owner) handle = table := by
  rw [release, acquire, Function.update_idem, Function.update_eq_self_iff, free]

/-- A handle that is given out is none that a valid reference leads to. -/
theorem Valid.acquire (valid : Valid table owner reference) (free : table handle = none) :
    Valid (acquire table handle other) owner reference := by
  intro referred leads
  have held := valid referred leads
  have different : referred ≠ handle := by
    rintro rfl
    rw [free] at held
    cases held
  rw [HandleTable.acquire, Function.update_of_ne different, held]

theorem Valid.release (valid : Valid table owner reference) (different : reference ≠ some handle) :
    Valid (release table handle) owner reference := by
  intro referred leads
  have apart : referred ≠ handle := by
    rintro rfl
    exact different leads
  rw [HandleTable.release, Function.update_of_ne apart, valid referred leads]

/-! ### Exact tables -/

/-- The table says of every open handle who holds it, where an owner holds one handle at most. -/
def Exact (table : Table Handle Owner) (holds : Owner → Option Handle) : Prop :=
  ∀ handle owner, table handle = some owner ↔ holds owner = some handle

variable [DecidableEq Owner] {holds : Owner → Option Handle}

theorem Exact.acquire (exact : Exact table holds) (free : table handle = none)
    (empty : holds owner = none) :
    Exact (acquire table handle owner) (Function.update holds owner (some handle)) := by
  intro asked other
  have apart := exact asked other
  by_cases given : asked = handle <;> by_cases same : other = owner
  · subst given same
    simp [HandleTable.acquire]
  · subst given
    rw [free] at apart
    simpa [HandleTable.acquire, Function.update_of_ne same, Ne.symm same] using apart
  · subst same
    rw [empty] at apart
    simpa [HandleTable.acquire, Function.update_of_ne given, Ne.symm given] using apart
  · simpa [HandleTable.acquire, Function.update_of_ne given, Function.update_of_ne same] using apart

theorem Exact.release (exact : Exact table holds) (held : holds owner = some handle) :
    Exact (release table handle) (Function.update holds owner none) := by
  have owned := (exact handle owner).mpr held
  intro asked other
  have apart := exact asked other
  by_cases given : asked = handle <;> by_cases same : other = owner
  · subst given same
    simp [HandleTable.release]
  · subst given
    rw [owned] at apart
    simpa [HandleTable.release, Function.update_of_ne same, Ne.symm same] using apart
  · subst same
    rw [held] at apart
    simpa [HandleTable.release, Function.update_of_ne given, Ne.symm given] using apart
  · simpa [HandleTable.release, Function.update_of_ne given, Function.update_of_ne same] using apart

end HandleTable
