import SyncDir.Library.Mirror.Basic

/-!
# Crossing changes of mirrored maps

Two devices that write different values to one entry at the same time make the
hub forward each value to the device that has the other one.  From then on the
messages chase each other: a device echoes the value that it has absorbed, by
then the hub has the other value, and it takes the echo for a new change.

The events below lead from a synchronized state to the crossed state, and from
the crossed state, without any edit, to its mirror image and so back to itself.
-/

namespace Mirror

open Hub Transition

variable {Key Value : Type*} [DecidableEq Key]

/-- The hub and the device `owner` have the value `second`, the other device has `first`, and
each device is about to absorb the value of the other one. -/
def crossed (map : Key → Option Value) (key : Key) (first second : Value) (owner : Bool) :
    State Bool (Key → Option Value) (Change Key Value) where
  server := Function.update map key (some second)
  device device := Function.update map key (some (if device = owner then second else first))
  up _ := []
  down device := [.write key (if device = owner then first else second)]

/-- After the crossed state, device `false` has absorbed and sends back the value `first`. -/
def echoing (map : Key → Option Value) (key : Key) (first second : Value) :
    State Bool (Key → Option Value) (Change Key Value) where
  server := Function.update map key (some second)
  device _ := Function.update map key (some first)
  up device := if device = true then [] else [⟨.write key first, true⟩]
  down device := if device = true then [.write key second] else []

/-- The hub has served the echo: it has the value `first` again. -/
def undone (map : Key → Option Value) (key : Key) (first second : Value) :
    State Bool (Key → Option Value) (Change Key Value) where
  server := Function.update map key (some first)
  device _ := Function.update map key (some first)
  up _ := []
  down device := if device = true then [.write key second, .write key first] else []

/-- Both devices write to the same entry, and the hub serves both uploads. -/
def crossingEvents (key : Key) (first second : Value) : List (Event Bool (Change Key Value)) :=
  [.edit true (.write key first), .edit false (.write key second), .serve true, .serve false]

/-- Both devices absorb what they are sent, and the hub serves both echoes. -/
def turnEvents (owner : Bool) : List (Event Bool (Change Key Value)) :=
  [.absorb (!owner), .absorb owner, .serve owner, .serve (!owner)]

variable [DecidableEq Value] {differs : Value → Value → Bool} {blank : Value}
  {map : Key → Option Value} {key : Key} {first second : Value}

theorem run_crossingEvents (firstNotBlank : first ≠ blank) (secondNotBlank : second ≠ blank)
    (fresh : differs ((map key).getD blank) first = true) (newer : differs first second = true) :
    run (step (reactions differs blank)) (State.synced map) (crossingEvents key first second) =
      some (crossed map key first second false) := by
  simp [run, crossingEvents, step, reactions, edit, firstNotBlank, secondNotBlank, State.edited,
    State.synced, State.served, State.pushed, serve, fresh, newer, crossed, funext_iff]

theorem run_turnEvents (newer : differs first second = true) (older : differs second first = true)
    (owner : Bool) :
    run (step (reactions differs blank)) (crossed map key first second owner) (turnEvents owner) =
      some (crossed map key first second !owner) := by
  cases owner <;>
    simp [run, turnEvents, step, reactions, absorb, serve, crossed, State.absorbed, State.served,
      State.pushed, newer, older, funext_iff]

/-- So the hub and the devices exchange messages for ever. -/
theorem endless_crossed (newer : differs first second = true) (older : differs second first = true)
    (owner : Bool) :
    Endless (step (reactions differs blank)) (fun _ event => ¬event.IsEdit)
      (crossed map key first second owner) := by
  have cycle : run (step (reactions differs blank)) (crossed map key first second owner)
      (turnEvents owner ++ turnEvents !owner) = some (crossed map key first second owner) := by
    rw [run_append, run_turnEvents newer older, Option.bind_some, run_turnEvents newer older,
      Bool.not_not]
  apply endless_of_cycle (by simp [turnEvents]) _ cycle
  simp [turnEvents, Event.IsEdit]

/-- Device `false` sends back the value `first`, while the hub has the newer one. -/
theorem step_absorb_crossed :
    step (reactions differs blank) (crossed map key first second false) (.absorb false) =
      some (echoing map key first second) := by
  simp [step, crossed, echoing, State.absorbed, reactions, absorb, funext_iff]

/-- Serving the echo undoes the newer value, and forwards the older one. -/
theorem step_serve_echoing (older : differs second first = true) :
    step (reactions differs blank) (echoing map key first second) (.serve false) =
      some (undone map key first second) := by
  simp [step, echoing, undone, State.served, State.pushed, reactions, serve, older, funext_iff]

end Mirror
