import SyncDir.Library.Mirror.Crossing
import SyncDir.Library.Mirror.Echo
import SyncDir.Library.Mirror.Termination
import SyncDir.Protocol.Sync

/-!
# Echoes and crossing changes

A message carries neither a version nor the device that a change comes from, and
the server recognizes an echo only by the hash of the file that it has when the
echo arrives.  If two devices change a file at the same time, their changes
cross: the echo of the older one undoes the newer one, and the server and the
devices may exchange the two contents for ever.

While the changes of a file do not overlap, an echo changes nothing; and as long
as all messages in flight about a file carry the same change, the exchange dies
out.
-/

namespace SyncDir

namespace Sync

open Hub FileManager

/-- The hash test of the program tells the contents `x` and `y` apart. -/
theorem fnvDiffers_x_y :
    fnvDiffers [] (ascii "x") = true ∧ fnvDiffers (ascii "x") (ascii "y") = true ∧
      fnvDiffers (ascii "y") (ascii "x") = true := by
  simp only [fnvDiffers, fnv1a_eq_foldl]
  decide

theorem fnvDiffers_self (content : Bytes) : fnvDiffers content content = false := by
  simp [fnvDiffers]

theorem plainNames_f : PlainNames {ascii "f"} :=
  plainNames_singleton (by decide) (by decide)

def onlyF : Directory :=
  Function.update (fun _ => none) (ascii "f") (some (ascii "x"))

theorem supportedIn_onlyF : SupportedIn {ascii "f"} onlyF :=
  (supportedIn_empty {ascii "f"}).update (Set.mem_singleton _) _

def deleted : State Bool Directory Change :=
  (State.synced onlyF).edited true (.delete (ascii "f")) (Function.update onlyF (ascii "f") none)

theorem step_deleted : step (reactions fnvDiffers) (State.synced onlyF)
    (.edit true (.delete (ascii "f"))) = some deleted :=
  rfl

theorem reachable_deleted : Transition.Reachable (step (reactions fnvDiffers))
    (fun state event => event.Permitted (Concerns {ascii "f"}) ∧ Mirror.Disciplined state event)
    (State.synced onlyF) deleted := by
  have permitted : Event.Permitted (Concerns {ascii "f"})
      (.edit true (.delete (ascii "f")) : Event Bool Change) := rfl
  refine .step .start ⟨permitted, ?_⟩ step_deleted
  rintro other ⟨device, waiting | waiting⟩ <;> simp [State.synced] at waiting

section Runs

variable {Device : Type*} [DecidableEq Device] {names : Set Bytes} {files : Directory}
  {state : State Device Directory Change}

/-- In runs that edit a file only while no message about it is in flight, the server's handling
of an echo changes no file and pushes nothing. -/
theorem serve_echo_unchanged (plain : PlainNames names) (supported : SupportedIn names files)
    (reached : Transition.Reachable (step (reactions fnvDiffers))
      (fun state event => event.Permitted (Concerns names) ∧ Mirror.Disciplined state event)
      (State.synced files) state)
    {device : Device} {change : Change} {waiting : List (Upload Change)}
    (echo : state.up device = ⟨change, true⟩ :: waiting) {next : State Device Directory Change}
    (served : step (reactions fnvDiffers) state (.serve device) = some next) :
    next.server = state.server ∧ next.down = state.down := by
  rcases (agreement plain).reachable
    (fun _ _ allowed => allowed.1) (.synced supported) reached with ⟨mirrored, good⟩
  have settled := Mirror.Settled.reachable fnvDiffers_self (.synced files)
    (mirrored.mono fun _ _ allowed => allowed.2)
  have concerns : Concerns names change := good.messages _ ⟨device, Or.inl (by simp [echo])⟩
  have unchanged : serve fnvDiffers state.server change = (state.server, false) := by
    rw [serve_eq plain good.server concerns]
    exact settled.serve_echo fnvDiffers_self echo
  rcases step_serve_eq_some.mp served with ⟨upload, later, first, rfl⟩
  rcases List.cons.inj (echo.symm.trans first) with ⟨rfl, rfl⟩
  simp [State.served, State.pushed, reactions, unchanged]

/-- The echo of a pushed deletion finds nothing to delete. -/
theorem serve_echo_unchanged_deleted :
    ∃ state next : State Bool Directory Change,
      Transition.run (step (reactions fnvDiffers)) deleted [.serve true, .absorb false] =
        some state ∧
      state.up false = [⟨.delete (ascii "f"), true⟩] ∧
      step (reactions fnvDiffers) state (.serve false) = some next ∧
      next.server = state.server ∧ next.down = state.down := by
  have harmless : ∀ event ∈ ([.serve true, .absorb false] : List (Event Bool Change)),
      event.Permitted (Concerns {ascii "f"}) ∧
        ∀ state : State Bool Directory Change, Mirror.Disciplined state event := by
    simp [Event.Permitted, Mirror.Disciplined]
  have good := ((agreement plainNames_f).reachable (fun _ _ allowed => allowed.1)
    (.synced supportedIn_onlyF) reachable_deleted).2
  obtain ⟨state, performed, echo⟩ : ∃ state : State Bool Directory Change,
      Transition.run (step (reactions fnvDiffers)) deleted [.serve true, .absorb false] =
        some state ∧ state.up false = [⟨.delete (ascii "f"), true⟩] := by
    rw [(agreement plainNames_f).run_eq good fun event event_mem => (harmless event event_mem).1]
    exact ⟨_, rfl, rfl⟩
  have reached := Transition.Reachable.of_run
    (fun event event_mem state =>
      ⟨(harmless event event_mem).1, (harmless event event_mem).2 state⟩)
    reachable_deleted performed
  have served : step (reactions fnvDiffers) state (.serve false) = some _ :=
    step_serve_eq_some.mpr ⟨_, _, echo, rfl⟩
  exact ⟨state, _, performed, echo, served,
    serve_echo_unchanged plainNames_f supportedIn_onlyF reached echo served⟩

/-- From a state in which all messages in flight about a file carry the same change, the server
and finitely many devices cannot go on for ever without an edit. -/
theorem not_endless_of_unanimous [Fintype Device] (plain : PlainNames names)
    (supported : SupportedIn names files)
    (reached : Transition.Reachable (step (reactions fnvDiffers))
      (fun _ event => event.Permitted (Concerns names)) (State.synced files) state)
    (unanimous : Mirror.Unanimous state) :
    ¬Transition.Endless (step (reactions fnvDiffers)) (fun _ event => ¬event.IsEdit) state := by
  intro endless
  have good := ((agreement plain).reachable (fun _ _ => id) (.synced supported) reached).2
  exact Mirror.not_endless fnvDiffers_self unanimous ((agreement plain).endless good endless)

/-- So they cannot after a single deletion. -/
theorem not_endless_of_unanimous_deleted :
    ¬Transition.Endless (step (reactions fnvDiffers)) (fun _ event => ¬event.IsEdit) deleted := by
  have reached := reachable_deleted.mono fun _ _ allowed => allowed.1
  have only : ∀ change, deleted.InFlight change → change = .delete (ascii "f") := by
    rintro change ⟨device, waiting⟩
    cases device <;> simp_all [deleted, State.edited, State.synced]
  exact not_endless_of_unanimous plainNames_f supportedIn_onlyF reached
    fun first second firstInFlight secondInFlight _ =>
      (only first firstInFlight).trans (only second secondInFlight).symm

end Runs

/-! ### Crossing changes of the file `f` -/

section Crossing

theorem good_synced : (State.synced fun _ => none : State Bool Directory Change).Good
    (SupportedIn {ascii "f"}) (Concerns {ascii "f"}) :=
  .synced (supportedIn_empty _)

theorem concerns_crossingEvents : ∀ event ∈ Mirror.crossingEvents (ascii "f") (ascii "x")
    (ascii "y"), event.Permitted (Concerns {ascii "f"}) := by
  simp [Mirror.crossingEvents, Event.Permitted, Concerns, Mirror.Change.key]

theorem run_crossing :
    Transition.run (step (reactions fnvDiffers)) (State.synced fun _ => none)
        (Mirror.crossingEvents (ascii "f") (ascii "x") (ascii "y")) =
      some (Mirror.crossed (fun _ => none) (ascii "f") (ascii "x") (ascii "y") false) := by
  rw [(agreement plainNames_f).run_eq good_synced concerns_crossingEvents]
  exact Mirror.run_crossingEvents (by decide) (by decide) fnvDiffers_x_y.1 fnvDiffers_x_y.2.1

theorem reachable_crossed : Transition.Reachable (step (reactions fnvDiffers))
    (fun _ event => event.Permitted (Concerns {ascii "f"})) (State.synced fun _ => none)
    (Mirror.crossed (fun _ => none) (ascii "f") (ascii "x") (ascii "y") false) :=
  .of_run (fun event event_mem _ => concerns_crossingEvents event event_mem) .start run_crossing

theorem good_crossed :
    (Mirror.crossed (fun _ => none) (ascii "f") (ascii "x") (ascii "y") false).Good
      (SupportedIn {ascii "f"}) (Concerns {ascii "f"}) :=
  ((agreement plainNames_f).reachable (fun _ _ => id) good_synced reachable_crossed).2

/-- The echo of `x` undoes the newer `y` on the server, and is pushed to the other device. -/
theorem echo_undoes_newer :
    ∃ state next : State Bool Directory Change,
      Transition.run (step (reactions fnvDiffers)) (State.synced fun _ => none)
        (Mirror.crossingEvents (ascii "f") (ascii "x") (ascii "y") ++ [.absorb false]) =
          some state ∧
      state.up false = [⟨.write (ascii "f") (ascii "x"), true⟩] ∧
      step (reactions fnvDiffers) state (.serve false) = some next ∧
      state.server (ascii "f") = some (ascii "y") ∧ next.server (ascii "f") = some (ascii "x") ∧
      next.down true = state.down true ++ [.write (ascii "f") (ascii "x")] := by
  have absorbPermitted : Event.Permitted (Concerns {ascii "f"}) (.absorb false) := trivial
  have servePermitted : Event.Permitted (Concerns {ascii "f"}) (.serve false) := trivial
  have absorbed : step (reactions fnvDiffers)
      (Mirror.crossed (fun _ => none) (ascii "f") (ascii "x") (ascii "y") false)
      (.absorb false) = some (Mirror.echoing (fun _ => none) (ascii "f") (ascii "x") (ascii "y")) :=
    ((agreement plainNames_f).step_eq good_crossed absorbPermitted).trans Mirror.step_absorb_crossed
  have good := (agreement plainNames_f).step_good good_crossed absorbPermitted absorbed
  have served : step (reactions fnvDiffers)
      (Mirror.echoing (fun _ => none) (ascii "f") (ascii "x") (ascii "y")) (.serve false) =
        some (Mirror.undone (fun _ => none) (ascii "f") (ascii "x") (ascii "y")) :=
    ((agreement plainNames_f).step_eq good servePermitted).trans
      (Mirror.step_serve_echoing fnvDiffers_x_y.2.2)
  refine ⟨_, _, ?_, rfl, served, by simp [Mirror.echoing], by simp [Mirror.undone], rfl⟩
  rw [Transition.run_append, run_crossing, Option.bind_some, Transition.run, absorbed]
  rfl

/-- After these writes the server and the two devices can go on for ever without an edit. -/
theorem endless_without_edit :
    ∃ state : State Bool Directory Change,
      Transition.Reachable (step (reactions fnvDiffers))
        (fun _ event => event.Permitted (Concerns {ascii "f"})) (State.synced fun _ => none) state ∧
      Transition.Endless (step (reactions fnvDiffers)) (fun _ event => ¬event.IsEdit) state :=
  ⟨_, reachable_crossed, (agreement plainNames_f).symm.endless good_crossed
    (Mirror.endless_crossed fnvDiffers_x_y.2.1 fnvDiffers_x_y.2.2 false)⟩

end Crossing

end Sync

end SyncDir
