/-
`App::exit` and `App::signal_root_process` (tui/app.rs): what the TUI does to
the pseudo terminal and the traced program when it is told to leave.

`exit` closes the pane of the pseudo terminal, if there is one, and then sends
`SIGTERM` or `SIGKILL` to the root pid, if it knows one.  The root pid is set
only by a `RootChildSpawn` tracer event, and no action touches it or the pty
master.  So after every run from `App::new`, `exit` closes exactly the pty master
`App::new` was given and signals only a pid a `RootChildSpawn` event of the run
announced, never one it made up.
-/

import Tracexec.Tui.Run

namespace Tracexec.Tui

/-- The signals `exit` sends. -/
inductive Signal
  | sigterm
  | sigkill
  deriving DecidableEq, Repr

/-- What `exit` does outside the `App`: `PseudoTerminalPane::exit`, which
closes the pty master, and `nix::sys::signal::kill`. -/
inductive ExitEffect
  | closePty (master : UnixMasterPty)
  | kill (pid : Int) (signal : Signal)
  deriving DecidableEq, Repr

def App.signalRootProcess (app : App) (signal : Signal) : List ExitEffect :=
  match app.rootPid with
  | some rootPid => [.kill rootPid signal]
  | none => []

def App.exit (app : App) (terminateOnExit killOnExit : Bool) : List ExitEffect :=
  (app.term.map fun term => .closePty term.master).toList ++
    if terminateOnExit then app.signalRootProcess .sigterm
    else if killOnExit then app.signalRootProcess .sigkill
    else []

/-- What `exit` does: it closes the pane of the pseudo terminal, if there is
one, and sends one signal to the root pid, if there is one and either flag is
set, `SIGTERM` taking precedence. -/
theorem mem_exit {app : App} {terminateOnExit killOnExit : Bool} {effect : ExitEffect} :
    effect ∈ app.exit terminateOnExit killOnExit ↔
      (∃ term ∈ app.term, effect = .closePty term.master) ∨
        ∃ pid, app.rootPid = some pid ∧ (terminateOnExit ∨ killOnExit) ∧
          effect = .kill pid (if terminateOnExit then .sigterm else .sigkill) := by
  unfold App.exit App.signalRootProcess
  cases app.term <;> cases app.rootPid <;> cases terminateOnExit <;> cases killOnExit <;>
    simp [eq_comm]

/-! ### The root pid and the pty master over a run -/

/-- `render` changes neither the root pid nor the pty master. -/
theorem render_rootPid_master {methods : EventListMethods} {resizeFails : Bool} {app next : App}
    {area : Rect} {frame : Frame}
    (rendered : app.render methods resizeFails area = some (next, frame)) :
    next.rootPid = app.rootPid ∧ next.term.map (·.master) = app.term.map (·.master) := by
  rcases render_state rendered with rfl | ⟨_, rfl, rfl⟩
  · exact ⟨rfl, rfl⟩
  · split_ifs <;> simp [App.resizePanes, Option.map_map, Function.comp_def]

/-- No action changes the root pid or the pty master. -/
theorem perform_rootPid_master {methods : EventListMethods} {io : Io} {app next : App}
    {action : Action} (performed : app.perform methods io action = .ok next) :
    next.rootPid = app.rootPid ∧ next.term.map (·.master) = app.term.map (·.master) := by
  cases action
  case render =>
    obtain ⟨_, rendered⟩ := draw_eq_ok performed
    exact render_rootPid_master rendered
  case copyToClipboard =>
    rcases perform_copyToClipboard_eq_ok performed with rfl | rfl <;> exact ⟨rfl, rfl⟩
  all_goals simp only [App.perform, Except.ok.injEq, reduceCtorEq] at performed <;> subst performed
  case shrinkPane =>
    unfold App.shrinkPane
    split_ifs <;> exact ⟨rfl, rfl⟩
  case growPane =>
    unfold App.growPane
    split_ifs <;> exact ⟨rfl, rfl⟩
  all_goals exact ⟨rfl, rfl⟩

/-- An event keeps the pty master, and keeps the root pid unless it is a
`RootChildSpawn`, which sets it to the child's pid. -/
theorem handleEvent_rootPid_master {app next : App} {io : Io} {event : Event}
    {sent : Option Action} (handled : app.handleEvent io event = .ok (next, sent)) :
    (next.rootPid = app.rootPid ∨
        ∃ pid, event = .tracer (.rootChildSpawn pid) ∧ next.rootPid = some pid) ∧
      next.term = app.term := by
  rcases handleEvent_eq_ok handled with rfl | ⟨pid, rfl, rfl⟩ | ⟨_, rfl⟩
  · exact ⟨Or.inl rfl, rfl⟩
  · exact ⟨Or.inr ⟨pid, rfl, rfl⟩, rfl⟩
  · exact ⟨Or.inl rfl, rfl⟩

/-- A turn keeps the pty master, and keeps the root pid unless its event is a
`RootChildSpawn`, which sets it. -/
theorem turn_rootPid_master {methods : EventListMethods} {io : Io} {app next : App}
    {event : Event} (turned : app.turn methods io event = .ok next) :
    (next.rootPid = app.rootPid ∨
        ∃ pid, event = .tracer (.rootChildSpawn pid) ∧ next.rootPid = some pid) ∧
      next.term.map (·.master) = app.term.map (·.master) := by
  obtain ⟨handled, sent, handledEq, ⟨-, rfl⟩ | ⟨action, -, performed⟩⟩ := turn_eq_ok turned
  all_goals obtain ⟨handledPid, handledTerm⟩ := handleEvent_rootPid_master handledEq
  · exact ⟨handledPid, by rw [handledTerm]⟩
  · obtain ⟨samePid, sameMaster⟩ := perform_rootPid_master performed
    exact ⟨samePid ▸ handledPid, sameMaster.trans (by rw [handledTerm])⟩

/-- After a run, the root pid is the one the `App` had, or the pid of a
`RootChildSpawn` event of the run; the pty master is the one it had. -/
theorem run_rootPid_master (methods : EventListMethods) (app : App)
    (events : List (Io × Event)) :
    ((app.run methods events).rootPid = app.rootPid ∨
        ∃ io pid, (io, Event.tracer (.rootChildSpawn pid)) ∈ events ∧
          (app.run methods events).rootPid = some pid) ∧
      (app.run methods events).term.map (·.master) = app.term.map (·.master) := by
  induction events generalizing app with
  | nil => exact ⟨Or.inl rfl, rfl⟩
  | cons step rest ih =>
      obtain ⟨io, event⟩ := step
      simp only [App.run]
      cases turned : app.turn methods io event with
      | error => exact ⟨Or.inl rfl, rfl⟩
      | ok next =>
          obtain ⟨stepPid, stepMaster⟩ := turn_rootPid_master turned
          obtain ⟨restPid, restMaster⟩ := ih next
          refine ⟨?_, restMaster.trans stepMaster⟩
          rcases restPid with same | ⟨spawnIo, pid, member, spawned⟩
          · rcases stepPid with kept | ⟨pid, rfl, spawned⟩
            · exact Or.inl (same.trans kept)
            · exact Or.inr ⟨io, pid, List.mem_cons_self _ _, same.trans spawned⟩
          · exact Or.inr ⟨spawnIo, pid, List.mem_cons_of_mem _ member, spawned⟩

/-- After every run of events from `App::new`, `App::exit` closes exactly the
pty master `App::new` was given, and every signal it sends goes to the pid of a
`RootChildSpawn` event of the run. -/
theorem exit_run_new (methods : EventListMethods) (eventList : EventList)
    (ptyMaster : Option UnixMasterPty) (activePane : ActivePane) (layout : AppLayout)
    (events : List (Io × Event)) (terminateOnExit killOnExit : Bool) :
    let app := (App.new eventList ptyMaster activePane layout).run methods events
    (∀ master, ExitEffect.closePty master ∈ app.exit terminateOnExit killOnExit ↔
        ptyMaster = some master) ∧
      ∀ pid signal, ExitEffect.kill pid signal ∈ app.exit terminateOnExit killOnExit →
        ∃ io, (io, Event.tracer (.rootChildSpawn pid)) ∈ events := by
  intro app
  obtain ⟨rootPid, master⟩ := run_rootPid_master methods
    (App.new eventList ptyMaster activePane layout) events
  refine ⟨fun closed => ?_, fun pid signal killed => ?_⟩
  · have masters : (app.term.map (·.master) = some closed) ↔ ptyMaster = some closed := by
      rw [master]
      cases ptyMaster <;> simp [App.new, PseudoTerminalPane.new]
    rw [mem_exit, ← masters]
    simp [Option.map_eq_some', @eq_comm _ closed]
  · rcases mem_exit.mp killed with ⟨_, _, impossible⟩ | ⟨announced, found, -, same⟩
    · cases impossible
    · injection same with samePid
      subst samePid
      rcases rootPid with never | ⟨io, spawnedPid, member, spawned⟩
      · exact absurd (found.symm.trans never) (by simp [App.new])
      · exact ⟨io, Option.some.inj (found.symm.trans spawned) ▸ member⟩

end Tracexec.Tui
