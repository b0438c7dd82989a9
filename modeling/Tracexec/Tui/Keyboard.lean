/-
The keyboard of `App::run` (tui/app.rs) as a two-state machine.

Beside the navigation, rendering and resizing that most keys and events drive,
what a user typing sees is small: `Ctrl+S` switches between the events pane and
the terminal pane; in the terminal pane every other key goes to the pseudo
terminal, through the `HandleTerminalKeyPress` arm and
`PseudoTerminalPane::handle_key_event`; in the events pane `q` quits; a
`ShouldQuit` event quits in either pane; nothing else moves the pane or writes
to the pty.  `keyboardRun` is that machine.  For an `App` with a pseudo
terminal, every run of `App::run` hands the pty the keys `keyboardRun` gives, in
order, up to where a failed call or the resize panic ends the run early; a run
whose calls all succeed hands it exactly those keys.
-/

import Tracexec.Tui.Quit

namespace Tracexec.Tui

/-! ### What the pseudo terminal receives -/

/-- The key the `HandleTerminalKeyPress` arm hands to
`PseudoTerminalPane::handle_key_event`, when there is a pseudo terminal. -/
def App.ptyKeys (app : App) : Action → List KeyEvent
  | .handleTerminalKeyPress key =>
      match app.term with
      | some _ => [key]
      | none => []
  | _ => []

/-- The keys one turn hands to the pseudo terminal. -/
def App.turnPtyKeys (app : App) (io : Io) (event : Event) : List KeyEvent :=
  match app.handleEvent io event with
  | .ok (handled, some action) => handled.ptyKeys action
  | _ => []

/-- The keys a run of `App::run` hands to the pseudo terminal, until the loop
ends. -/
def App.runPtyKeys (methods : EventListMethods) : App → List (Io × Event) → List KeyEvent
  | _, [] => []
  | app, (io, event) :: rest =>
      app.turnPtyKeys io event ++
        match app.turn methods io event with
        | .error _ => []
        | .ok next => next.runPtyKeys methods rest

/-! ### The keyboard machine -/

/-- One event of the keyboard machine: the pane after it, `none` when the run
ends, and the keys it hands to the pseudo terminal. -/
def keyboardStep (pane : ActivePane) : Event → Option ActivePane × List KeyEvent
  | .shouldQuit => (none, [])
  | .key key =>
      if key.code = .char 's' ∧ key.modifiers.contains .control then (some pane.switch, [])
      else
        match pane with
        | .terminal => (some .terminal, [key])
        | .events => (if key.code = .char 'q' then none else some .events, [])
  | _ => (some pane, [])

/-- The keys the keyboard machine hands to the pseudo terminal over a run. -/
def keyboardRun : ActivePane → List Event → List KeyEvent
  | _, [] => []
  | pane, event :: rest =>
      (keyboardStep pane event).2 ++
        match (keyboardStep pane event).1 with
        | none => []
        | some next => keyboardRun next rest

/-! ### The code simulates the machine -/

theorem ptyKeys_of_ne {app : App} {action : Action}
    (notTyped : ∀ typed, action ≠ .handleTerminalKeyPress typed) : app.ptyKeys action = [] := by
  unfold App.ptyKeys
  split
  · exact absurd rfl (notTyped _)
  · rfl

theorem handleEvent_activePane {app next : App} {io : Io} {event : Event}
    {sent : Option Action} (handled : app.handleEvent io event = .ok (next, sent)) :
    next.activePane = app.activePane := by
  rcases handleEvent_eq_ok handled with rfl | ⟨_, _, rfl⟩ | ⟨_, rfl⟩ <;> rfl

theorem render_activePane {methods : EventListMethods} {resizeFails : Bool} {app next : App}
    {area : Rect} {frame : Frame}
    (rendered : app.render methods resizeFails area = some (next, frame)) :
    next.activePane = app.activePane := by
  rcases render_state rendered with rfl | ⟨_, rfl, rfl⟩
  · rfl
  · split_ifs <;> rfl

/-- Only `SwitchActivePane` moves the pane. -/
theorem perform_activePane_of_ne {methods : EventListMethods} {io : Io} {app next : App}
    {action : Action} (keeps : action ≠ .switchActivePane)
    (performed : app.perform methods io action = .ok next) :
    next.activePane = app.activePane := by
  cases action
  case render =>
    obtain ⟨_, rendered⟩ := draw_eq_ok performed
    exact render_activePane rendered
  case copyToClipboard => rcases perform_copyToClipboard_eq_ok performed with rfl | rfl <;> rfl
  case switchActivePane => exact absurd rfl keeps
  all_goals simp only [App.perform, Except.ok.injEq, reduceCtorEq] at performed <;> subst performed
  case shrinkPane =>
    unfold App.shrinkPane
    split_ifs <;> rfl
  case growPane =>
    unfold App.growPane
    split_ifs <;> rfl
  all_goals rfl

theorem turn_term_isSome {methods : EventListMethods} {io : Io} {app next : App}
    {event : Event} (turned : app.turn methods io event = .ok next) :
    next.term.isSome = app.term.isSome := by
  obtain ⟨handled, sent, handledEq, ⟨-, rfl⟩ | ⟨action, -, performed⟩⟩ := turn_eq_ok turned
  · rw [(handleEvent_pane handledEq).1]
  · rw [(perform_pane performed).1, (handleEvent_pane handledEq).1]

/-- A key in the events pane other than `Ctrl+S`: the pty gets nothing, and a
turn that goes on stays in the events pane and was not `q`. -/
theorem turn_events_key (methods : EventListMethods) {app : App} (io : Io)
    {key : KeyEvent} (noSwitch : ¬(key.code = .char 's' ∧ key.modifiers.contains .control))
    (pane : app.activePane = .events) :
    app.turnPtyKeys io (.key key) = [] ∧
      ∀ next, app.turn methods io (.key key) = .ok next →
        key.code ≠ .char 'q' ∧ next.activePane = .events := by
  have sends : app.handleEvent io (.key key) = .ok (app, eventsPaneAction key) := by
    simp [App.handleEvent, keyAction, noSwitch, pane]
  cases sent : eventsPaneAction key with
  | none =>
      have notQ : key.code ≠ .char 'q' := fun q => by
        simp [(eventsPaneAction_eq_quit_iff key).mpr q] at sent
      refine ⟨by simp only [App.turnPtyKeys, sends, sent], fun next turned => ⟨notQ, ?_⟩⟩
      simp only [App.turn, sends, sent, Except.ok.injEq] at turned
      rw [← turned, pane]
  | some action =>
      obtain ⟨quitIff, notSwitch, notTyped⟩ := eventsPaneAction_sends key action sent
      simp only [App.turnPtyKeys, App.turn, sends, sent]
      refine ⟨ptyKeys_of_ne notTyped, fun next performed => ⟨fun q => ?_, ?_⟩⟩
      · rw [quitIff.mpr q] at performed
        cases performed
      · rw [perform_activePane_of_ne notSwitch performed, pane]

/-- The turns that return `Ok(())` are steps that end the keyboard machine. -/
theorem keyboardStep_of_turn_quit {methods : EventListMethods} {app : App} {io : Io}
    {event : Event} (ended : app.turn methods io event = .error .quit) :
    (keyboardStep app.activePane event).1 = none := by
  rcases (handleEvent_eq_quit_iff app io event).mp
    ((turn_eq_quit_iff_handleEvent methods app io event).mp ended) with rfl | ⟨pane, key, rfl, q⟩
  · rfl
  · simp [keyboardStep, pane, q]

/-- One turn of `App::run`, with a pseudo terminal, is one step of the keyboard
machine: the same keys for the pty, the same pane after a turn that goes on,
and the end of the machine where the turn returns `Ok(())`. -/
theorem turn_simulates_keyboard (methods : EventListMethods) {app : App} (io : Io)
    (event : Event) (hasTerm : app.term.isSome) :
    app.turnPtyKeys io event = (keyboardStep app.activePane event).2 ∧
      (∀ next, app.turn methods io event = .ok next →
        (keyboardStep app.activePane event).1 = some next.activePane) ∧
      (app.turn methods io event = .error .quit → (keyboardStep app.activePane event).1 = none) := by
  suffices step : app.turnPtyKeys io event = (keyboardStep app.activePane event).2 ∧
      ∀ next, app.turn methods io event = .ok next →
        (keyboardStep app.activePane event).1 = some next.activePane from
    ⟨step.1, step.2, keyboardStep_of_turn_quit⟩
  cases event with
  | key key =>
      by_cases switch : key.code = .char 's' ∧ key.modifiers.contains .control
      · simp [App.turnPtyKeys, App.turn, App.handleEvent, keyAction, keyboardStep, switch,
          App.perform, App.ptyKeys]
      · cases pane : app.activePane with
        | events =>
            obtain ⟨keys, goesOn⟩ := turn_events_key methods io switch pane
            refine ⟨by simp [keys, keyboardStep, switch], fun next turned => ?_⟩
            obtain ⟨notQ, stays⟩ := goesOn next turned
            simp [keyboardStep, switch, notQ, stays]
        | terminal =>
            obtain ⟨term, someTerm⟩ := Option.isSome_iff_exists.mp hasTerm
            simp [App.turnPtyKeys, App.turn, App.handleEvent, keyAction, keyboardStep, switch, pane,
              App.perform, App.ptyKeys, someTerm]
  | tracer traced =>
      obtain ⟨handled, handledEq⟩ :
          ∃ handled, app.handleEvent io (.tracer traced) = .ok (handled, none) := by
        cases traced <;> exact ⟨_, rfl⟩
      simp [App.turnPtyKeys, App.turn, handledEq, keyboardStep, handleEvent_activePane handledEq]
  | render =>
      refine ⟨rfl, fun next turned => ?_⟩
      have drawn : app.draw methods io = .ok next := turned
      obtain ⟨_, rendered⟩ := draw_eq_ok drawn
      rw [render_activePane rendered]
      rfl
  | init =>
      cases size : io.size <;>
        simp [App.turnPtyKeys, App.turn, App.handleEvent, size, App.perform, App.ptyKeys,
          keyboardStep]
  | _ => simp [App.turnPtyKeys, App.turn, App.handleEvent, App.perform, App.ptyKeys, keyboardStep]

/-- For an `App` with a pseudo terminal, every run of `App::run` hands the pty
the keys the keyboard machine gives, from the pane the `App` starts in, up to
where a failed call or the resize panic ends the run early: the keys other than
`Ctrl+S` typed while the terminal pane is active, in order.  A run whose calls
all succeed hands it exactly those keys, up to the `ShouldQuit` event or the
`q` in the events pane that ends the run. -/
theorem runPtyKeys_eq_keyboardRun (methods : EventListMethods) (app : App)
    (events : List (Io × Event)) (hasTerm : app.term.isSome) :
    app.runPtyKeys methods events <+: keyboardRun app.activePane (events.map Prod.snd) ∧
      ((∀ step ∈ events, step.1.succeeds) →
        app.runPtyKeys methods events = keyboardRun app.activePane (events.map Prod.snd)) := by
  induction events generalizing app with
  | nil => exact ⟨List.prefix_refl _, fun _ => rfl⟩
  | cons step rest ih =>
      obtain ⟨io, event⟩ := step
      obtain ⟨keys, goesOn, ends⟩ := turn_simulates_keyboard methods io event hasTerm
      simp only [App.runPtyKeys, keyboardRun, List.map_cons, keys]
      cases turned : app.turn methods io event with
      | ok next =>
          rw [goesOn next turned]
          obtain ⟨isPrefix, equal⟩ := ih next (by rw [turn_term_isSome turned, hasTerm])
          exact ⟨(List.prefix_append_right_inj _).mpr isPrefix, fun succeed =>
            congrArg _ (equal fun other member => succeed other (List.mem_cons_of_mem _ member))⟩
      | error exit =>
          refine ⟨by simp, fun succeed => ?_⟩
          rcases turn_ok_or_quit methods app event (succeed _ (List.mem_cons_self _ _)) with
            ⟨next, goes⟩ | quit
          · rw [turned] at goes
            cases goes
          · rw [ends quit]

theorem runPtyKeys_eq_keyboardRun_example :
    (App.new ⟨[], (0, 0), 0, none⟩ (some ⟨3⟩) .events .horizontal).term.isSome ∧
      (∀ step ∈ [((⟨some ⟨80, 24⟩, ⟨0, 0, 80, 24⟩, .ok, false, false⟩ : Io),
          Event.key ⟨.char 's', .control⟩),
        (⟨some ⟨80, 24⟩, ⟨0, 0, 80, 24⟩, .ok, false, false⟩, .key ⟨.char 'q', .none⟩)],
        step.1.succeeds) ∧
      (App.new ⟨[], (0, 0), 0, none⟩ (some ⟨3⟩) .events .horizontal).runPtyKeys
          ⟨fun _ eventList => eventList, fun _ eventList => eventList⟩
          [(⟨some ⟨80, 24⟩, ⟨0, 0, 80, 24⟩, .ok, false, false⟩, .key ⟨.char 's', .control⟩),
            (⟨some ⟨80, 24⟩, ⟨0, 0, 80, 24⟩, .ok, false, false⟩, .key ⟨.char 'q', .none⟩)] =
        keyboardRun (App.new ⟨[], (0, 0), 0, none⟩ (some ⟨3⟩) .events .horizontal).activePane
          [.key ⟨.char 's', .control⟩, .key ⟨.char 'q', .none⟩] :=
  ⟨rfl, by decide, (runPtyKeys_eq_keyboardRun _
    (App.new ⟨[], (0, 0), 0, none⟩ (some ⟨3⟩) .events .horizontal) _ rfl).2 (by decide)⟩

/-- A `q` typed in the terminal pane goes to the pty; after `Ctrl+S`, the next
`q` ends the run and the keys after it are never read. -/
example :
    keyboardRun .events
        [.key ⟨.char 'a', .none⟩, .key ⟨.char 's', .control⟩, .key ⟨.char 'q', .none⟩, .render,
          .key ⟨.char 'b', .none⟩, .key ⟨.char 's', .control⟩, .key ⟨.char 'q', .none⟩,
          .key ⟨.char 'z', .none⟩] =
      [⟨.char 'q', .none⟩, ⟨.char 'b', .none⟩] := by
  decide

end Tracexec.Tui
