/-
When `App::run` (tui/app.rs) returns `Ok(())`: only the `Quit` action does so,
and only two events send it, `ShouldQuit` and the `q` key of the events pane,
with any modifiers, whatever the turn's calls answer.  In the terminal pane
every key but `Ctrl+S` goes to the pseudo terminal, so no key typed there ends
tracexec.  The loop's other ways out are failed calls and the resize panic, so
a turn whose calls succeed ends the loop only on those two events, and a run of
such turns with neither event takes every turn: it splits at any point into two
runs, the second starting where the first ends.
-/

import Tracexec.Tui.Run

namespace Tracexec.Tui

/-- A character the events pane binds no arm to sends nothing.  The arms on
character keys compile to a chain of `Char` tests, which is unfolded here:
splitting the match itself makes Lean prove its overlap equations, which takes
seconds. -/
theorem eventsPaneAction_of_unbound {c : Char} (modifiers : KeyModifiers)
    (unbound : c ∉ ['q', 'j', 'k', 'h', 'l', 'g', 's', 'c']) :
    eventsPaneAction ⟨.char c, modifiers⟩ = none := by
  simp only [List.mem_cons, List.not_mem_nil, or_false, not_or] at unbound
  obtain ⟨q, j, k, h, l, g, s, c⟩ := unbound
  unfold eventsPaneAction
  delta eventsPaneAction.match_1
  dsimp only
  rw [dif_neg q, dif_neg j, dif_neg k, dif_neg h, dif_neg l, dif_neg g, dif_neg s, dif_neg c]

/-- What the bindings of the events pane send: `Quit` for `q` alone, with any
modifiers, and never `SwitchActivePane` or `HandleTerminalKeyPress`, which
belong to `Ctrl+S` and the terminal pane. -/
theorem eventsPaneAction_sends (key : KeyEvent) (action : Action) :
    eventsPaneAction key = some action →
      (action = .quit ↔ key.code = .char 'q') ∧ action ≠ .switchActivePane ∧
        ∀ typed, action ≠ .handleTerminalKeyPress typed := by
  obtain ⟨code, modifiers⟩ := key
  cases code
  case char c =>
    by_cases bound : c ∈ ['q', 'j', 'k', 'h', 'l', 'g', 's', 'c']
    · simp only [List.mem_cons, List.not_mem_nil, or_false] at bound
      unfold eventsPaneAction
      delta eventsPaneAction.match_1
      rcases bound with rfl | rfl | rfl | rfl | rfl | rfl | rfl | rfl <;> dsimp only <;>
        (repeat rw [dif_neg (by decide)]) <;> rw [dif_pos rfl] <;> (try split_ifs) <;>
        rintro ⟨⟩ <;> simp
    · rw [eventsPaneAction_of_unbound modifiers bound]
      rintro ⟨⟩
  all_goals unfold eventsPaneAction; dsimp only; (try split_ifs) <;> rintro ⟨⟩ <;> simp

theorem eventsPaneAction_eq_quit_iff (key : KeyEvent) :
    eventsPaneAction key = some .quit ↔ key.code = .char 'q' := by
  refine ⟨fun quits => (eventsPaneAction_sends key _ quits).1.mp rfl, fun q => ?_⟩
  obtain ⟨code, modifiers⟩ := key
  dsimp only at q
  subst q
  rfl

/-- A key quits exactly when it is `q` pressed in the events pane: `Ctrl+S` is
looked at first, and the terminal pane sends every other key to the pty. -/
theorem keyAction_eq_quit_iff (activePane : ActivePane) (key : KeyEvent) :
    keyAction activePane key = some .quit ↔ activePane = .events ∧ key.code = .char 'q' := by
  unfold keyAction
  split_ifs with switch events
  · simp [switch.1]
  · simp [events, eventsPaneAction_eq_quit_iff]
  · simp [events]

/-- Only `Quit` returns `Ok(())`: a draw, a copy and every other action go on
or fail. -/
theorem perform_eq_quit_iff (methods : EventListMethods) (io : Io) (app : App)
    (action : Action) : app.perform methods io action = .error .quit ↔ action = .quit := by
  cases action
  case render =>
    simp only [App.perform, App.draw, reduceCtorEq, iff_false]
    split_ifs <;> (try split) <;> simp
  case copyToClipboard => simp only [App.perform]; split_ifs <;> simp
  all_goals simp [App.perform]

/-- With every call succeeding, every action but `Quit` goes on. -/
theorem perform_ok_of_succeeds (methods : EventListMethods) (app : App) {io : Io}
    {action : Action} (succeeds : io.succeeds) (notQuit : action ≠ .quit) :
    ∃ next, app.perform methods io action = .ok next := by
  obtain ⟨-, drawOk, resizeOk, setTextOk⟩ := (Io.succeeds_iff io).mp succeeds
  cases action
  case quit => exact absurd rfl notQuit
  case render =>
    cases rendered : app.render methods io.resizeFails io.frame with
    | none => simp [resizeFails_of_render_eq_none rendered] at resizeOk
    | some result => exact ⟨result.1, by simp [App.perform, App.draw, drawOk, rendered]⟩
  case copyToClipboard =>
    simp only [App.perform, setTextOk, Bool.false_eq_true, if_false]
    split_ifs <;> exact ⟨_, rfl⟩
  all_goals exact ⟨_, rfl⟩

/-- The event half of a turn sends `Quit` exactly on `ShouldQuit` and on the `q`
key of the events pane. -/
theorem handleEvent_eq_quit_iff (app : App) (io : Io) (event : Event) :
    (∃ next, app.handleEvent io event = .ok (next, some .quit)) ↔
      event = .shouldQuit ∨
        app.activePane = .events ∧ ∃ key : KeyEvent, event = .key key ∧ key.code = .char 'q' := by
  unfold App.handleEvent
  split <;> (try split) <;> simp [keyAction_eq_quit_iff]

theorem turn_eq_quit_iff_handleEvent (methods : EventListMethods) (app : App) (io : Io)
    (event : Event) :
    app.turn methods io event = .error .quit ↔
      ∃ next, app.handleEvent io event = .ok (next, some .quit) := by
  cases handled : app.handleEvent io event with
  | error exit => simp [App.turn, handled, (handleEvent_eq_error handled).2.2]
  | ok result =>
      obtain ⟨next, sent⟩ := result
      cases sent <;> simp [App.turn, handled, perform_eq_quit_iff]

/-- With every call succeeding, a turn goes on or returns `Ok(())`. -/
theorem turn_ok_or_quit (methods : EventListMethods) (app : App) {io : Io} (event : Event)
    (succeeds : io.succeeds) :
    (∃ next, app.turn methods io event = .ok next) ∨ app.turn methods io event = .error .quit := by
  cases handled : app.handleEvent io event with
  | error exit =>
      have sized := ((Io.succeeds_iff io).mp succeeds).1
      simp [(handleEvent_eq_error handled).2.1] at sized
  | ok result =>
      obtain ⟨next, sent⟩ := result
      unfold App.turn
      rw [handled]
      rcases sent with _ | action
      · exact .inl ⟨next, rfl⟩
      · by_cases quits : action = .quit
        · exact .inr (quits ▸ rfl)
        · exact .inl (perform_ok_of_succeeds methods next succeeds quits)

/-- A run whose turns' calls all succeed and none of whose events is
`ShouldQuit` or a `q` key takes every turn: the run over two sequences of
events is the run over the second from the state the first ends in. -/
theorem run_append_of_no_quit (methods : EventListMethods) (app : App)
    (events more : List (Io × Event))
    (noQuit : ∀ step ∈ events, step.1.succeeds ∧
      step.2 ≠ .shouldQuit ∧ ∀ key : KeyEvent, step.2 = .key key → key.code ≠ .char 'q') :
    app.run methods (events ++ more) = (app.run methods events).run methods more := by
  induction events generalizing app with
  | nil => rfl
  | cons step rest ih =>
      obtain ⟨io, event⟩ := step
      obtain ⟨succeeds, notShouldQuit, notQ⟩ := noQuit _ (List.mem_cons_self _ _)
      have continues : app.turn methods io event ≠ .error .quit := fun ended => by
        rcases (handleEvent_eq_quit_iff app io event).mp
          ((turn_eq_quit_iff_handleEvent methods app io event).mp ended) with
          quit | ⟨-, key, rfl, q⟩
        exacts [notShouldQuit quit, notQ key rfl q]
      obtain ⟨next, turned⟩ := (turn_ok_or_quit methods app event succeeds).resolve_right continues
      simp only [List.cons_append, App.run, turned]
      exact ih next fun other member => noQuit other (List.mem_cons_of_mem _ member)

theorem run_append_of_no_quit_example :
    (∀ step ∈ [((⟨some ⟨80, 24⟩, ⟨0, 0, 80, 24⟩, .ok, false, false⟩ : Io), Event.render),
        (⟨some ⟨80, 24⟩, ⟨0, 0, 80, 24⟩, .ok, false, false⟩, .key ⟨.char 'j', .none⟩)],
        step.1.succeeds ∧ step.2 ≠ .shouldQuit ∧
          ∀ key : KeyEvent, step.2 = .key key → key.code ≠ .char 'q') ∧
      (App.new ⟨[], (0, 0), 0, none⟩ (some ⟨3⟩) .events .horizontal).run
          ⟨fun _ eventList => eventList, fun _ eventList => eventList⟩
          ([(⟨some ⟨80, 24⟩, ⟨0, 0, 80, 24⟩, .ok, false, false⟩, .render),
              (⟨some ⟨80, 24⟩, ⟨0, 0, 80, 24⟩, .ok, false, false⟩, .key ⟨.char 'j', .none⟩)] ++
            [(⟨none, ⟨0, 0, 80, 24⟩, .failsAfter, true, true⟩, .shouldQuit)]) =
        ((App.new ⟨[], (0, 0), 0, none⟩ (some ⟨3⟩) .events .horizontal).run
          ⟨fun _ eventList => eventList, fun _ eventList => eventList⟩
          [(⟨some ⟨80, 24⟩, ⟨0, 0, 80, 24⟩, .ok, false, false⟩, .render),
            (⟨some ⟨80, 24⟩, ⟨0, 0, 80, 24⟩, .ok, false, false⟩, .key ⟨.char 'j', .none⟩)]).run
          ⟨fun _ eventList => eventList, fun _ eventList => eventList⟩
          [(⟨none, ⟨0, 0, 80, 24⟩, .failsAfter, true, true⟩, .shouldQuit)] :=
  ⟨by simp, run_append_of_no_quit _ _ _ _ (by simp)⟩

end Tracexec.Tui
