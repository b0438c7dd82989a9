/-
The loop of `App::run` (tui/app.rs): how a terminal event becomes at most one
action, how each action changes the `App`, and how the loop ends.

Each turn waits for an event, updates the state for a tracer event or sends one
action, and then handles the queued actions until the queue is empty.  The loop
ends in one of three ways: `Quit` returns `Ok(())`; a `?` returns the error of
`tui.size()` (asked by `Init`), of `tui.draw(..)` (for `Render`) or of
`clipboard.set_text(..)` (for a copy with an item selected); and `render`
panics when it unwraps a failed resize of the pseudo terminal.  What those
calls answer in a turn is an `Io`: a run pairs each event, or each action, with
one.

The pane split invariant: with a pseudo terminal the split stays within
`10..=90`, without one it stays `100`.  `App::new` establishes it and every
action keeps it, so it holds after every run of actions, in particular every
run of events.  Without a pseudo terminal it follows that every frame takes the
"too small" return of `render`; with one, every frame large enough for two
panes of at least ten percent draws both, unless the resize it applies panics.
-/

import Tracexec.Tui.App

namespace Tracexec.Tui

/-- `crossterm::event::KeyCode`, with the keys `App::run` tells apart; every
other key is `other`, by its code. -/
inductive KeyCode
  | char (c : Char)
  | up
  | down
  | left
  | right
  | pageUp
  | pageDown
  | other (code : Nat)
  deriving DecidableEq, Repr

/-- `crossterm::event::KeyModifiers`, a bit set. -/
structure KeyModifiers where
  bits : UInt8
  deriving DecidableEq, Repr

namespace KeyModifiers

def none : KeyModifiers := ⟨0⟩
def control : KeyModifiers := ⟨2⟩
def alt : KeyModifiers := ⟨4⟩

def contains (modifiers other : KeyModifiers) : Bool :=
  modifiers.bits &&& other.bits == other.bits

end KeyModifiers

structure KeyEvent where
  code : KeyCode
  modifiers : KeyModifiers
  deriving DecidableEq, Repr

inductive Shell
  | bash
  deriving DecidableEq, Repr

inductive CopyTarget
  | commandline (shell : Shell)
  deriving DecidableEq, Repr

/-- `Action` (action.rs), with the variants `App::run` handles. -/
inductive Action
  | quit
  | render
  | nextItem
  | prevItem
  | pageDown
  | pageUp
  | pageLeft
  | pageRight
  | handleTerminalKeyPress (key : KeyEvent)
  | resize (size : Size)
  | scrollLeft
  | scrollRight
  | shrinkPane
  | growPane
  | switchLayout
  | switchActivePane
  | copyToClipboard (target : CopyTarget)
  deriving DecidableEq, Repr

/-- `Event` (tui/mod.rs), with the variants `App::run` matches. -/
inductive Event
  | shouldQuit
  | key (key : KeyEvent)
  | tracer (event : TracerEvent)
  | render
  | resize (size : Size)
  | init
  | error
  deriving DecidableEq, Repr

/-! ### Events -/

/-- The bindings of the events pane: the arms of `match ke.code`, with their
guards.  The arrow keys and their letters send one action with `Ctrl` and
another with no modifier. -/
def eventsPaneAction (key : KeyEvent) : Option Action :=
  let controlOrPlain (withControl plain : Action) : Option Action :=
    if key.modifiers = .control then some withControl
    else if key.modifiers = .none then some plain
    else none
  match key.code with
  | .char 'q' => some .quit
  | .down | .char 'j' => controlOrPlain .pageDown .nextItem
  | .up | .char 'k' => controlOrPlain .pageUp .prevItem
  | .left | .char 'h' => controlOrPlain .pageLeft .scrollLeft
  | .right => if key.modifiers ≠ .alt then controlOrPlain .pageRight .scrollRight else none
  | .char 'l' =>
      if key.modifiers ≠ .alt then controlOrPlain .pageRight .scrollRight else some .switchLayout
  | .pageDown => some .pageDown
  | .pageUp => some .pageUp
  | .char 'g' => if key.modifiers = .none then some .growPane else none
  | .char 's' => if key.modifiers = .none then some .shrinkPane else none
  | .char 'c' =>
      if key.modifiers = .none then some (.copyToClipboard (.commandline .bash)) else none
  | _ => none

/-- A key press: `Ctrl+S` switches the active pane; any other key goes to the
events pane's bindings or, in the terminal pane, to the pseudo terminal. -/
def keyAction (activePane : ActivePane) (key : KeyEvent) : Option Action :=
  if key.code = .char 's' ∧ key.modifiers.contains .control then some .switchActivePane
  else if activePane = .events then eventsPaneAction key
  else some (.handleTerminalKeyPress key)

/-! ### What the outside world answers -/

/-- The calls of a turn whose error `?` returns from `App::run`. -/
inductive Call
  /-- `tui.size()`, asked by `Init`. -/
  | size
  /-- `tui.draw(..)`, for `Render`. -/
  | draw
  /-- `clipboard.set_text(..)`, for a copy with an item selected. -/
  | setText
  deriving DecidableEq, Repr

/-- How a turn leaves `App::run`. -/
inductive Exit
  /-- `Action::Quit` returns `Ok(())`. -/
  | quit
  /-- A `?` returns the error of a failed call. -/
  | failed (call : Call)
  /-- `render` panics on `term.resize(..).unwrap()`. -/
  | panic
  deriving DecidableEq, Repr

/-- How `tui.draw(..)` ends around the `render` it calls: ratatui's
`Terminal::draw` can fail before rendering, in its autoresize, or after it, in
flushing the frame. -/
inductive Draw
  | failsBefore
  | ok
  | failsAfter
  deriving DecidableEq, Repr

/-- What the calls of one turn answer: `tui.size()`, `none` when it fails; the
frame `tui.draw` hands `render` and how the draw ends; whether the pseudo
terminal's resize fails; whether `set_text` fails. -/
structure Io where
  size : Option Size
  frame : Rect
  draw : Draw
  resizeFails : Bool
  setTextFails : Bool
  deriving DecidableEq, Repr

/-- Every call of the turn succeeds. -/
def Io.succeeds (io : Io) : Bool :=
  io.size.isSome && io.draw == .ok && !io.resizeFails && !io.setTextFails

@[simp] theorem Io.succeeds_iff (io : Io) :
    io.succeeds ↔ io.size.isSome ∧ io.draw = .ok ∧ io.resizeFails = false ∧
      io.setTextFails = false := by
  simp [Io.succeeds, and_assoc]

/-- The event half of a turn: the state after the event and the action it
sends, or the error of `tui.size()`, which `Init` asks for. -/
def App.handleEvent (app : App) (io : Io) : Event → Except Exit (App × Option Action)
  | .shouldQuit => .ok (app, some .quit)
  | .key key => .ok (app, keyAction app.activePane key)
  | .tracer (.rootChildSpawn pid) => .ok ({ app with rootPid := some pid }, none)
  | .tracer event =>
      .ok ({ app with eventList := { app.eventList with items := app.eventList.items ++ [event] } },
        none)
  | .render => .ok (app, some .render)
  | .resize size => .ok (app, some (.resize size))
  | .init =>
      match io.size with
      | some size => .ok (app, some (.resize size))
      | none => .error (.failed .size)
  | .error => .ok (app, none)

/-! ### Actions -/

def App.navigate (methods : EventListMethods) (app : App) (navigation : Navigation) : App :=
  { app with eventList := methods.navigate navigation app.eventList }

def ActivePane.switch : ActivePane → ActivePane
  | .events => .terminal
  | .terminal => .events

def AppLayout.switch : AppLayout → AppLayout
  | .horizontal => .vertical
  | .vertical => .horizontal

/-- `tui.draw(|f| self.render(f.size(), f.buffer_mut()))?`: the state
`render` leaves in the frame of `io`, unless the draw fails or `render`
panics. -/
def App.draw (methods : EventListMethods) (io : Io) (app : App) : Except Exit App :=
  if io.draw = .failsBefore then .error (.failed .draw)
  else
    match app.render methods io.resizeFails io.frame with
    | none => .error .panic
    | some (drawn, _) => if io.draw = .failsAfter then .error (.failed .draw) else .ok drawn

/-- The action half of a turn: the state after one action, or how the loop
ends. -/
def App.perform (methods : EventListMethods) (io : Io) (app : App) :
    Action → Except Exit App
  | .quit => .error .quit
  | .render => app.draw methods io
  | .nextItem => .ok (app.navigate methods .next)
  | .prevItem => .ok (app.navigate methods .previous)
  | .pageDown => .ok (app.navigate methods .pageDown)
  | .pageUp => .ok (app.navigate methods .pageUp)
  | .pageLeft => .ok (app.navigate methods .pageLeft)
  | .pageRight => .ok (app.navigate methods .pageRight)
  | .handleTerminalKeyPress _ => .ok app
  | .resize _ => .ok { app with shouldHandleInternalResize := true }
  | .scrollLeft => .ok (app.navigate methods .scrollLeft)
  | .scrollRight => .ok (app.navigate methods .scrollRight)
  | .shrinkPane => .ok { app.shrinkPane with shouldHandleInternalResize := true }
  | .growPane => .ok { app.growPane with shouldHandleInternalResize := true }
  | .switchLayout =>
      .ok { app with layout := app.layout.switch, shouldHandleInternalResize := true }
  | .switchActivePane => .ok { app with activePane := app.activePane.switch }
  | .copyToClipboard _ =>
      if app.eventList.selected.isSome then
        if io.setTextFails then .error (.failed .setText)
        else .ok { app with clipboard := some "🥰" }
      else .ok app

/-- Actions handled one after another, each with what the calls of its moment
answer, until one ends the loop. -/
def App.runActions (methods : EventListMethods) : App → List (Io × Action) → App
  | app, [] => app
  | app, (io, action) :: rest =>
      match app.perform methods io action with
      | .error _ => app
      | .ok next => next.runActions methods rest

/-- One turn of `App::run`: the event, then the action it queued. -/
def App.turn (methods : EventListMethods) (io : Io) (app : App) (event : Event) :
    Except Exit App :=
  match app.handleEvent io event with
  | .error exit => .error exit
  | .ok (handled, none) => .ok handled
  | .ok (handled, some action) => handled.perform methods io action

/-- `App::run` over a sequence of events, each with what the calls of its turn
answer, until the loop ends. -/
def App.run (methods : EventListMethods) : App → List (Io × Event) → App
  | app, [] => app
  | app, (io, event) :: rest =>
      match app.turn methods io event with
      | .error _ => app
      | .ok next => next.run methods rest

/-! ### What a step can do -/

section Steps

variable {methods : EventListMethods} {io : Io} {app next : App}

/-- A draw that goes on leaves the state `render` leaves in the frame of `io`. -/
theorem draw_eq_ok (drawn : app.draw methods io = .ok next) :
    ∃ frame, app.render methods io.resizeFails io.frame = some (next, frame) := by
  unfold App.draw at drawn
  split_ifs at drawn <;> split at drawn <;> cases drawn
  exact ⟨_, ‹_›⟩

theorem perform_copyToClipboard_eq_ok {target : CopyTarget}
    (performed : app.perform methods io (.copyToClipboard target) = .ok next) :
    next = app ∨ next = { app with clipboard := some "🥰" } := by
  simp only [App.perform] at performed
  split_ifs at performed <;> cases performed
  exacts [.inr rfl, .inl rfl]

/-- What the event half of a turn does to the state, when it goes on: nothing
but the root pid, on `RootChildSpawn`, or the event list's items, on another
tracer event. -/
theorem handleEvent_eq_ok {event : Event} {sent : Option Action}
    (handled : app.handleEvent io event = .ok (next, sent)) :
    next = app ∨ (∃ pid, event = .tracer (.rootChildSpawn pid) ∧
        next = { app with rootPid := some pid }) ∨
      ∃ traced, next =
        { app with eventList := { app.eventList with items := app.eventList.items ++ [traced] } } := by
  unfold App.handleEvent at handled
  split at handled <;> (try split at handled) <;> cases handled
  case h_3 pid => exact .inr (.inl ⟨pid, rfl, rfl⟩)
  case h_4 traced _ => exact .inr (.inr ⟨traced, rfl⟩)
  all_goals exact .inl rfl

/-- The event half of a turn fails only on an `Init` whose `tui.size()` fails. -/
theorem handleEvent_eq_error {event : Event} {exit : Exit}
    (failed : app.handleEvent io event = .error exit) :
    event = .init ∧ io.size = none ∧ exit = .failed .size := by
  unfold App.handleEvent at failed
  split at failed <;> (try split at failed) <;> cases failed
  exact ⟨rfl, ‹_›, rfl⟩

/-- A turn that goes on handled its event, and then the action the event sent,
if any. -/
theorem turn_eq_ok {event : Event} (turned : app.turn methods io event = .ok next) :
    ∃ handled sent, app.handleEvent io event = .ok (handled, sent) ∧
      (sent = none ∧ handled = next ∨
        ∃ action, sent = some action ∧ handled.perform methods io action = .ok next) := by
  unfold App.turn at turned
  split at turned
  · cases turned
  · exact ⟨_, none, ‹_›, .inl ⟨rfl, Except.ok.inj turned⟩⟩
  · exact ⟨_, _, ‹_›, .inr ⟨_, rfl, turned⟩⟩

end Steps

/-! ### The pane split invariant -/

/-- With a pseudo terminal the split is within `10..=90`; without one it is
`100`. -/
def App.SplitInvariant (app : App) : Prop :=
  (app.term.isSome ∧ 10 ≤ app.splitPercentage.toNat ∧ app.splitPercentage.toNat ≤ 90) ∨
    (app.term = none ∧ app.splitPercentage.toNat = 100)

theorem splitInvariant_new (eventList : EventList) (ptyMaster : Option UnixMasterPty)
    (activePane : ActivePane) (layout : AppLayout) :
    (App.new eventList ptyMaster activePane layout).SplitInvariant := by
  cases ptyMaster <;> simp [App.new, App.SplitInvariant, UInt16.size]

/-- What an action can do to the pane split: it keeps whether there is a
terminal, and keeps, shrinks or grows the split. -/
theorem perform_pane {methods : EventListMethods} {io : Io} {app next : App}
    {action : Action} (performed : app.perform methods io action = .ok next) :
    next.term.isSome = app.term.isSome ∧
      (next.splitPercentage = app.splitPercentage ∨
        next.splitPercentage = app.shrinkPane.splitPercentage ∨
        next.splitPercentage = app.growPane.splitPercentage) := by
  cases action
  case render =>
    obtain ⟨_, rendered⟩ := draw_eq_ok performed
    exact ⟨render_term_isSome rendered, Or.inl (render_splitPercentage rendered)⟩
  case copyToClipboard =>
    rcases perform_copyToClipboard_eq_ok performed with rfl | rfl <;> exact ⟨rfl, Or.inl rfl⟩
  all_goals simp only [App.perform, Except.ok.injEq, reduceCtorEq] at performed <;> subst performed
  case shrinkPane => exact ⟨by simp, Or.inr (Or.inl rfl)⟩
  case growPane => exact ⟨by simp, Or.inr (Or.inr rfl)⟩
  all_goals exact ⟨rfl, Or.inl rfl⟩

theorem runActions_term_isSome (methods : EventListMethods) (app : App)
    (actions : List (Io × Action)) :
    (app.runActions methods actions).term.isSome = app.term.isSome := by
  induction actions generalizing app with
  | nil => rfl
  | cons step rest ih =>
      obtain ⟨io, action⟩ := step
      simp only [App.runActions]
      cases performed : app.perform methods io action with
      | error => rfl
      | ok next => exact (ih next).trans (perform_pane performed).1

/-- An event changes neither the terminal nor the split; only the action it
sends can. -/
theorem handleEvent_pane {app next : App} {io : Io} {event : Event} {sent : Option Action}
    (handled : app.handleEvent io event = .ok (next, sent)) :
    next.term = app.term ∧ next.splitPercentage = app.splitPercentage := by
  rcases handleEvent_eq_ok handled with rfl | ⟨_, _, rfl⟩ | ⟨_, rfl⟩ <;> exact ⟨rfl, rfl⟩

namespace App.SplitInvariant

variable {app next : App}

/-- The invariant only reads whether there is a terminal and the split. -/
theorem of_same (invariant : app.SplitInvariant) (sameTerm : next.term.isSome = app.term.isSome)
    (sameSplit : next.splitPercentage = app.splitPercentage) : next.SplitInvariant := by
  unfold App.SplitInvariant at invariant ⊢
  rw [sameSplit, ← Option.not_isSome_iff_eq_none, sameTerm, Option.not_isSome_iff_eq_none]
  exact invariant

theorem shrinkPane (invariant : app.SplitInvariant) : app.shrinkPane.SplitInvariant := by
  unfold App.SplitInvariant at invariant ⊢
  rw [shrinkPane_term, shrinkPane_splitPercentage]
  rcases invariant with ⟨hasTerm, atLeast, atMost⟩ | ⟨noTerm, full⟩
  · rw [if_pos hasTerm]
    exact Or.inl ⟨hasTerm, by omega, by omega⟩
  · simp [noTerm, full]

theorem growPane (invariant : app.SplitInvariant) : app.growPane.SplitInvariant := by
  unfold App.SplitInvariant at invariant ⊢
  rw [growPane_term, growPane_splitPercentage]
  rcases invariant with ⟨hasTerm, atLeast, atMost⟩ | ⟨noTerm, full⟩
  · rw [if_pos hasTerm]
    exact Or.inl ⟨hasTerm, by omega, by omega⟩
  · simp [noTerm, full]

/-- Every action keeps the invariant. -/
theorem perform {methods : EventListMethods} {io : Io} {action : Action}
    (invariant : app.SplitInvariant) (performed : app.perform methods io action = .ok next) :
    next.SplitInvariant := by
  obtain ⟨sameTerm, kept | shrunk | grown⟩ := perform_pane performed
  · exact invariant.of_same sameTerm kept
  · exact invariant.shrinkPane.of_same (by rw [sameTerm, shrinkPane_term]) shrunk
  · exact invariant.growPane.of_same (by rw [sameTerm, growPane_term]) grown

/-- Every turn keeps the invariant. -/
theorem turn {methods : EventListMethods} {io : Io} {event : Event}
    (invariant : app.SplitInvariant) (turned : app.turn methods io event = .ok next) :
    next.SplitInvariant := by
  obtain ⟨handled, sent, handledEq, ⟨-, rfl⟩ | ⟨action, -, performed⟩⟩ := turn_eq_ok turned
  all_goals
    obtain ⟨sameTerm, sameSplit⟩ := handleEvent_pane handledEq
    have kept : handled.SplitInvariant := invariant.of_same (by rw [sameTerm]) sameSplit
  · exact kept
  · exact kept.perform performed

end App.SplitInvariant

theorem splitInvariant_runActions (methods : EventListMethods) {app : App}
    (invariant : app.SplitInvariant) (actions : List (Io × Action)) :
    (app.runActions methods actions).SplitInvariant := by
  induction actions generalizing app with
  | nil => exact invariant
  | cons step rest ih =>
      obtain ⟨io, action⟩ := step
      simp only [App.runActions]
      cases performed : app.perform methods io action with
      | error => exact invariant
      | ok next => exact ih (invariant.perform performed)

/-- The invariant bounds the split by `100`, so `100 - split_percentage` in
`render` does not wrap. -/
theorem App.SplitInvariant.hundred_sub {app : App} (invariant : app.SplitInvariant) :
    app.splitPercentage.toNat ≤ 100 ∧
      ((100 : UInt16) - app.splitPercentage).toNat = 100 - app.splitPercentage.toNat := by
  have atMost : app.splitPercentage.toNat ≤ 100 := by
    unfold App.SplitInvariant at invariant
    omega
  exact ⟨atMost, UInt16.toNat_sub_of_le _ _ atMost⟩

/-- For every `App` built by `App::new`, with or without a pseudo terminal, and
every sequence of actions, the split stays within `10..=90` with a terminal
and at `100` without one, so both percentages of `render` are within
`0..=100` and `100 - split_percentage` does not wrap. -/
theorem runActions_new_splitInvariant (methods : EventListMethods) (eventList : EventList)
    (ptyMaster : Option UnixMasterPty) (activePane : ActivePane) (layout : AppLayout)
    (actions : List (Io × Action)) :
    let app := (App.new eventList ptyMaster activePane layout).runActions methods actions
    app.SplitInvariant ∧ app.splitPercentage.toNat ≤ 100 ∧
      ((100 : UInt16) - app.splitPercentage).toNat = 100 - app.splitPercentage.toNat := by
  have invariant := splitInvariant_runActions methods
    (splitInvariant_new eventList ptyMaster activePane layout) actions
  exact ⟨invariant, invariant.hundred_sub⟩

/-! ### What `render` draws after a run -/

/-- With a pseudo terminal the guards only turn away small frames: after any
run of actions, every frame at least 40 columns wide and 8 rows tall side by
side, or 4 columns wide and 44 rows tall stacked, draws both panes, unless the
resize it applies panics. -/
theorem render_runActions_new_with_pty (methods : EventListMethods) (eventList : EventList)
    (master : UnixMasterPty) (activePane : ActivePane) (layout : AppLayout)
    (actions : List (Io × Action)) (resizeFails : Bool) (area : Rect) :
    let app := (App.new eventList (some master) activePane layout).runActions methods actions
    (app.layout = .horizontal ∧ 40 ≤ area.width ∧ 8 ≤ area.height ∨
      app.layout = .vertical ∧ 4 ≤ area.width ∧ 44 ≤ area.height) →
    (app.render methods resizeFails area = none ↔
      app.shouldHandleInternalResize = true ∧ resizeFails = true) ∧
    ∀ next frame, app.render methods resizeFails area = some (next, frame) →
      ∃ eventArea termArea, frame.body = .panes eventArea (some termArea) (helpItems app.activePane) := by
  intro app large
  have hasTerm : app.term.isSome := by
    rw [runActions_term_isSome]
    rfl
  have invariant : app.SplitInvariant := splitInvariant_runActions methods
    (splitInvariant_new eventList (some master) activePane layout) actions
  rcases invariant with ⟨-, atLeast, atMost⟩ | ⟨noTerm, -⟩
  · obtain ⟨panics, drawn⟩ := render_panes_of_large methods resizeFails app area hasTerm atLeast
      atMost large
    exact ⟨panics, fun next frame rendered => (drawn next frame rendered).1⟩
  · simp [noTerm] at hasTerm

theorem render_runActions_new_with_pty_example :
    let app := (App.new ⟨[], (0, 0), 0, none⟩ (some ⟨3⟩) .events .horizontal).runActions
      ⟨fun _ eventList => eventList, fun _ eventList => eventList⟩ []
    (app.layout = .horizontal ∧ 40 ≤ (⟨0, 0, 80, 24⟩ : Rect).width ∧
        8 ≤ (⟨0, 0, 80, 24⟩ : Rect).height) ∧
      (app.render ⟨fun _ eventList => eventList, fun _ eventList => eventList⟩ false
          ⟨0, 0, 80, 24⟩ = none ↔ app.shouldHandleInternalResize = true ∧ false = true) ∧
      ∀ next frame, app.render ⟨fun _ eventList => eventList, fun _ eventList => eventList⟩ false
          ⟨0, 0, 80, 24⟩ = some (next, frame) →
        ∃ eventArea termArea, frame.body = .panes eventArea (some termArea) (helpItems .events) :=
  ⟨⟨rfl, by decide, by decide⟩,
    render_runActions_new_with_pty _ _ _ _ _ [] false _ (Or.inl ⟨rfl, by decide, by decide⟩)⟩

/-- After any run of actions from an `App` built without a pseudo terminal,
every frame, in both layouts, takes the "too small" return of `render`: the
event list is never drawn, a pending resize is never applied, and `render`
never panics. -/
theorem render_runActions_new_without_pty (methods : EventListMethods) (eventList : EventList)
    (activePane : ActivePane) (layout : AppLayout) (actions : List (Io × Action))
    (resizeFails : Bool) (area : Rect) :
    let app := (App.new eventList none activePane layout).runActions methods actions
    ∃ frame message, app.render methods resizeFails area = some (app, frame) ∧
      frame.body = .tooSmall message := by
  intro app
  have noTerm : app.term = none := by
    rw [← Option.not_isSome_iff_eq_none, runActions_term_isSome]
    simp [App.new]
  have invariant : app.SplitInvariant := splitInvariant_runActions methods
    (splitInvariant_new eventList none activePane layout) actions
  have full : app.splitPercentage = 100 := by
    rcases invariant with ⟨hasTerm, -⟩ | ⟨-, hundred⟩
    · simp [noTerm] at hasTerm
    · exact UInt16.toNat.inj hundred
  exact render_of_splitPercentage_hundred methods resizeFails app area full

theorem render_new_without_pty_returns_early (methods : EventListMethods) (eventList : EventList)
    (resizeFails : Bool) :
    (App.new eventList none .events .horizontal).render methods resizeFails ⟨0, 0, 80, 24⟩ =
      some (App.new eventList none .events .horizontal,
        ⟨⟨0, 0, 80, 2⟩, ⟨0, 2, 80, 20⟩, ⟨0, 22, 80, 2⟩,
          .tooSmall "Terminal\nor\npane\ntoo\nsmall"⟩) := by
  have full : (App.new eventList none .events .horizontal).splitPercentage = 100 := rfl
  rw [App.render, App.paneAreas, full]
  rfl

end Tracexec.Tui
