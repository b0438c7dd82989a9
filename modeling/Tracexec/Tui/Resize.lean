/-
The internal-resize flag of `App` (tui/app.rs) as a cache-invalidation bit.

`render` keeps two sizes derived from the panes of the frame it draws into: the
event list's window length (`max_window_len`) and the pseudo terminal's size.
It recomputes them when `should_handle_internal_resize` is set and clears the
flag; every action that moves the panes (a resize, a shrink, a grow, a layout
switch) sets it again.  So while the flag is clear the two sizes are those of
the current panes, in every state `App::run` reaches, provided the frame
`tui.draw` hands `render` changes only at a `Resize` or `Init` event (each of
which sets the flag) and the event list's own methods, defined in
event_list.rs, leave its window length alone.  The frame is whatever ratatui
hands `render`, so its own clamping of large terminals is no concern here.
-/

import Tracexec.Tui.Run

namespace Tracexec.Tui

/-- The event list's methods leave its window length alone. -/
structure EventListMethods.KeepsWindowLen (methods : EventListMethods) : Prop where
  navigate : ∀ navigation eventList,
    (methods.navigate navigation eventList).maxWindowLen = eventList.maxWindowLen
  render : ∀ area eventList, (methods.render area eventList).maxWindowLen = eventList.maxWindowLen

/-- Event list methods that change nothing, as a stand-in for those of
event_list.rs. -/
def idleMethods : EventListMethods := ⟨fun _ eventList => eventList, fun _ eventList => eventList⟩

theorem idleMethods_keepsWindowLen : idleMethods.KeepsWindowLen := ⟨fun _ _ => rfl, fun _ _ => rfl⟩

/-- The events that tell `App::run` the terminal may have a new size. -/
def Event.resizes : Event → Bool
  | .resize _ | .init => true
  | _ => false

/-- The states `App::run` reaches, each with the frame `tui.draw` handed
`render` at its last turn, when that frame changes only at a `Resize` or `Init`
event. -/
inductive App.Reachable (methods : EventListMethods) : App → Rect → Prop
  | new (eventList : EventList) (ptyMaster : Option UnixMasterPty) (activePane : ActivePane)
      (layout : AppLayout) (frame : Rect) :
      App.Reachable methods (App.new eventList ptyMaster activePane layout) frame
  | turn {app next : App} {previous : Rect} {io : Io} {event : Event} :
      App.Reachable methods app previous → (io.frame = previous ∨ event.resizes) →
      app.turn methods io event = .ok next → App.Reachable methods next io.frame

/-- While the flag is clear, the event list's window length and the pseudo
terminal's size are those `render` gives the panes of `frame`. -/
def App.ResizeCached (app : App) (frame : Rect) : Prop :=
  app.shouldHandleInternalResize = false →
    app.eventList.maxWindowLen = (app.paneAreas (headerRestFooter frame).2.1).1.height - 2 ∧
      ∀ term ∈ app.term, term.size =
        ⟨(app.paneAreas (headerRestFooter frame).2.1).2.height - 2,
          (app.paneAreas (headerRestFooter frame).2.1).2.width - 2, 0, 0⟩

namespace App.ResizeCached

variable {app next : App} {frame : Rect}

theorem of_flag (pending : app.shouldHandleInternalResize = true) : app.ResizeCached frame :=
  fun clear => absurd (pending.symm.trans clear) Bool.noConfusion

/-- The cache only reads the flag, the window length, the terminal and the
fields that place the panes. -/
theorem of_same (cached : app.ResizeCached frame)
    (sameFlag : next.shouldHandleInternalResize = app.shouldHandleInternalResize)
    (sameLen : next.eventList.maxWindowLen = app.eventList.maxWindowLen)
    (sameTerm : next.term = app.term) (sameLayout : next.layout = app.layout)
    (sameSplit : next.splitPercentage = app.splitPercentage) : next.ResizeCached frame := by
  have samePanes : next.paneAreas = app.paneAreas := by
    funext rest
    simp only [App.paneAreas, sameLayout, sameSplit]
  intro clear
  rw [sameFlag] at clear
  rw [sameLen, sameTerm, samePanes]
  exact cached clear

end App.ResizeCached

/-- `render` keeps the cache of its own frame: it recomputes both sizes when
the flag is set and the panes are large enough, and otherwise changes neither. -/
theorem render_resizeCached {methods : EventListMethods} (keeps : methods.KeepsWindowLen)
    {app next : App} {resizeFails : Bool} {frame : Rect} {drawn : Frame}
    (cached : app.ResizeCached frame)
    (rendered : app.render methods resizeFails frame = some (next, drawn)) :
    next.ResizeCached frame := by
  rcases render_state rendered with rfl | ⟨resized, resizedEq, rfl⟩
  · exact cached
  · have resizedCached : resized.ResizeCached frame := by
      rw [resizedEq]
      split_ifs with pending
      · intro _
        simp [App.resizePanes, App.paneAreas]
      · exact cached
    exact resizedCached.of_same rfl (keeps.render _ _) rfl rfl rfl

/-- Every action keeps the cache of the frame it is handled in. -/
theorem perform_resizeCached {methods : EventListMethods} (keeps : methods.KeepsWindowLen)
    {app next : App} {io : Io} {action : Action} (cached : app.ResizeCached io.frame)
    (performed : app.perform methods io action = .ok next) : next.ResizeCached io.frame := by
  cases action
  case render =>
    obtain ⟨_, rendered⟩ := draw_eq_ok performed
    exact render_resizeCached keeps cached rendered
  case copyToClipboard =>
    rcases perform_copyToClipboard_eq_ok performed with rfl | rfl
    · exact cached
    · exact cached.of_same rfl rfl rfl rfl rfl
  all_goals simp only [App.perform, Except.ok.injEq, reduceCtorEq] at performed <;> subst performed
  case resize | shrinkPane | growPane | switchLayout => exact App.ResizeCached.of_flag rfl
  case handleTerminalKeyPress | switchActivePane => exact cached.of_same rfl rfl rfl rfl rfl
  all_goals exact cached.of_same rfl (keeps.navigate _ _) rfl rfl rfl

/-- An event leaves the cache as it was; a `Resize` or `Init` event sends an
action that sets the flag. -/
theorem handleEvent_resizeCached {app next : App} {io : Io} {event : Event}
    {sent : Option Action} {frame : Rect} (cached : app.ResizeCached frame)
    (handled : app.handleEvent io event = .ok (next, sent)) : next.ResizeCached frame := by
  rcases handleEvent_eq_ok handled with rfl | ⟨_, _, rfl⟩ | ⟨_, rfl⟩
  · exact cached
  all_goals exact cached.of_same rfl rfl rfl rfl rfl

theorem turn_resizes {methods : EventListMethods} {app next : App} {io : Io}
    {event : Event} (resizes : event.resizes) (turned : app.turn methods io event = .ok next) :
    next.shouldHandleInternalResize = true := by
  cases event <;> simp only [Event.resizes, reduceCtorEq] at resizes
  case resize =>
    simp only [App.turn, App.handleEvent, App.perform, Except.ok.injEq] at turned
    rw [← turned]
  case init =>
    cases size : io.size <;> simp only [App.turn, App.handleEvent, size, App.perform,
      Except.ok.injEq, reduceCtorEq] at turned
    rw [← turned]

/-- In every state `App::run` reaches, while the internal-resize flag is clear,
the event list's window length is the events pane's height less its borders and
the pseudo terminal's size is the terminal pane's size less its borders, for
the panes of the frame of the last turn. -/
theorem App.Reachable.resizeCached {methods : EventListMethods} (keeps : methods.KeepsWindowLen)
    {app : App} {frame : Rect} (reachable : app.Reachable methods frame) :
    app.ResizeCached frame := by
  induction reachable with
  | new => exact App.ResizeCached.of_flag rfl
  | turn _ sameFrame turned ih =>
      rcases sameFrame with rfl | resizes
      · obtain ⟨handled, sent, handledEq, ⟨-, rfl⟩ | ⟨action, -, performed⟩⟩ := turn_eq_ok turned
        · exact handleEvent_resizeCached ih handledEq
        · exact perform_resizeCached keeps (handleEvent_resizeCached ih handledEq) performed
      · exact App.ResizeCached.of_flag (turn_resizes resizes turned)

theorem resizeCached_after_first_render :
    idleMethods.KeepsWindowLen ∧ ∃ app : App, app.Reachable idleMethods ⟨0, 0, 80, 24⟩ ∧
      app.shouldHandleInternalResize = false ∧ app.ResizeCached ⟨0, 0, 80, 24⟩ := by
  have turned : (App.new ⟨[], (0, 0), 0, none⟩ (some ⟨3⟩) .events .horizontal).turn idleMethods
      ⟨some ⟨80, 24⟩, ⟨0, 0, 80, 24⟩, .ok, false, false⟩ .render = .ok _ := rfl
  have reachable := App.Reachable.turn (.new _ _ _ _ ⟨0, 0, 80, 24⟩) (Or.inl rfl) turned
  exact ⟨idleMethods_keepsWindowLen, _, reachable, rfl,
    App.Reachable.resizeCached idleMethods_keepsWindowLen reachable⟩

/-! ### A render brings the cache up to date -/

end Tracexec.Tui
