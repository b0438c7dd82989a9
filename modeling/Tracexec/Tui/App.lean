/-
The state of the TUI's `App` (tui/app.rs): its construction, the two actions
that move the pane split, and `render`.

`render` lays the frame out as a two-row header, the rest and a two-row footer,
splits the rest between the events pane and the terminal pane by
`split_percentage`, and returns early with a "too small" message when either
pane is narrower or shorter than four cells.  Otherwise it applies a pending
internal resize to the event list's window and to the pseudo terminal, and
draws both panes and the help line.

Without a pseudo terminal the split is `100`, the terminal pane gets no width
or no height, and the size guards, which test it whatever `term` is, always
return early: such an `App` never draws its event list.

`EventList` (event_list.rs) and `PseudoTerminalPane` (pseudo_term.rs) are not
among the modelled sources: the event list is the fields `App` touches, with
its methods as parameters, and the pane is its size and pty master.
-/

import Tracexec.Event
import Tracexec.Tui.Layout

namespace Tracexec.Tui

/-- `AppLayout`. -/
inductive AppLayout
  | horizontal
  | vertical
  deriving DecidableEq, Repr

/-- `ActivePane` (cli/options.rs). -/
inductive ActivePane
  | events
  | terminal
  deriving DecidableEq, Repr

/-- `PtySize`. -/
structure PtySize where
  rows : Nat
  cols : Nat
  pixelWidth : Nat
  pixelHeight : Nat
  deriving DecidableEq, Repr

/-- The master side of a pseudo terminal, by its file descriptor. -/
structure UnixMasterPty where
  fd : Nat
  deriving DecidableEq, Repr

/-- A `PseudoTerminalPane`: its pty master and its current size. -/
structure PseudoTerminalPane where
  master : UnixMasterPty
  size : PtySize
  deriving DecidableEq, Repr

/-- The fields of `EventList` that `App` reads and writes. -/
structure EventList where
  items : List TracerEvent
  window : Nat × Nat
  maxWindowLen : Nat
  selected : Option Nat
  deriving DecidableEq, Repr

/-- The navigation methods of `EventList` that `App::run` calls. -/
inductive Navigation
  | next
  | previous
  | pageDown
  | pageUp
  | pageLeft
  | pageRight
  | scrollLeft
  | scrollRight
  deriving DecidableEq, Repr

/-- The methods of `EventList` that `App` calls, which event_list.rs defines. -/
structure EventListMethods where
  navigate : Navigation → EventList → EventList
  render : Rect → EventList → EventList

structure App where
  eventList : EventList
  term : Option PseudoTerminalPane
  rootPid : Option Int
  activePane : ActivePane
  clipboard : Option String
  splitPercentage : UInt16
  layout : AppLayout
  shouldHandleInternalResize : Bool

/-- `PseudoTerminalPane::new`. -/
def PseudoTerminalPane.new (size : PtySize) (master : UnixMasterPty) : PseudoTerminalPane :=
  { master, size }

/-- `App::new`, given the event list that `EventList::new(baseline)` built. -/
def App.new (eventList : EventList) (ptyMaster : Option UnixMasterPty)
    (activePane : ActivePane) (layout : AppLayout) : App where
  eventList := eventList
  term := ptyMaster.map (PseudoTerminalPane.new ⟨24, 80, 0, 0⟩)
  rootPid := none
  activePane := if ptyMaster.isSome then activePane else .events
  clipboard := none
  splitPercentage := if ptyMaster.isSome then 50 else 100
  layout := layout
  shouldHandleInternalResize := true

/-- `u16::saturating_sub`. -/
def saturatingSub (a b : UInt16) : UInt16 := if b ≤ a then a - b else 0

/-- `u16::saturating_add`. -/
def saturatingAdd (a b : UInt16) : UInt16 :=
  if a.toNat + b.toNat < UInt16.size then a + b else 65535

def App.shrinkPane (app : App) : App :=
  if app.term.isSome then
    { app with splitPercentage := max (saturatingSub app.splitPercentage 1) 10 }
  else app

def App.growPane (app : App) : App :=
  if app.term.isSome then
    { app with splitPercentage := min (saturatingAdd app.splitPercentage 1) 90 }
  else app

/-! ### `render` -/

/-- The help line: the key and description of each item of `render_help`. -/
def helpItems : ActivePane → List (String × String)
  | .events =>
      [("Ctrl+S", "Switch\u00a0Pane"), ("↑/↓/←/→/Pg\x7bUp,Dn\x7d", "Navigate"),
        ("Ctrl+<-/->", "Scroll<->"), ("G/S", "Grow/Shrink\u00a0Pane"), ("Alt+L", "Layout"),
        ("V", "View"), ("C", "Copy"), ("Q", "Quit")]
  | .terminal => [("Ctrl+S", "Switch\u00a0Pane"), ("Ctrl+Shift+R", "FIXME")]

/-- What `render` draws below the title. -/
inductive Body
  /-- The early return: a paragraph over the rest of the frame. -/
  | tooSmall (message : String)
  /-- The events pane, the terminal pane when there is one, and the help line
  in the footer. -/
  | panes (events : Rect) (terminal : Option Rect) (help : List (String × String))
  deriving DecidableEq, Repr

/-- One frame: the title, rest and footer areas, and what is drawn in the rest
and the footer. -/
structure Frame where
  header : Rect
  rest : Rect
  footer : Rect
  body : Body
  deriving DecidableEq, Repr

/-- The resize branch of `render`: the event list's window takes the events
pane's height less its borders, the pseudo terminal the terminal pane's size
less its borders. -/
def App.resizePanes (app : App) (eventArea termArea : Rect) : App :=
  let maxWindowLen := eventArea.height - 2
  { app with
    shouldHandleInternalResize := false
    eventList := { app.eventList with
      maxWindowLen
      window := (app.eventList.window.1, app.eventList.window.1 + maxWindowLen) }
    term := app.term.map fun term =>
      { term with size := ⟨termArea.height - 2, termArea.width - 2, 0, 0⟩ } }

/-- The two panes of the rest area, as `render` asks for them. -/
def App.paneAreas (app : App) (rest : Rect) : Rect × Rect :=
  percentageAreas (if app.layout = .horizontal then .horizontal else .vertical)
    app.splitPercentage.toNat (100 - app.splitPercentage).toNat rest

/-- `Widget for &mut App`: the state after drawing and the frame drawn, or
`none` where it panics.  The resize branch unwraps `term.resize(..)`, which
fails when `resizeFails`: the pseudo terminal's `resize` is not modelled, only
whether it fails. -/
def App.render (methods : EventListMethods) (resizeFails : Bool) (app : App) (area : Rect) :
    Option (App × Frame) :=
  let areas := headerRestFooter area
  let eventArea := (app.paneAreas areas.2.1).1
  let termArea := (app.paneAreas areas.2.1).2
  if eventArea.width < 4 ∨ termArea.width < 4 then
    some (app, ⟨areas.1, areas.2.1, areas.2.2, .tooSmall "Terminal\nor\npane\ntoo\nsmall"⟩)
  else if eventArea.height < 4 ∨ termArea.height < 4 then
    some (app, ⟨areas.1, areas.2.1, areas.2.2, .tooSmall "Terminal or pane too small"⟩)
  else if app.shouldHandleInternalResize ∧ app.term.isSome ∧ resizeFails then none
  else
    let resized := if app.shouldHandleInternalResize then app.resizePanes eventArea termArea
      else app
    some ({ resized with eventList := methods.render (blockInner eventArea) resized.eventList },
      ⟨areas.1, areas.2.1, areas.2.2, .panes eventArea (resized.term.map fun _ => termArea)
        (helpItems resized.activePane)⟩)

/-! ### The pane split -/

private theorem uint16_le_iff (a b : UInt16) : a ≤ b ↔ a.toNat ≤ b.toNat := by
  rw [UInt16.le_def, BitVec.le_def]
  rfl

theorem toNat_saturatingSub_one (a : UInt16) : (saturatingSub a 1).toNat = a.toNat - 1 := by
  have one : (1 : UInt16).toNat = 1 := rfl
  unfold saturatingSub
  split_ifs with positive
  · rw [UInt16.toNat_sub_of_le _ _ positive, one]
  · rw [uint16_le_iff, one] at positive
    show 0 = a.toNat - 1
    omega

theorem toNat_saturatingAdd_one (a : UInt16) :
    (saturatingAdd a 1).toNat = min (a.toNat + 1) 65535 := by
  have one : (1 : UInt16).toNat = 1 := rfl
  have size : UInt16.size = 65536 := rfl
  have bound := a.toNat_lt_size
  have wraps : (a + 1).toNat = (a.toNat + 1) % UInt16.size := rfl
  unfold saturatingAdd
  split_ifs with fits
  · rw [one] at fits
    rw [wraps, Nat.mod_eq_of_lt fits]
    omega
  · rw [one] at fits
    show 65535 = _
    omega

theorem toNat_max (a b : UInt16) : (max a b).toNat = max a.toNat b.toNat := by
  show (if a ≤ b then b else a).toNat = _
  split_ifs with le <;> rw [uint16_le_iff] at le <;> omega

theorem toNat_min (a b : UInt16) : (min a b).toNat = min a.toNat b.toNat := by
  show (if a ≤ b then a else b).toNat = _
  split_ifs with le <;> rw [uint16_le_iff] at le <;> omega

@[simp] theorem shrinkPane_term (app : App) : app.shrinkPane.term = app.term := by
  unfold App.shrinkPane
  split_ifs <;> rfl

@[simp] theorem growPane_term (app : App) : app.growPane.term = app.term := by
  unfold App.growPane
  split_ifs <;> rfl

theorem shrinkPane_splitPercentage (app : App) :
    app.shrinkPane.splitPercentage.toNat =
      if app.term.isSome then max (app.splitPercentage.toNat - 1) 10
      else app.splitPercentage.toNat := by
  unfold App.shrinkPane
  split_ifs
  · simp only [toNat_max, toNat_saturatingSub_one]
    rfl
  · rfl

theorem growPane_splitPercentage (app : App) :
    app.growPane.splitPercentage.toNat =
      if app.term.isSome then min (app.splitPercentage.toNat + 1) 90
      else app.splitPercentage.toNat := by
  unfold App.growPane
  split_ifs
  · simp only [toNat_min, toNat_saturatingAdd_one]
    show min (min (app.splitPercentage.toNat + 1) 65535) 90 = _
    omega
  · rfl

/-! ### What `render` changes -/

@[simp] theorem resizePanes_term_isSome (app : App) (eventArea termArea : Rect) :
    (app.resizePanes eventArea termArea).term.isSome = app.term.isSome := by
  simp [App.resizePanes]

section Render

variable {methods : EventListMethods} {resizeFails : Bool} {app next : App} {area : Rect}
  {frame : Frame}

/-- What `render` leaves of the state: all of it where a size guard returns
early, and otherwise the state after the resize branch, if one is pending, with
the event list drawn. -/
theorem render_state (rendered : app.render methods resizeFails area = some (next, frame)) :
    next = app ∨ ∃ resized, resized =
        (if app.shouldHandleInternalResize then
          app.resizePanes (app.paneAreas (headerRestFooter area).2.1).1
            (app.paneAreas (headerRestFooter area).2.1).2
        else app) ∧
      next = { resized with
        eventList := methods.render (blockInner (app.paneAreas (headerRestFooter area).2.1).1)
          resized.eventList } := by
  simp only [App.render] at rendered
  split_ifs at rendered with narrow short panics pending <;> cases rendered
  · exact .inl rfl
  · exact .inl rfl
  · exact .inr ⟨_, if_pos pending |>.symm, rfl⟩
  · exact .inr ⟨_, if_neg pending |>.symm, rfl⟩

theorem render_term_isSome (rendered : app.render methods resizeFails area = some (next, frame)) :
    next.term.isSome = app.term.isSome := by
  rcases render_state rendered with rfl | ⟨_, rfl, rfl⟩
  · rfl
  · split_ifs <;> simp

theorem render_splitPercentage
    (rendered : app.render methods resizeFails area = some (next, frame)) :
    next.splitPercentage = app.splitPercentage := by
  rcases render_state rendered with rfl | ⟨_, rfl, rfl⟩
  · rfl
  · split_ifs <;> rfl

/-- `render` panics only on a failed resize of the pseudo terminal. -/
theorem resizeFails_of_render_eq_none (panicked : app.render methods resizeFails area = none) :
    resizeFails = true := by
  simp only [App.render] at panicked
  split_ifs at panicked with narrow short panics
  exact panics.2.2

end Render

/-- A terminal pane narrower or shorter than four cells makes `render` return
early and leave the state as it was, whether or not a resize would fail. -/
theorem render_of_small_termArea (methods : EventListMethods) (resizeFails : Bool) (app : App)
    (area : Rect)
    (small : (app.paneAreas (headerRestFooter area).2.1).2.width < 4 ∨
      (app.paneAreas (headerRestFooter area).2.1).2.height < 4) :
    ∃ frame message, app.render methods resizeFails area = some (app, frame) ∧
      frame.body = .tooSmall message := by
  simp only [App.render]
  split_ifs with narrow short
  · exact ⟨_, _, rfl, rfl⟩
  · exact ⟨_, _, rfl, rfl⟩
  all_goals omega

/-- At a split of `100` the terminal pane is empty, so `render` returns early on
every frame, in both layouts and whether or not there is a terminal, and leaves
the state as it was. -/
theorem render_of_splitPercentage_hundred (methods : EventListMethods) (resizeFails : Bool)
    (app : App) (area : Rect) (full : app.splitPercentage = 100) :
    ∃ frame message, app.render methods resizeFails area = some (app, frame) ∧
      frame.body = .tooSmall message := by
  apply render_of_small_termArea
  have panes : app.paneAreas (headerRestFooter area).2.1 =
      percentageAreas (if app.layout = .horizontal then .horizontal else .vertical) 100 0
        (headerRestFooter area).2.1 := by
    rw [App.paneAreas, full]
    rfl
  rw [panes]
  cases app.layout
  · exact Or.inl (by simp [percentageAreas])
  · exact Or.inr (by simp [percentageAreas])

/-- With a terminal and a split within `10..=90`, every frame at least 40
columns wide and 8 rows tall side by side, or 4 columns wide and 44 rows tall
stacked, passes the size guards: `render` panics exactly when a resize is
pending and the pseudo terminal's resize fails, and otherwise draws both panes
and leaves no internal resize pending. -/
theorem render_panes_of_large (methods : EventListMethods) (resizeFails : Bool) (app : App)
    (area : Rect) (hasTerm : app.term.isSome) (atLeast : 10 ≤ app.splitPercentage.toNat)
    (atMost : app.splitPercentage.toNat ≤ 90)
    (large : app.layout = .horizontal ∧ 40 ≤ area.width ∧ 8 ≤ area.height ∨
      app.layout = .vertical ∧ 4 ≤ area.width ∧ 44 ≤ area.height) :
    (app.render methods resizeFails area = none ↔
      app.shouldHandleInternalResize = true ∧ resizeFails = true) ∧
    ∀ next frame, app.render methods resizeFails area = some (next, frame) →
      (∃ eventArea termArea, frame.body = .panes eventArea (some termArea) (helpItems app.activePane)) ∧
        next.shouldHandleInternalResize = false := by
  have hundred : (100 - app.splitPercentage).toNat = 100 - app.splitPercentage.toNat :=
    UInt16.toNat_sub_of_le _ _ ((uint16_le_iff _ _).mpr (by show _ ≤ 100; omega))
  have rest := headerRestFooter_rest area (by omega)
  have panesFit : 4 ≤ (app.paneAreas (headerRestFooter area).2.1).1.width ∧
      4 ≤ (app.paneAreas (headerRestFooter area).2.1).2.width ∧
      4 ≤ (app.paneAreas (headerRestFooter area).2.1).1.height ∧
      4 ≤ (app.paneAreas (headerRestFooter area).2.1).2.height := by
    rcases large with ⟨layout, wide, tall⟩ | ⟨layout, wide, tall⟩ <;>
      simp only [App.paneAreas, layout, rest, hundred, percentageAreas, if_true, if_false,
        reduceCtorEq]
    · have shares := four_le_percentageLength_split area.width _ atLeast atMost wide
      omega
    · have shares := four_le_percentageLength_split (area.height - 4) _ atLeast atMost (by omega)
      omega
  obtain ⟨pane, hasPane⟩ := Option.isSome_iff_exists.mp hasTerm
  simp only [App.render]
  rw [if_neg (by omega), if_neg (by omega)]
  split_ifs with panics pending
  · simp [panics.1, panics.2.2]
  · simp only [hasPane, pending, Option.isSome_some, true_and] at panics
    simp [App.resizePanes, hasPane, pending, panics]
  · simp [App.resizePanes, hasPane, pending]

end Tracexec.Tui
