/-
The ratatui layout requests that `App::render` makes (tui/app.rs), modelled for
the constraints it uses.

The frame is split vertically into a two-row header, the rest and a two-row
footer (`[Length(2), Min(0), Length(2)]`), and the rest into two panes by two
percentages (`[Percentage(p), Percentage(100 - p)]`), side by side or stacked.
A percentage gets its share of the length rounded to the nearest cell; the
second pane gets its share of what the first left.  A frame shorter than four
rows gives its rows to the footer first, then to the header.
-/

import Mathlib.Data.Nat.Defs
import Mathlib.Order.Basic

namespace Tracexec.Tui

/-- `ratatui::layout::Rect`. -/
structure Rect where
  x : Nat
  y : Nat
  width : Nat
  height : Nat
  deriving DecidableEq, Repr

/-- `ratatui::layout::Size`. -/
structure Size where
  width : Nat
  height : Nat
  deriving DecidableEq, Repr

/-- `ratatui::layout::Direction`. -/
inductive Direction
  | horizontal
  | vertical
  deriving DecidableEq, Repr

/-- `Layout::vertical([Length(2), Min(0), Length(2)]).areas(area)`. -/
def headerRestFooter (area : Rect) : Rect × Rect × Rect :=
  let footer := min 2 area.height
  let header := min 2 (area.height - footer)
  let rest := area.height - header - footer
  (⟨area.x, area.y, area.width, header⟩, ⟨area.x, area.y + header, area.width, rest⟩,
    ⟨area.x, area.y + header + rest, area.width, footer⟩)

/-- The cells `Percentage(percent)` gets of `length`. -/
def percentageLength (length percent : Nat) : Nat :=
  min length ((length * percent + 50) / 100)

/-- `Layout::horizontal` or `Layout::vertical` of
`[Percentage(first), Percentage(second)]`, then `.areas(area)`. -/
def percentageAreas (direction : Direction) (first second : Nat) (area : Rect) : Rect × Rect :=
  match direction with
  | .horizontal =>
      let left := percentageLength area.width first
      let right := min (area.width - left) (percentageLength area.width second)
      (⟨area.x, area.y, left, area.height⟩, ⟨area.x + left, area.y, right, area.height⟩)
  | .vertical =>
      let top := percentageLength area.height first
      let bottom := min (area.height - top) (percentageLength area.height second)
      (⟨area.x, area.y, area.width, top⟩, ⟨area.x, area.y + top, area.width, bottom⟩)

/-- `Block::inner` of a block with all borders. -/
def blockInner (area : Rect) : Rect :=
  ⟨area.x + 1, area.y + 1, area.width - 2, area.height - 2⟩

theorem headerRestFooter_rest (area : Rect) (tall : 4 ≤ area.height) :
    (headerRestFooter area).2.1 = ⟨area.x, area.y + 2, area.width, area.height - 4⟩ := by
  simp only [headerRestFooter, Rect.mk.injEq, true_and]
  omega

@[simp] theorem percentageLength_hundred (length : Nat) : percentageLength length 100 = length := by
  simp only [percentageLength]
  omega

@[simp] theorem percentageLength_zero (length : Nat) : percentageLength length 0 = 0 := by
  simp [percentageLength]

/-- Two shares of at least ten percent each of a length of at least 40 both get
four cells or more. -/
theorem four_le_percentageLength_split (length first : Nat) (atLeast : 10 ≤ first)
    (atMost : first ≤ 90) (long : 40 ≤ length) :
    4 ≤ percentageLength length first ∧
      4 ≤ min (length - percentageLength length first) (percentageLength length (100 - first)) := by
  have low : length * 10 ≤ length * first := Nat.mul_le_mul_left _ atLeast
  have high : length * first ≤ length * 90 := Nat.mul_le_mul_left _ atMost
  have rest : length * (100 - first) = length * 100 - length * first := Nat.mul_sub _ _ _
  simp only [percentageLength, rest]
  omega

end Tracexec.Tui
