import RegexLiteral.Diagnostic.Display

/-!
# Windows on long lines

Lines that are too long for the screen are shown through a window of columns. It leaves out white
space on the left that all lines share, and is then placed so that as much as possible of what is
marked, of its label and of the code around it can be seen, in this order.
-/
namespace RegexLiteral

/-- What a window has to show, in columns. -/
structure Extent where
  /-- The white space that all lines start with. -/
  indent : Nat
  /-- The first column that is marked. -/
  markLeft : Nat
  /-- The end of what is marked. -/
  markRight : Nat
  /-- The end of the labels. -/
  labelRight : Nat
  /-- The end of the longest line. -/
  lineRight : Nat

/-- The columns that are shown. -/
structure Window where
  left : Nat
  right : Nat
  /-- The columns that there is room for. -/
  room : Nat

namespace Window

/-- The columns left around what is marked. -/
def padding : Nat := 6

/-- The window for an extent. -/
def of (room : Nat) (e : Extent) : Window :=
  let indent := e.indent - padding
  let markLeft := e.markLeft - padding
  let markRight := e.markRight + padding
  let labelRight := e.labelRight + padding
  let left := if indent > 20 then indent - 16 else 0
  let right := max e.lineRight left
  if right - left ≤ room then ⟨left, right, room⟩
  else if labelRight - indent ≤ room then ⟨indent, indent + room, room⟩
  else if labelRight - markLeft ≤ room then
    let left := markLeft - (room - (labelRight - markLeft)) / 2
    ⟨left, left + room, room⟩
  else if markRight - markLeft ≤ room then
    let left := markLeft - (room - (markRight - markLeft)) / 5 * 2
    ⟨left, left + room, room⟩
  else ⟨markLeft, markRight, room⟩

/-- The first column that is shown of a line of some length. -/
def leftOf (w : Window) (length : Nat) : Nat := min w.left length

/-- The end of what is shown of a line of some length. -/
def rightOf (w : Window) (length : Nat) : Nat :=
  if length - w.left ≤ w.room then length else min length w.right

/-- What stands for code that is left out. -/
def ellipsis : Text := ['.', '.', '.']

/-- A line seen through a window: pieces of text, each with the place where it starts, and the
column of the line that the first place stands for. Places count characters. -/
structure View where
  pieces : List (Nat × Text)
  left : Nat

/-- A displayed line seen through a window. The ellipsis takes the room of the first and of the
last characters. -/
def view (w : Window) (line : Text) : View :=
  let length := Display.width line
  let left := w.leftOf length
  let right := w.rightOf length
  let (skipped, rest) := Display.reach left line
  let code := Display.fit (right - left) rest
  let left := max left (Display.width skipped)
  let (hidden, kept) := if w.left > 0 then Display.reach ellipsis.length code else ([], code)
  let start := Display.width hidden
  let tail := (Display.reach ellipsis.length code.reverse).1.length
  { pieces :=
      (if w.left > 0 then [(0, ellipsis)] else []) ++ [(start, kept)] ++
        (if length > right then [(start + kept.length - tail, ellipsis)] else [])
    left := left - (start - ellipsis.length) }

end Window
end RegexLiteral
