import RegexLiteral.Text

/-!
# Free spacing

In a free-spacing text white space and `#` comments outside bracketed classes are layout and do
not count. `strip` takes the layout out: it runs over the text one character at a time, and the
`Place` reached so far says whether the next character is kept. The text after a prefix is
therefore stripped as the place at the end of the prefix says (`stripFrom_append`).
-/
namespace RegexLiteral.Layout

/-- Where the next character of a free-spacing text stands. -/
inductive Place where
  /-- Outside classes and comments. -/
  | outside
  /-- In a comment. -/
  | comment
  /-- Behind the bracket that opens a class. -/
  | classHead
  /-- Behind the bracket that opens a class and a `^`. -/
  | classCaret
  /-- In a class that stands in `outer` further ones. -/
  | inClass (outer : Nat)
  /-- Behind a backslash outside classes. -/
  | escaped
  /-- Behind a backslash in a class that stands in `outer` further ones. -/
  | escapedInClass (outer : Nat)
  deriving DecidableEq, Repr

/-- White space that counts as layout. -/
def isSpace (c : Char) : Bool := c ∈ ['\t', '\n', '\x0b', '\x0c', '\r', ' ']

namespace Place

/-- The place behind a character of a class. -/
def afterClassChar (outer : Nat) (c : Char) : Place :=
  if c = '\\' then escapedInClass outer
  else if c = '[' then inClass (outer + 1)
  else if c = ']' then
    match outer with
    | 0 => outside
    | n + 1 => inClass n
  else inClass outer

/-- The place behind a character. A `]` that comes first in an outermost class is a member. -/
def next : Place → Char → Place
  | outside, c =>
    if c = '\\' then escaped else if c = '[' then classHead else if c = '#' then comment
    else outside
  | comment, c => if c = '\n' then outside else comment
  | classHead, c =>
    if c = '^' then classCaret else if c = ']' then inClass 0 else afterClassChar 0 c
  | classCaret, c => if c = ']' then inClass 0 else afterClassChar 0 c
  | inClass outer, c => afterClassChar outer c
  | escaped, _ => outside
  | escapedInClass outer, _ => inClass outer

/-- Whether the character at a place is more than layout. -/
def keeps : Place → Char → Bool
  | outside, c => !(c = '#' || isSpace c)
  | comment, _ => false
  | _, _ => true

end Place

/-- The place at the end of a text that starts at a place. -/
def placeAfter (p : Place) (t : Text) : Place := t.foldl Place.next p

/-- Strips a text that starts at a place. -/
def stripFrom (p : Place) : Text → Text
  | [] => []
  | c :: rest =>
    if p.keeps c then c :: stripFrom (p.next c) rest else stripFrom (p.next c) rest

/-- A free-spacing text without its layout. -/
def strip (t : Text) : Text := stripFrom .outside t

theorem placeAfter_append (p : Place) (s t : Text) :
    placeAfter p (s ++ t) = placeAfter (placeAfter p s) t := List.foldl_append

/-- Stripping goes on behind a prefix from the place that the prefix leads to. -/
theorem stripFrom_append (p : Place) (s t : Text) :
    stripFrom p (s ++ t) = stripFrom p s ++ stripFrom (placeAfter p s) t := by
  induction s generalizing p with
  | nil => rfl
  | cons c s ih =>
    simp only [List.cons_append, stripFrom, placeAfter, List.foldl_cons]
    split <;> simp [ih, placeAfter]

/-- Behind a prefix that ends outside classes and comments a text is stripped as it is alone. -/
theorem strip_append_of_outside {a : Text} (ha : placeAfter .outside a = .outside) (b : Text) :
    strip (a ++ b) = strip a ++ strip b := by
  unfold strip
  rw [stripFrom_append, ha]

end RegexLiteral.Layout
