import RegexLiteral.Unicode.Width

/-!
# Characters as they are displayed

Text is displayed in columns. A tab takes four of them, and characters that would move or hide what
follows are replaced by signs that can be seen. `reach` and `fit` cut a text at a column, from
either side of a character that lies across it.
-/
namespace RegexLiteral.Display

/-- The columns of a tab. -/
def tabWidth : Nat := 4

/-- Control characters for the direction of text. -/
def isDirectionControl (c : Char) : Bool :=
  (0x202A ≤ c.toNat && c.toNat ≤ 0x202E) || (0x2066 ≤ c.toNat && c.toNat ≤ 0x2069)

/-- Control characters that have a sign of their own. -/
def isSigned (c : Char) : Bool := (c.toNat < 0x20 && c ≠ '\n' && c ≠ '\t') || c.toNat = 0x7F

/-- A character as it is displayed. -/
def shown (c : Char) : Text :=
  if c = '\t' then List.replicate tabWidth ' '
  else if c.toNat = 0x7F then [Char.ofNat 0x2421]
  else if isSigned c then [Char.ofNat (0x2400 + c.toNat)]
  else if isDirectionControl c then [Char.ofNat 0xFFFD]
  else if c.toNat = 0x200D then []
  else [c]

/-- A text as it is displayed. -/
def shownText (t : Text) : Text := t.flatMap shown

/-- The columns that a character takes. -/
def columns (c : Char) : Nat :=
  if c = '\t' then tabWidth
  else if isSigned c || isDirectionControl c then 1
  else Unicode.width c

/-- The columns that a text takes. -/
def width : Text → Nat
  | [] => 0
  | c :: rest => columns c + width rest

/-- Cuts a text behind the first characters that take `n` columns or more. -/
def reach : Nat → Text → Text × Text
  | _, [] => ([], [])
  | 0, t => ([], t)
  | n + 1, c :: rest =>
    let (head, tail) := reach (n + 1 - columns c) rest
    (c :: head, tail)

/-- The first characters of a text that take no more than `n` columns. -/
def fit : Nat → Text → Text
  | _, [] => []
  | n, c :: rest => if columns c ≤ n then c :: fit (n - columns c) rest else []

/-- The column at which the character at a byte of a text starts. -/
def columnAt : Text → Nat → Nat
  | _, 0 => 0
  | [], _ => 0
  | c :: rest, byte => columns c + columnAt rest (byte - c.utf8Size)

end RegexLiteral.Display
