/-!
# Texts

A text is held as the list of its characters. Places in a text are told in two ways: by the number
of characters before them, or by the number of bytes that these take in UTF-8. `byteLength` turns
the first into the second.
-/
namespace RegexLiteral

/-- A text, character by character. -/
abbrev Text := List Char

/-- The number of bytes that a text takes in UTF-8. -/
def byteLength : Text → Nat
  | [] => 0
  | c :: rest => c.utf8Size + byteLength rest

@[simp] theorem byteLength_nil : byteLength [] = 0 := rfl

@[simp] theorem byteLength_cons (c : Char) (t : Text) :
    byteLength (c :: t) = c.utf8Size + byteLength t := rfl

@[simp] theorem byteLength_append (s t : Text) :
    byteLength (s ++ t) = byteLength s + byteLength t := by
  induction s with
  | nil => simp
  | cons c s ih => simp [ih, Nat.add_assoc]

/-- Whether a character is white space in the sense of Unicode. -/
def isBlank (c : Char) : Bool :=
  let n := c.toNat
  (9 ≤ n && n ≤ 13) || n = 0x20 || n = 0x85 || n = 0xA0 || n = 0x1680 ||
  (0x2000 ≤ n && n ≤ 0x200A) || n = 0x2028 || n = 0x2029 || n = 0x202F || n = 0x205F ||
  n = 0x3000

/-- The lines of a text. A line feed ends a line, with the carriage return before it if there is
one; a text that ends in a line feed has no further line after it. -/
def lines (t : Text) : List Text :=
  (go [] t).map fun l => if l.2 && l.1.getLast? = some '\r' then l.1.dropLast else l.1
where
  /-- Lines in order, each with whether a line feed ended it. -/
  go (line : Text) : Text → List (Text × Bool)
    | [] => if line.isEmpty then [] else [(line.reverse, false)]
    | c :: rest => if c = '\n' then (line.reverse, true) :: go [] rest else go (c :: line) rest

end RegexLiteral
