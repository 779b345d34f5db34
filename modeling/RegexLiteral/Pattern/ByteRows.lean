import RegexLiteral.CharSet

/-!
# Sets of characters as bytes

UTF-8 writes the code of a character as digits in base 64: the first digit is raised by what tells
the number of bytes, and each further one by 0x80. A row of ranges of bytes writes the characters
whose bytes are in its ranges, one after the other. `byteRows` gives the rows that together
write the characters of a set.
-/
namespace RegexLiteral.Pattern

/-- The bytes from `low` to `high`. -/
structure ByteRange where
  low : Nat
  high : Nat
  deriving DecidableEq, Repr

/-- Ranges for the bytes of a character, in their order. -/
abbrev ByteRow := List ByteRange

/-- What is added to a digit that is not the first. -/
def nextLead : Nat := 0x80

/-- How many numbers are written with `n` digits in base 64. -/
def digitSpan : Nat → Nat
  | 0 => 1
  | n + 1 => 64 * digitSpan n

/-- Rows that together write the numbers from `low` to `high`, in ascending order. A row has a first
digit, which is raised by `lead` and may be higher than 63, and `n` further ones. -/
def rowsBetween (lead : Nat) : Nat → Nat → Nat → List ByteRow
  | 0, low, high => [[⟨lead + low, lead + high⟩]]
  | n + 1, low, high =>
    let unit := digitSpan (n + 1)
    let a := low / unit
    let b := high / unit
    let within (digit low high : Nat) :=
      (rowsBetween nextLead n low high).map (⟨lead + digit, lead + digit⟩ :: ·)
    if a = b then within a (low % unit) (high % unit)
    else
      let first := if low % unit = 0 then a else a + 1
      let stop := if high % unit = unit - 1 then b + 1 else b
      let below := if first = a then [] else within a (low % unit) (unit - 1)
      let above := if stop = b then within b 0 (high % unit) else []
      let full : ByteRow := List.replicate (n + 1) ⟨nextLead, nextLead + 63⟩
      let middle :=
        if first < stop then [⟨lead + first, lead + stop - 1⟩ :: full] else []
      below ++ middle ++ above

/-- The codes that are written with a first digit and a number of further ones. -/
structure CodeLength where
  further : Nat
  codes : CodeRange
  /-- What is added to the first digit. -/
  lead : Nat

/-- The characters of one, two, three and four bytes. The surrogates are no characters. -/
def codeLengths : List CodeLength :=
  [⟨0, ⟨0, 0x7F⟩, 0⟩, ⟨1, ⟨0x80, 0x7FF⟩, 0xC0⟩, ⟨2, ⟨0x800, 0xD7FF⟩, 0xE0⟩,
    ⟨2, ⟨0xE000, 0xFFFF⟩, 0xE0⟩, ⟨3, ⟨0x10000, 0x10FFFF⟩, 0xF0⟩]

/-- Rows that together write the characters of a set, in ascending order. -/
def byteRows (s : CharSet) : List ByteRow :=
  s.ranges.flatMap fun r => codeLengths.flatMap fun l =>
    let low := max r.low l.codes.low
    let high := min r.high l.codes.high
    if low ≤ high then rowsBetween l.lead l.further low high else []

/-- Rows in groups of neighbours that have the same first range, each without it. -/
def groupRows : List ByteRow → List (ByteRange × List ByteRow)
  | [] => []
  | [] :: rows => groupRows rows
  | (r :: row) :: rows =>
    match groupRows rows with
    | (s, tails) :: more =>
      if r = s then (s, row :: tails) :: more else (r, [row]) :: (s, tails) :: more
    | [] => [(r, [row])]

end RegexLiteral.Pattern
