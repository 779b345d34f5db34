import RegexLiteral.Text

/-!
# Sets of characters

A set of characters is a list of ranges of code points. `ofRanges` brings the ranges into their
normal form: ascending, apart from each other, and none empty, so that a set has one form. The
surrogates are no characters; a range may run over them and no complement holds them.
-/
namespace RegexLiteral

/-- The code points from `low` to `high`. -/
structure CodeRange where
  low : Nat
  high : Nat
  deriving DecidableEq, Repr

/-- A set of characters as ranges of code points. -/
structure CharSet where
  ranges : List CodeRange
  deriving DecidableEq, Repr

namespace CharSet

/-- The highest code point. -/
def lastCode : Nat := 0x10FFFF

/-- Joins ranges in ascending order of their starts where they overlap or touch. -/
def join : List CodeRange → List CodeRange
  | [] => []
  | r :: rest => go r rest
where
  go (r : CodeRange) : List CodeRange → List CodeRange
    | [] => [r]
    | s :: rest =>
      if s.low ≤ r.high + 1 then go ⟨r.low, max r.high s.high⟩ rest else r :: go s rest

/-- The set of the code points in any of the ranges. -/
def ofRanges (rs : List CodeRange) : CharSet :=
  ⟨join ((rs.filter fun r => r.low ≤ r.high).mergeSort fun r s => r.low ≤ s.low)⟩

def empty : CharSet := ⟨[]⟩

def singleton (c : Char) : CharSet := ⟨[⟨c.toNat, c.toNat⟩]⟩

/-- All characters. -/
def full : CharSet := ⟨[⟨0, lastCode⟩]⟩

/-- Whether a code point is in the set. -/
def hasCode (s : CharSet) (n : Nat) : Bool := s.ranges.any fun r => r.low ≤ n && n ≤ r.high

def contains (s : CharSet) (c : Char) : Bool := s.hasCode c.toNat

def isEmpty (s : CharSet) : Bool := s.ranges.isEmpty

/-- Whether all members are ASCII. -/
def isAscii (s : CharSet) : Bool := s.ranges.all fun r => r.high ≤ 0x7F

/-- The only member, if there is exactly one. -/
def only? (s : CharSet) : Option Char :=
  match s.ranges with
  | [r] => if r.low = r.high then some (Char.ofNat r.low) else none
  | _ => none

def union (s t : CharSet) : CharSet := ofRanges (s.ranges ++ t.ranges)

/-- The code points from `start` on that lie before, between and after ascending ranges. -/
def gaps (start : Nat) : List CodeRange → List CodeRange
  | [] => if start ≤ lastCode then [⟨start, lastCode⟩] else []
  | r :: rest =>
    if start < r.low then ⟨start, r.low - 1⟩ :: gaps (r.high + 1) rest
    else gaps (r.high + 1) rest

/-- The surrogate code points. -/
def surrogates : CodeRange := ⟨0xD800, 0xDFFF⟩

/-- All characters that are not in the set. -/
def complement (s : CharSet) : CharSet := ⟨gaps 0 (ofRanges (surrogates :: s.ranges)).ranges⟩

def inter (s t : CharSet) : CharSet := complement (union (complement s) (complement t))

def diff (s t : CharSet) : CharSet := inter s (complement t)

/-- The characters in exactly one of the two sets. -/
def symmDiff (s t : CharSet) : CharSet := diff (union s t) (inter s t)

end CharSet
end RegexLiteral
