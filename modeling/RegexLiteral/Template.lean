import RegexLiteral.Pattern.Regex

/-!
# Replacement templates

A template is text with references to groups: `$1`, `$name` and `${name}`. A doubled dollar sign
stands for one, and so does a dollar sign that starts no reference. A reference to a group that is
not there, or that took no part in the match, stands for nothing.
-/
namespace RegexLiteral
open Pattern

/-- The text that a span covers. -/
def slice (t : Text) (s : Span) : Text := (t.drop s.start).take (s.stop - s.start)

namespace Template

/-- A part of a template. -/
inductive Part where
  | char (c : Char)
  | reference (name : Text)
  deriving DecidableEq, Repr

/-- Whether a character may stand in a reference without braces. -/
def isReferenceChar (c : Char) : Bool := c.isAlphanum || c = '_'

/-- Reads a template. -/
def read : Text → List Part
  | [] => []
  | c :: rest =>
    if c ≠ '$' then .char c :: read rest
    else
      match rest with
      | [] => [.char '$']
      | d :: more =>
        if d = '$' then .char '$' :: read more
        else if d = '\x7b' then
          match _closing : more.dropWhile (· ≠ '\x7d') with
          | [] => .char '$' :: read (d :: more)
          | _ :: after =>
            have := (List.dropWhile_suffix (l := more) (· ≠ '\x7d')).length_le
            .reference (more.takeWhile (· ≠ '\x7d')) :: read after
        else if isReferenceChar d then
          have := (List.dropWhile_suffix (l := more) isReferenceChar).length_le
          .reference (d :: more.takeWhile isReferenceChar) :: read (more.dropWhile isReferenceChar)
        else .char '$' :: read (d :: more)
termination_by t => t.length
decreasing_by all_goals simp_all <;> omega

/-- The first number that a reference cannot have, since it takes more than 64 bits. -/
def numberLimit : Nat := 18446744073709551616

/-- The number that a name writes. A plus sign may stand before the digits. -/
def numberOf? (name : Text) : Option Nat :=
  let digits := if name.head? = some '+' then name.drop 1 else name
  if digits.isEmpty || !digits.all Char.isDigit then none
  else
    let n := numberOf 10 (digits.map fun c => c.toNat - '0'.toNat)
    if n < numberLimit then some n else none

/-- The number of the group that a reference means. -/
def groupOf? (r : Regex) (name : Text) : Option Nat :=
  match numberOf? name with
  | some n => some n
  | none => r.groupNamed? name

/-- The text that a part stands for in a match. -/
def Part.expand (r : Regex) (haystack : Text) (m : Match) : Part → Text
  | char c => [c]
  | reference name =>
    match (groupOf? r name).bind m.group? with
    | none => []
    | some span => slice haystack span

/-- The text that a template stands for in a match. -/
def expand (template : Text) (r : Regex) (haystack : Text) (m : Match) : Text :=
  (read template).flatMap (Part.expand r haystack m)

end Template
end RegexLiteral
