import RegexLiteral.CharSet

/-!
# Tables of the character database

A table has one row for each value of a property. The members of a row are written as ranges of
hexadecimal code points, `41-5a 61-7a aa`, and read when the row is looked up. Names are compared
loosely: case, spaces, hyphens, underscores and a leading `is` do not count.
-/
namespace RegexLiteral.Unicode

/-- A value of a property with its two names and its written members. -/
structure RangeRow where
  short : String
  long : String
  members : String

abbrev RangeTable := List RangeRow

/-- The value of a hexadecimal digit. -/
def hexValue? (c : Char) : Option Nat :=
  if '0' ≤ c && c ≤ '9' then some (c.toNat - '0'.toNat)
  else if 'a' ≤ c && c ≤ 'f' then some (c.toNat - 'a'.toNat + 10)
  else if 'A' ≤ c && c ≤ 'F' then some (c.toNat - 'A'.toNat + 10)
  else none

/-- The group that ends with a number, if there is anything in it; `group` holds the numbers before
it, last one first. -/
def closeGroup (group : List Nat) (number : Option Nat) : List (List Nat) :=
  match number.toList ++ group with
  | [] => []
  | numbers => [numbers.reverse]

/-- Reads hexadecimal numbers, joined by hyphens to groups and parted by blanks; `group` holds the
numbers of the present group, last one first, and `number` the digits of the next. -/
def readGroups (group : List Nat) (number : Option Nat) : Text → List (List Nat)
  | [] => closeGroup group number
  | c :: rest =>
    if c = '-' then readGroups (number.toList ++ group) none rest
    else
      match hexValue? c with
      | some d => readGroups group (some (16 * number.getD 0 + d)) rest
      | none => closeGroup group number ++ readGroups [] none rest

/-- The set that a row writes down. -/
def RangeRow.charSet (row : RangeRow) : CharSet :=
  ⟨(readGroups [] none row.members.toList).filterMap fun
    | [n] => some ⟨n, n⟩
    | [m, n] => some ⟨m, n⟩
    | _ => none⟩

/-- A name as it is compared: lower case, without what does not count. The name that is left with
a single `c` after its `is` keeps the whole, since that is the short name of another property. -/
def looseName (name : Text) : Text :=
  let skip : Bool := match name with
    | a :: b :: _ => a.toLower = 'i' && b.toLower = 's'
    | _ => false
  let kept := ((if skip then name.drop 2 else name).filter fun c =>
    c ≠ ' ' && c ≠ '_' && c ≠ '-' && c.toNat ≤ 0x7F).map Char.toLower
  if skip && kept = ['c'] then ['i', 's', 'c'] else kept

/-- Whether a row goes by a name, given in its compared form. -/
def RangeRow.hasName (row : RangeRow) (name : Text) : Bool :=
  looseName row.short.toList = name || looseName row.long.toList = name

/-- The row that goes by a name, given in its compared form. -/
def RangeTable.row? (table : RangeTable) (name : Text) : Option RangeRow :=
  table.find? fun row => row.hasName name

end RegexLiteral.Unicode
