import RegexLiteral.Diagnostic

/-!
# Flags

The flags of a literal are letters in any order, with white space and `#` comments between them. A
character is live if it stands in no comment. A flag is on if its letter is live, and a live
character that is no flag and no white space is reported.
-/
namespace RegexLiteral

/-- The flags of a literal. -/
structure Flags where
  /-- `g`: all matches and not the first only. -/
  global : Bool := false
  /-- `i`: letters match whatever their case. -/
  ignoreCase : Bool := false
  /-- `m`: `^` and `$` hold at the ends of lines too. -/
  multiLine : Bool := false
  /-- `s`: `.` matches a line feed too. -/
  dotMatchesNewLine : Bool := false
  /-- `x`: free spacing. -/
  extended : Bool := false
  deriving DecidableEq, Repr

namespace Flags

/-- The live characters of a text whose first character stands at byte `start`, each with its
byte. A comment runs from a live `#` through the next line feed. -/
def live (start : Nat) (inComment : Bool) : Text → List (Nat × Char)
  | [] => []
  | c :: rest =>
    let next := start + c.utf8Size
    if inComment then live next (c ≠ '\n') rest
    else if c = '#' then live next true rest
    else (start, c) :: live next false rest

/-- Whether a live character says nothing that is understood. -/
def isUnknown (c : Char) : Bool := !(['g', 'i', 'm', 's', 'x'].contains c || isBlank c)

/-- Reads flags that start at byte `start` of the literal. -/
def parse (segment : Text) (start : Nat) : Flags × Diagnostics :=
  let chars := live start false segment
  let has (letter : Char) : Bool := chars.any fun p => p.2 = letter
  ({ global := has 'g'
     ignoreCase := has 'i'
     multiLine := has 'm'
     dotMatchesNewLine := has 's'
     extended := has 'x' },
   (chars.filter fun p => isUnknown p.2).map fun p => .ofChar .unknownFlag p.1 p.2)

/-- The letters of the flags that are on. -/
def letters (f : Flags) : Text :=
  [(f.global, 'g'), (f.ignoreCase, 'i'), (f.multiLine, 'm'), (f.dotMatchesNewLine, 's'),
    (f.extended, 'x')].filterMap fun p => if p.1 then some p.2 else none

/-- The letters of the flags that the engine honours. -/
def engineLetters (f : Flags) : Text :=
  [(f.ignoreCase, 'i'), (f.multiLine, 'm'), (f.dotMatchesNewLine, 's')].filterMap fun p =>
    if p.1 then some p.2 else none

/-- The group that turns on the engine's flags from where it stands, if there are any. -/
def engineGroup (f : Flags) : Option Text :=
  if f.engineLetters.isEmpty then none else some ('(' :: '?' :: f.engineLetters ++ [')'])

/-- A pattern as the engine gets it, behind the group of flags. -/
def enginePattern (f : Flags) (pattern : Text) : Text := f.engineGroup.getD [] ++ pattern

end Flags
end RegexLiteral
