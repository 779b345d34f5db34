import RegexLiteral.Pattern.Fault

/-!
# Faults shown in their pattern

A fault is told by the pattern with carets under the span that shows the fault. A pattern of one
line is indented; the lines of a longer one are numbered and set between rules. A span that runs
over several lines gets no carets but is told in words behind the pattern.
-/
namespace RegexLiteral.Pattern

/-- A place in a pattern by line and column, both from one. -/
structure LineColumn where
  line : Nat
  column : Nat
  deriving DecidableEq, Repr

/-- The line and column behind a number of characters. -/
def lineColumn (pattern : Text) (pos : Nat) : LineColumn :=
  (pattern.take pos).foldl
    (fun p c => if c = '\n' then ⟨p.line + 1, 1⟩ else ⟨p.line, p.column + 1⟩) ⟨1, 1⟩

/-- A span by the lines and columns of its ends. -/
structure LineSpan where
  start : LineColumn
  stop : LineColumn
  deriving DecidableEq, Repr

namespace Excerpt

/-- The marks under a line: carets under each span, at least one for each, with blanks between.
`pos` is the number of columns that are marked or blank already. -/
def marks (pos : Nat) : List LineSpan → Text
  | [] => []
  | s :: rest =>
    let blanks := s.start.column - 1 - pos
    let carets := max 1 (s.stop.column - s.start.column)
    List.replicate blanks ' ' ++ List.replicate carets '^' ++ marks (pos + blanks + carets) rest

/-- The lines of a pattern, each followed by the marks under it. `width` is the width of the line
numbers, or zero if the lines are not numbered. -/
def body (width : Nat) (spans : List LineSpan) (number : Nat) : List Text → List Text
  | [] => []
  | line :: rest =>
    let digits := (toString number).toList
    let margin :=
      if width = 0 then [' ', ' ', ' ', ' ']
      else List.replicate (width - digits.length) ' ' ++ digits ++ [':', ' ']
    let under := spans.filter fun s => s.start.line = number
    let noted := if under.isEmpty then [] else [List.replicate margin.length ' ' ++ marks 0 under]
    (margin ++ line) :: noted ++ body width spans (number + 1) rest

/-- A span of several lines in words. Its last column is the one before its end. -/
def inWords (s : LineSpan) : Text :=
  ("on line " ++ toString s.start.line ++ " (column " ++ toString s.start.column ++
    ") through line " ++ toString s.stop.line ++ " (column " ++ toString (s.stop.column - 1) ++
    ")").toList

/-- The spans of a fault in the order in which they stand. -/
def spans (f : Fault) : List Span :=
  match f.cause.first? with
  | none => [f.span]
  | some s =>
    if s.start < f.span.start || (s.start = f.span.start && s.stop ≤ f.span.stop) then [s, f.span]
    else [f.span, s]

end Excerpt

/-- A fault as it is told. -/
def Fault.describe (f : Fault) (pattern : Text) : Text :=
  let spans := (Excerpt.spans f).map fun s =>
    (⟨lineColumn pattern s.start, lineColumn pattern s.stop⟩ : LineSpan)
  let short := spans.filter fun s => s.start.line = s.stop.line
  let long := spans.filter fun s => s.start.line ≠ s.stop.line
  let ls := lines pattern
  let count := ls.length + if pattern.getLast? = some '\n' then 1 else 0
  let width := if count ≤ 1 then 0 else (toString count).length
  let rule := if pattern.contains '\n' then [List.replicate 79 '~'] else []
  let told := ["regex parse error:".toList] ++ rule ++ Excerpt.body width short 1 ls ++ rule ++
    long.map Excerpt.inWords ++ [("error: " ++ f.cause.message).toList]
  ['\n'].intercalate told

end RegexLiteral.Pattern
