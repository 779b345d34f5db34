import RegexLiteral.Diagnostic
import RegexLiteral.Diagnostic.Window

/-!
# Diagnostics shown in their literal

A diagnostic is shown by the lines of the literal that it is about, with their numbers, and marks
with the message under what it covers. A range within a line is underlined. One that runs over
several lines is joined by a bar on the left, from a mark below its start to a mark below its end,
and its middle is left out if it is long.

A picture is a list of rows, and a row is made by putting texts at places, the later ones over the
earlier ones.
-/
namespace RegexLiteral.Snippet

/-! ### Lines of a source -/

/-- A line of a source. -/
structure SourceLine where
  number : Nat := 1
  text : Text := []
  /-- The byte at which the line starts. -/
  start : Nat := 0
  /-- The byte behind the text. -/
  textStop : Nat := 0
  /-- The byte behind the end of the line. -/
  stop : Nat := 0

/-- The lines of a source from a line on; `line` holds what has been read of it, last character
first. A line feed ends a line, with the carriage return before it if there is one. -/
def linesFrom (number start : Nat) (line : Text) : Text → List SourceLine
  | [] =>
    if line.isEmpty then []
    else
      let stop := start + byteLength line
      [⟨number, line.reverse, start, stop, stop⟩]
  | c :: rest =>
    if c = '\n' then
      let text := if line.head? = some '\r' then line.tail else line
      let stop := start + byteLength line + 1
      ⟨number, text.reverse, start, start + byteLength text, stop⟩ ::
        linesFrom (number + 1) stop [] rest
    else linesFrom number start (c :: line) rest

/-- The lines of a source. An empty source has one line, which is empty. -/
def sourceLines (source : Text) : List SourceLine :=
  match linesFrom 1 0 [] source with
  | [] => [{}]
  | ls => ls

/-- The line on which a byte stands; bytes behind the last line count to it. -/
def lineAt (ls : List SourceLine) (byte : Nat) : SourceLine :=
  (ls.find? fun l => l.start ≤ byte && byte < l.stop).getD (ls.getLast?.getD {})

/-- The column of a line at which a byte stands, or the end of the line. -/
def SourceLine.columnAt (l : SourceLine) (byte : Nat) : Nat :=
  Display.columnAt l.text (byte - l.start)

/-! ### Marks -/

/-- What is marked on a line. -/
inductive Mark where
  /-- A range of columns. -/
  | range (start stop : Nat)
  /-- The start of a range that ends on a later line. -/
  | opening (column : Nat)
  /-- The range runs through the whole line. -/
  | through
  /-- The end of a range that started on an earlier line. -/
  | closing (stop : Nat)

/-- The columns that a mark takes. -/
def Mark.columns : Mark → Nat × Nat
  | range start stop => (start, stop)
  | opening column => (column, column + 1)
  | through => (0, 0)
  | closing stop => (stop - 1, stop)

/-- Whether the label stands behind the mark. -/
def Mark.isLabelled : Mark → Bool
  | range .. => true
  | closing _ => true
  | _ => false

/-- Whether a line says something: it is no comment and more than blanks and a single bracket. -/
def isTelling (line : Text) : Bool :=
  let t := ((line.dropWhile isBlank).reverse.dropWhile isBlank).reverse
  let isComment := match t with
    | '/' :: '/' :: '/' :: _ => false
    | '/' :: '/' :: '!' :: _ => false
    | '/' :: '/' :: _ => true
    | _ => false
  let isLittle := ["", "\x7b", "\x7d", "(", ")", "[", "]"].contains (String.ofList t)
  !isComment && !isLittle

/-- The numbers of the lines that are shown between the first and the last line of a range: the
next three lines, without those at their end that say nothing, and the line before the last. -/
def middleLines (ls : List SourceLine) (first last : Nat) : List Nat :=
  let telling (number : Nat) : Bool :=
    (ls.find? fun l => l.number = number).any fun l => isTelling l.text
  let stop := min (first + 4) last
  let final := ((List.range' first (stop - first)).reverse.find? telling).getD first
  let next := List.range' (first + 1) (final - first)
  let before := last - 1
  if stop < before && telling before then next ++ [before] else next

/-- The range that is shown for a diagnostic: it lies in the source and, where that can be, is not
empty. -/
def shownRange (limit : Nat) (d : Diagnostic) : Nat × Nat :=
  let start := min d.start limit
  let stop := min d.stop limit
  if start = stop then (start, min (start + 1) limit) else (start, stop)

/-- The lines that are shown for a range of bytes, each with its mark. -/
def markedLines (ls : List SourceLine) (start stop : Nat) : List (SourceLine × Mark) :=
  let first := lineAt ls start
  let last := lineAt ls stop
  let low := first.columnAt start
  let high := last.columnAt stop
  if start = stop || first.number = last.number then
    [(first, .range low (if start = stop || high = low then low + 1 else high))]
  else
    let high := if stop > last.textStop then high + 1 else high
    let middle := middleLines ls first.number last.number
    (first, .opening low) ::
      (ls.filter fun l => middle.contains l.number).map (fun l => (l, .through)) ++
      [(last, .closing high)]

/-! ### Rows -/

/-- Puts a text into a row. -/
def put (place : Nat) (t row : Text) : Text :=
  if t.isEmpty then row
  else
    row.take place ++ List.replicate (place - row.length) ' ' ++ t ++ row.drop (place + t.length)

/-- Puts texts into a row, one after the other. -/
def putAll (pieces : List (Nat × Text)) (row : Text) : Text :=
  pieces.foldl (fun row p => put p.1 p.2 row) row

/-- How the rows of a picture are laid out. -/
structure Page where
  /-- The columns of the largest line number. -/
  digits : Nat
  /-- Whether there is a bar to the left of the code. -/
  hasBar : Bool
  window : Window
  label : Text

namespace Page

/-- The place of the line that parts numbers and code. -/
def rule (p : Page) : Nat := p.digits + 1

/-- The place of the bar. -/
def bar (p : Page) : Nat := p.digits + 3

/-- The place where code starts. -/
def code (p : Page) : Nat := p.bar + if p.hasBar then 2 else 0

/-- The row that stands before the first line. -/
def spacer (p : Page) : Text := put p.rule ['|'] []

/-- The row of a line of the source, and the column of the line at which its code starts. -/
def codeRow (p : Page) (l : SourceLine) : Text × Nat :=
  let view := p.window.view (Display.shownText l.text)
  let number := (toString l.number).toList
  let number := List.replicate (p.digits - number.length) ' ' ++ number
  (putAll (view.pieces.map (fun q => (p.code + q.1, q.2)) ++ [(0, number), (p.rule, ['|'])]) [],
    view.left)

/-- The label behind a mark that ends at a column. -/
def labelPiece (p : Page) (left stop : Nat) : Nat × Text :=
  (p.code + ((if stop = 0 then 2 else stop + 1) - left), p.label)

/-- Carets under a range of columns. -/
def carets (p : Page) (left start stop : Nat) : Nat × Text :=
  (p.code + start - left, List.replicate (stop - start) '^')

/-- The line from the bar to a column. -/
def arm (p : Page) (left column : Nat) : Nat × Text :=
  (p.bar + 1, List.replicate (p.code + column - left - (p.bar + 1)) '_')

/-- The rows of a line and its mark. If only blanks stand before the start of a range, the bar
starts on the line itself. -/
def rows (p : Page) (l : SourceLine) (m : Mark) : List Text :=
  let (row, left) := p.codeRow l
  match m with
  | .range start stop =>
    [row, putAll [p.labelPiece left stop, p.carets left start stop] p.spacer]
  | .opening column =>
    if ((Display.shownText l.text).take column).all isBlank then [put p.bar ['/'] row]
    else [row, putAll [p.arm left column, p.carets left column (column + 1)] p.spacer]
  | .through => [put p.bar ['|'] row]
  | .closing stop =>
    [put p.bar ['|'] row,
      putAll [p.arm left (stop - 1), (p.bar, ['|']), p.labelPiece left stop,
        p.carets left (stop - 1) (stop - 1 + 1)] p.spacer]

/-- The rows between two lines that are shown: a single line is shown as well, and several ones
are left out. -/
def gap (p : Page) (ls : List SourceLine) (before after : Nat) : List Text :=
  match after - before with
  | 0 => []
  | 1 => []
  | 2 =>
    ((ls.find? fun l => l.number = before + 1).map fun l => put p.bar ['|'] (p.codeRow l).1).toList
  | _ => [put p.bar ['|'] Window.ellipsis]

/-- The rows of all lines that are shown. -/
def allRows (p : Page) (ls : List SourceLine) : List (SourceLine × Mark) → List Text
  | [] => []
  | [(l, m)] => p.rows l m
  | (l, m) :: (l', m') :: rest =>
    p.rows l m ++ p.gap ls l.number l'.number ++ allRows p ls ((l', m') :: rest)

end Page

/-- The columns of the screen. -/
def screenWidth : Nat := 140

/-- What has to be shown of marked lines. -/
def extent (label : Text) (marked : List (SourceLine × Mark)) : Extent :=
  let indents := (marked.map fun q => q.1.text).filterMap fun t =>
    if t.all isBlank then none
    else some ((t.takeWhile isBlank).foldl
      (fun n c => n + if c = '\t' then Display.tabWidth else 1) 0)
  let marks := marked.map Prod.snd
  let labelEnd (m : Mark) : Nat :=
    m.columns.2 + if m.isLabelled then Display.width label + 1 else 0
  { indent := indents.min?.getD 0
    markLeft := ((marks.map fun m => min m.columns.1 m.columns.2).min?).getD 0
    markRight := ((marks.map fun m => max m.columns.1 m.columns.2).max?).getD 0
    labelRight := ((marks.map labelEnd).max?).getD 0
    lineRight := ((marked.map fun q => Display.width q.1.text).max?).getD 0 }

/-- The page for marked lines; `stop` is the end of the marked range. -/
def pageFor (source label : Text) (stop : Nat) (marked : List (SourceLine × Mark)) : Page :=
  let before := (linesFrom 1 0 [] (takeBytes stop source)).length
  let digits := (toString (max 1 before)).length
  let hasBar := marked.length > 1
  let code := digits + 3 + if hasBar then 2 else 0
  { digits := digits
    hasBar := hasBar
    window := Window.of (screenWidth - code) (extent label marked)
    label := label }
where
  /-- The characters of a text that start before a byte. -/
  takeBytes : Nat → Text → Text
    | _, [] => []
    | 0, _ => []
    | n + 1, c :: rest => c :: takeBytes (n + 1 - c.utf8Size) rest

/-- The rows of the title: the severity and the lines of the message. -/
def titleRows (d : Diagnostic) : List Text :=
  let head := (d.severity.name ++ ": ").toList
  match lines (Display.shownText d.message.toList) with
  | [] => [head]
  | first :: rest => (head ++ first) :: rest.map fun l => List.replicate head.length ' ' ++ l

/-- A diagnostic shown in its source. -/
def picture (source : Text) (d : Diagnostic) : List Text :=
  let ls := sourceLines source
  let (start, stop) := shownRange (byteLength source) d
  let marked := markedLines ls start stop
  let page := pageFor source (Display.shownText d.message.toList) stop marked
  titleRows d ++ page.spacer :: page.allRows ls marked

/-- Diagnostics shown in their source, one after the other. -/
def render (source : Text) (ds : Diagnostics) : Text :=
  ['\n'].intercalate (ds.flatMap (picture source))

end RegexLiteral.Snippet
