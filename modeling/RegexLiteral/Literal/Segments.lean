import RegexLiteral.Diagnostic
import RegexLiteral.Literal.Mode
import RegexLiteral.Pattern.Alphabet

/-!
# Segments of a literal

A literal is its mode, a delimiter, a pattern, for two of the modes a replacement, and flags, each
but the last closed by the delimiter. It is split by one scan of what follows the opening
delimiter. The scan stands in one of the segments: a delimiter leads it on, and anything else is
added to the segment at hand. A backslash and the character after it are passed together, so an
escaped delimiter closes nothing. Splitting never fails once there is a delimiter: what is missing
or left over is told by diagnostics.
-/
namespace RegexLiteral

/-- The parts of a literal before its flags are read. -/
structure Segments where
  mode : Mode
  delimiter : Char
  pattern : Text
  replacement : Text
  flags : Text
  /-- The byte of the literal at which the flags start. -/
  flagsOffset : Nat
  hasCaptures : Bool
  hasNamedCaptures : Bool
  deriving DecidableEq, Repr

namespace Segments

/-- Whether the text after a parenthesis makes the group a named one. -/
def opensNamed : Text → Bool
  | '?' :: 'P' :: '<' :: _ => true
  | '?' :: '<' :: '=' :: _ => false
  | '?' :: '<' :: '!' :: _ => false
  | '?' :: '<' :: _ => true
  | _ => false

/-- Whether the text after a parenthesis makes the group a capturing one. -/
def opensCapture : Text → Bool
  | '?' :: rest => opensNamed ('?' :: rest)
  | _ => true

end Segments

/-- The segment in which a scan stands. -/
inductive Segment where
  | pattern
  | replacement
  | flags
  deriving DecidableEq, Repr

/-- What a scan has read so far. -/
structure Scan where
  segment : Segment
  pattern : Array Char
  replacement : Array Char
  flags : Array Char
  flagsOffset : Nat
  hasCaptures : Bool
  hasNamedCaptures : Bool
  /-- Whether the last thing read is a delimiter. -/
  closed : Bool
  found : Array Diagnostic

namespace Scan

/-- Nothing read yet of a literal of so many bytes. The flags are taken to start at its end until
they are reached. -/
def new (size : Nat) : Scan := ⟨.pattern, #[], #[], #[], size, false, false, false, #[]⟩

/-- Adds characters to the segment at hand. -/
def add (s : Scan) (t : Text) : Scan :=
  match s.segment with
  | .pattern => { s with pattern := s.pattern ++ t, closed := false }
  | .replacement => { s with replacement := s.replacement ++ t, closed := false }
  | .flags => { s with flags := s.flags ++ t, closed := false }

/-- Goes on behind a delimiter, which stands at byte `pos` of the literal. In the flags it has no
place: it is reported and dropped. -/
def delimiter (s : Scan) (mode : Mode) (d : Char) (pos : Nat) : Scan :=
  match s.segment with
  | .flags => { s with found := s.found.push (.ofChar .delimiterAfterFlags pos d), closed := true }
  | .pattern =>
    if mode.hasReplacement then { s with segment := .replacement, closed := true }
    else { s with segment := .flags, flagsOffset := pos + d.utf8Size, closed := true }
  | .replacement =>
    { s with segment := .flags, flagsOffset := pos + d.utf8Size, closed := true }

/-- Whether an escaped character keeps its backslash. An escaped delimiter loses it in the pattern
if the engine would not take the two together, and always in the replacement, since templates know
no escapes. -/
def keepsBackslash (d : Char) : Segment → Char → Bool
  | .pattern, c => c ≠ d || Pattern.isEscapable c
  | .replacement, c => c ≠ d
  | .flags, _ => true

/-- Reads a backslash and the character after it. -/
def escape (s : Scan) (d c : Char) : Scan :=
  s.add (if keepsBackslash d s.segment c then ['\\', c] else [c])

/-- Takes note of the group that a parenthesis opens before a text. -/
def noteGroup (s : Scan) (rest : Text) : Scan :=
  { s with
    hasCaptures := s.hasCaptures || Segments.opensCapture rest
    hasNamedCaptures := s.hasNamedCaptures || Segments.opensNamed rest }

/-- Reads a character that is neither a delimiter nor a backslash. -/
def plain (s : Scan) (c : Char) (rest : Text) : Scan :=
  if s.segment = .pattern && c = '(' then (s.noteGroup rest).add [c] else s.add [c]

/-- Reads the rest of a literal, which starts at byte `pos`. -/
def run (mode : Mode) (d : Char) (s : Scan) (pos : Nat) : Text → Scan
  | [] => s
  | c :: rest =>
    if c = d then run mode d (s.delimiter mode d pos) (pos + c.utf8Size) rest
    else if c = '\\' then
      match rest with
      | [] => s.add ['\\']
      | e :: more => run mode d (s.escape d e) (pos + c.utf8Size + e.utf8Size) more
    else run mode d (s.plain c rest) (pos + c.utf8Size) rest

/-- Whether the literal ended too early. One whose last character is a delimiter counts as closed,
even if a segment is still to come. -/
def isUnterminated (s : Scan) : Bool := s.segment ≠ .flags && !s.closed

/-- The segments that have been read. -/
def segments (s : Scan) (mode : Mode) (d : Char) : Segments where
  mode := mode
  delimiter := d
  pattern := s.pattern.toList
  replacement := s.replacement.toList
  flags := s.flags.toList
  flagsOffset := s.flagsOffset
  hasCaptures := s.hasCaptures
  hasNamedCaptures := s.hasNamedCaptures

/-- The findings about a literal that was opened at byte `opened` and ends at byte `size`. -/
def diagnostics (s : Scan) (d : Char) (opened size : Nat) : Diagnostics :=
  s.found.toList ++
    if s.isUnterminated then [.of .unterminatedLiteral opened size (some d.toString)] else []

end Scan

/-- Splits a literal. There is nothing to split in an empty literal and in letters without a
delimiter. -/
def splitLiteral (source : Text) : Option Segments × Diagnostics :=
  if source.isEmpty then (none, [.of .emptyLiteral 0 0 none])
  else
    let opening := Opening.read source
    let opened := byteLength opening.letters
    match opening.rest with
    | [] => (none, [.of .missingDelimiter 0 opened none])
    | d :: body =>
      let size := byteLength source
      let s := Scan.run opening.mode d (.new size) (opened + d.utf8Size) body
      (some (s.segments opening.mode d), s.diagnostics d opened size)

end RegexLiteral
