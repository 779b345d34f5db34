import RegexLiteral.Text

/-!
# Diagnostics

What is odd about a literal is told by diagnostics. Each has a kind, which fixes its severity, its
hint and the frame of its message, and a range of bytes of the literal. Errors are held back by the
strict reading of literals; warnings are not. A fatal kind leaves nothing to read.
-/
namespace RegexLiteral

/-- How grave a diagnostic is. -/
inductive Severity where
  | error
  | warning
  deriving DecidableEq, Repr

def Severity.name : Severity → String
  | .error => "error"
  | .warning => "warning"

/-- What a diagnostic is about, the most pressing first. -/
inductive DiagnosticKind where
  | emptyLiteral
  | missingDelimiter
  | unterminatedLiteral
  | delimiterAfterFlags
  | unknownFlag
  deriving DecidableEq, Repr

namespace DiagnosticKind

/-- The place of a kind in the order of priority. -/
def rank : DiagnosticKind → Nat
  | emptyLiteral => 0
  | missingDelimiter => 1
  | unterminatedLiteral => 2
  | delimiterAfterFlags => 3
  | unknownFlag => 4

def severity : DiagnosticKind → Severity
  | unknownFlag => .warning
  | _ => .error

/-- Whether the kind leaves nothing to read. -/
def isFatal : DiagnosticKind → Bool
  | emptyLiteral => true
  | missingDelimiter => true
  | _ => false

/-- Advice shown behind the message. -/
def hint : DiagnosticKind → Option String
  | missingDelimiter => some "e.g., `m/pattern/` or `s!from!to!g`"
  | delimiterAfterFlags => some "escape the delimiter inside segments with `\\`"
  | unknownFlag => some "recognized flags are `g`, `i`, `m`, `s` and `x`"
  | _ => none

/-- The message where nothing more is known. -/
def plainMessage : DiagnosticKind → String
  | emptyLiteral => "empty literal"
  | missingDelimiter => "expected a delimiter"
  | unterminatedLiteral => "missing closing delimiter"
  | delimiterAfterFlags => "delimiter after flags"
  | unknownFlag => "unknown flag ignored"

/-- What stands before and after the detail in a message that names one. -/
def frame : DiagnosticKind → String × String
  | unterminatedLiteral => ("missing closing `", "`")
  | delimiterAfterFlags => ("delimiter `", "` after flags")
  | unknownFlag => ("unknown flag `", "` ignored")
  | kind => (kind.plainMessage ++ ": ", "")

/-- The message of a kind, with the detail it names if there is one. -/
def message (kind : DiagnosticKind) : Option String → String
  | none => kind.plainMessage
  | some detail => kind.frame.1 ++ detail ++ kind.frame.2

/-- The kinds of a list by priority; equal kinds keep their order. -/
def sorted (kinds : List DiagnosticKind) : List DiagnosticKind :=
  kinds.mergeSort fun a b => a.rank ≤ b.rank

end DiagnosticKind

/-- A finding about the bytes from `start` to `stop` of a literal. -/
structure Diagnostic where
  kind : DiagnosticKind
  start : Nat
  stop : Nat
  message : String
  deriving DecidableEq, Repr

namespace Diagnostic

/-- A diagnostic whose message is that of its kind. -/
def of (kind : DiagnosticKind) (start stop : Nat) (detail : Option String) : Diagnostic :=
  ⟨kind, start, stop, kind.message detail⟩

/-- A diagnostic about one character that starts at byte `start`, which its message names. -/
def ofChar (kind : DiagnosticKind) (start : Nat) (c : Char) : Diagnostic :=
  of kind start (start + c.utf8Size) (some c.toString)

def severity (d : Diagnostic) : Severity := d.kind.severity

def isError (d : Diagnostic) : Bool := d.severity = .error

def isWarning (d : Diagnostic) : Bool := d.severity = .warning

/-- One line: severity, range, message and hint. -/
def line (d : Diagnostic) : String :=
  d.severity.name ++ " at " ++ toString d.start ++ ".." ++ toString d.stop ++ ": " ++ d.message ++
    match d.kind.hint with
    | none => ""
    | some hint => " (hint: " ++ hint ++ ")"

end Diagnostic

/-- Findings in the order in which they were made. -/
abbrev Diagnostics := List Diagnostic

namespace Diagnostics

def hasErrors (ds : Diagnostics) : Bool := ds.any Diagnostic.isError

/-- Whether a finding leaves nothing to read. -/
def hasFatal (ds : Diagnostics) : Bool := ds.any fun d => d.kind.isFatal

def kinds (ds : Diagnostics) : List DiagnosticKind := ds.map Diagnostic.kind

/-- All findings on one line. -/
def line (ds : Diagnostics) : String := "; ".intercalate (ds.map Diagnostic.line)

end Diagnostics
end RegexLiteral
