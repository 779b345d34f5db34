import RegexLiteral.Literal.Flags
import RegexLiteral.Literal.Mode
import RegexLiteral.Outcome

/-!
# Results as JSON text

The compact JSON text of modes, flags and outcomes. A text is quoted; quotation marks, backslashes
and control characters in it are escaped and all else is written as it is.
-/
namespace RegexLiteral.JsonText

/-- A hexadecimal digit in lower case. -/
def hexDigit (n : Nat) : Char := Nat.digitChar (n % 16)

/-- A character as it is written in quotes. -/
def escapeChar (c : Char) : Text :=
  if c = '"' then ['\\', '"']
  else if c = '\\' then ['\\', '\\']
  else if c = '\x08' then ['\\', 'b']
  else if c = '\x0c' then ['\\', 'f']
  else if c = '\n' then ['\\', 'n']
  else if c = '\r' then ['\\', 'r']
  else if c = '\t' then ['\\', 't']
  else if c.toNat < 0x20 then ['\\', 'u', '0', '0', hexDigit (c.toNat / 16), hexDigit c.toNat]
  else [c]

/-- A quoted text. -/
def quote (t : Text) : Text := '"' :: t.flatMap escapeChar ++ ['"']

/-- Values with commas between them. -/
def commas (values : List Text) : Text := [','].intercalate values

def array (values : List Text) : Text := '[' :: commas values ++ [']']

/-- An object with its members in order. -/
def object (members : List (Text × Text)) : Text :=
  '\x7b' :: commas (members.map fun p => quote p.1 ++ [':'] ++ p.2) ++ ['\x7d']

def bool (b : Bool) : Text := (if b then "true" else "false").toList

def nat (n : Nat) : Text := (toString n).toList

/-- A value or `null`. -/
def optional {α : Type} (write : α → Text) : Option α → Text
  | none => "null".toList
  | some a => write a

def ofMode (mode : Mode) : Text := quote mode.name.toList

def ofFlags (f : Flags) : Text :=
  object [("global".toList, bool f.global), ("ignore_case".toList, bool f.ignoreCase),
    ("multi_line".toList, bool f.multiLine),
    ("dot_matches_new_line".toList, bool f.dotMatchesNewLine),
    ("extended".toList, bool f.extended)]

def ofOutcome (o : Outcome) : Text :=
  object [("match_count".toList, nat o.matchCount),
    ("groups".toList, optional (fun gs => array (gs.map quote)) o.groups),
    ("named".toList, optional (fun ps => object (ps.map fun p => (p.1, quote p.2))) o.named),
    ("substituted".toList, optional quote o.substituted)]

end RegexLiteral.JsonText
