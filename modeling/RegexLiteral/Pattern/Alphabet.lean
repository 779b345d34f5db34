import RegexLiteral.Text

/-!
# Characters with a meaning in patterns

A metacharacter means more than itself in a pattern. Escapable characters are those before which a
backslash makes a character stand for itself: all of ASCII but letters, digits and angle brackets,
whose escapes are or may become something else.
-/
namespace RegexLiteral.Pattern

/-- Whether the character can have a special meaning somewhere in a pattern. -/
def isMeta (c : Char) : Bool :=
  c ∈ ['\\', '.', '+', '*', '?', '(', ')', '|', '[', ']', '\x7b', '\x7d', '^', '$', '#', '&', '-',
    '~']

/-- Whether the character with a backslash before it stands for itself. -/
def isEscapable (c : Char) : Bool :=
  isMeta c || (c.toNat ≤ 0x7F && !c.isAlphanum && c ≠ '<' && c ≠ '>')

end RegexLiteral.Pattern
