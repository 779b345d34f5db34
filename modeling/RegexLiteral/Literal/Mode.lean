import RegexLiteral.Text

/-!
# Modes

The letters before the delimiter say what a literal is for.
-/
namespace RegexLiteral

/-- What a literal is for. -/
inductive Mode where
  | matching
  | substitution
  | transliteration
  deriving DecidableEq, Repr

namespace Mode

def name : Mode → String
  | matching => "match"
  | substitution => "substitute"
  | transliteration => "transliterate"

/-- Whether a second segment stands between pattern and flags. -/
def hasReplacement : Mode → Bool
  | matching => false
  | _ => true

end Mode

/-- The start of a literal: its mode, the letters that say so, and what follows them. -/
structure Opening where
  mode : Mode
  letters : Text
  rest : Text
  deriving DecidableEq, Repr

/-- Reads the mode. A literal that starts with none of `m`, `s`, `t` and `tr` is a match without
letters, whose first character is the delimiter. -/
def Opening.read : Text → Opening
  | 'm' :: rest => ⟨.matching, ['m'], rest⟩
  | 's' :: rest => ⟨.substitution, ['s'], rest⟩
  | 't' :: 'r' :: rest => ⟨.transliteration, ['t', 'r'], rest⟩
  | 't' :: rest => ⟨.transliteration, ['t'], rest⟩
  | rest => ⟨.matching, [], rest⟩

end RegexLiteral
