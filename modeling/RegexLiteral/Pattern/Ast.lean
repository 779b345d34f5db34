import RegexLiteral.Pattern.Fault

/-!
# Patterns as they are written

The tree of a pattern keeps what was written, with the spans by which faults are shown. It does not
say what the parts match: flags have not been applied and names of properties not looked up.
-/
namespace RegexLiteral.Pattern

/-- A flag of the pattern language. -/
inductive Flag where
  | caseInsensitive
  | multiLine
  | dotMatchesNewLine
  | swapGreed
  | unicode
  | crlf
  | ignoreWhitespace
  deriving DecidableEq, Repr

/-- A part of a row of flags. -/
inductive FlagItem where
  /-- A hyphen: the flags after it are turned off. -/
  | negation
  | flag (f : Flag)
  deriving DecidableEq, Repr

/-- What a row of flags says about a flag, if it names it. -/
def flagState? (f : Flag) : List FlagItem → Option Bool
  | [] => none
  | .negation :: rest => (flagState? f rest).map fun _ => false
  | .flag g :: rest => if g = f then some true else flagState? f rest

/-- A character that stands for itself. -/
structure Literal where
  span : Span
  char : Char
  /-- Whether it was written as two hexadecimal digits, which can mean a byte. -/
  isByte : Bool
  deriving DecidableEq, Repr

/-- A condition on a place between characters. -/
inductive AssertionKind where
  | startLine
  | endLine
  | startText
  | endText
  | wordBoundary
  | notWordBoundary
  | wordStart
  | wordEnd
  | wordStartHalf
  | wordEndHalf
  deriving DecidableEq, Repr

/-- The classes with a one-letter escape. -/
inductive Shorthand where
  | digit
  | space
  | word
  deriving DecidableEq, Repr

/-- The classes written `[:name:]` in brackets. -/
inductive AsciiClass where
  | alnum
  | alpha
  | ascii
  | blank
  | cntrl
  | digit
  | graph
  | lower
  | print
  | punct
  | space
  | upper
  | word
  | xdigit
  deriving DecidableEq, Repr

/-- How a class of a property names it. -/
inductive PropertyQuery where
  | letter (c : Char)
  | name (name : Text)
  | value (name value : Text) (negated : Bool)
  deriving DecidableEq, Repr

/-- A class of the characters that have a property. -/
structure PropertyClass where
  span : Span
  negated : Bool
  query : PropertyQuery
  deriving DecidableEq, Repr

/-- The operators between classes. -/
inductive ClassOp where
  | intersection
  | difference
  | symmetricDifference
  deriving DecidableEq, Repr

/-- What stands in brackets. -/
inductive ClassTree where
  | empty (span : Span)
  | literal (l : Literal)
  | range (span : Span) (low high : Literal)
  | ascii (span : Span) (kind : AsciiClass) (negated : Bool)
  | property (p : PropertyClass)
  | shorthand (span : Span) (kind : Shorthand) (negated : Bool)
  | bracketed (span : Span) (negated : Bool) (body : ClassTree)
  | union (span : Span) (items : List ClassTree)
  | binary (span : Span) (op : ClassOp) (left right : ClassTree)
  deriving Repr

def ClassTree.span : ClassTree → Span
  | empty s => s
  | literal l => l.span
  | range s _ _ => s
  | ascii s _ _ => s
  | property p => p.span
  | shorthand s _ _ => s
  | bracketed s _ _ => s
  | union s _ => s
  | binary s _ _ _ => s

/-- What a group does with its content. -/
inductive GroupKind where
  | capture (index : Nat) (name : Option Text)
  | plain (flags : List FlagItem)
  deriving DecidableEq, Repr

/-- A pattern. -/
inductive Ast where
  | empty (span : Span)
  /-- Flags that hold from here to the end of the group. -/
  | flags (span : Span) (items : List FlagItem)
  | literal (l : Literal)
  | dot (span : Span)
  | assertion (span : Span) (kind : AssertionKind)
  | property (p : PropertyClass)
  | shorthand (span : Span) (kind : Shorthand) (negated : Bool)
  | bracketed (span : Span) (negated : Bool) (body : ClassTree)
  | repetition (span : Span) (min : Nat) (max : Option Nat) (greedy : Bool) (body : Ast)
  | group (span : Span) (kind : GroupKind) (body : Ast)
  | alternation (span : Span) (branches : List Ast)
  | concat (span : Span) (items : List Ast)
  deriving Repr

def Ast.span : Ast → Span
  | empty s => s
  | flags s _ => s
  | literal l => l.span
  | dot s => s
  | assertion s _ => s
  | property p => p.span
  | shorthand s _ _ => s
  | bracketed s _ _ => s
  | repetition s _ _ _ _ => s
  | group s _ _ => s
  | alternation s _ => s
  | concat s _ => s

end RegexLiteral.Pattern
