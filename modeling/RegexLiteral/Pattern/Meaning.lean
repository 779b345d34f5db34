import RegexLiteral.Pattern.Ast
import RegexLiteral.Pattern.Cursor
import RegexLiteral.Pattern.Expr
import RegexLiteral.Unicode.CaseFold
import RegexLiteral.Unicode.Property

/-!
# The meaning of patterns

`Ast.meaning` turns a pattern as it is written into an expression. The settings, which flags in the
pattern change, run along from left to right; a group puts them back at its end. Without the
`unicode` setting classes are made of ASCII alone and nothing may match a part of a character.
-/
namespace RegexLiteral.Pattern

/-- The state of the flags at a place in a pattern. -/
structure Settings where
  caseInsensitive : Bool := false
  multiLine : Bool := false
  dotMatchesNewLine : Bool := false
  swapGreed : Bool := false
  unicode : Bool := true
  crlf : Bool := false
  deriving DecidableEq, Repr

/-- The settings with what a row of flags says. -/
def Settings.with (s : Settings) (items : List FlagItem) : Settings where
  caseInsensitive := (flagState? .caseInsensitive items).getD s.caseInsensitive
  multiLine := (flagState? .multiLine items).getD s.multiLine
  dotMatchesNewLine := (flagState? .dotMatchesNewLine items).getD s.dotMatchesNewLine
  swapGreed := (flagState? .swapGreed items).getD s.swapGreed
  unicode := (flagState? .unicode items).getD s.unicode
  crlf := (flagState? .crlf items).getD s.crlf

/-- The characters of a class of ASCII. -/
def AsciiClass.charSet : AsciiClass → CharSet
  | alnum => ⟨[⟨0x30, 0x39⟩, ⟨0x41, 0x5A⟩, ⟨0x61, 0x7A⟩]⟩
  | alpha => ⟨[⟨0x41, 0x5A⟩, ⟨0x61, 0x7A⟩]⟩
  | ascii => ⟨[⟨0, 0x7F⟩]⟩
  | blank => ⟨[⟨0x09, 0x09⟩, ⟨0x20, 0x20⟩]⟩
  | cntrl => ⟨[⟨0, 0x1F⟩, ⟨0x7F, 0x7F⟩]⟩
  | digit => ⟨[⟨0x30, 0x39⟩]⟩
  | graph => ⟨[⟨0x21, 0x7E⟩]⟩
  | lower => ⟨[⟨0x61, 0x7A⟩]⟩
  | print => ⟨[⟨0x20, 0x7E⟩]⟩
  | punct => ⟨[⟨0x21, 0x2F⟩, ⟨0x3A, 0x40⟩, ⟨0x5B, 0x60⟩, ⟨0x7B, 0x7E⟩]⟩
  | space => ⟨[⟨0x09, 0x0D⟩, ⟨0x20, 0x20⟩]⟩
  | upper => ⟨[⟨0x41, 0x5A⟩]⟩
  | word => ⟨[⟨0x30, 0x39⟩, ⟨0x41, 0x5A⟩, ⟨0x5F, 0x5F⟩, ⟨0x61, 0x7A⟩]⟩
  | xdigit => ⟨[⟨0x30, 0x39⟩, ⟨0x41, 0x46⟩, ⟨0x61, 0x66⟩]⟩

/-- The characters of a one-letter class. -/
def Shorthand.charSet (unicode : Bool) : Shorthand → CharSet
  | digit => if unicode then Unicode.digits else AsciiClass.digit.charSet
  | space => if unicode then Unicode.spaces else AsciiClass.space.charSet
  | word => if unicode then Unicode.wordChars else AsciiClass.word.charSet

namespace Settings

/-- Adds to a set what differs in case only, if the settings say so. -/
def foldCase (s : Settings) (cs : CharSet) : CharSet :=
  if !s.caseInsensitive then cs
  else if s.unicode then cs.foldCase
  else cs.foldAsciiCase

/-- The complement of a set, if it is asked for. It holds more than ASCII. -/
def negate (s : Settings) (span : Span) (negated : Bool) (cs : CharSet) : Except Fault CharSet :=
  if !negated then .ok cs
  else if s.unicode then .ok cs.complement
  else refuse .invalidUtf8 span

/-- The character of a literal. A byte that is no character by itself is refused. -/
def literalChar (s : Settings) (l : Literal) : Except Fault Char :=
  if !s.unicode && l.isByte && l.char.toNat > 0x7F then refuse .invalidUtf8 l.span
  else .ok l.char

/-- The character of a literal in a class. -/
def memberChar (s : Settings) (l : Literal) : Except Fault Char := do
  let c ← s.literalChar l
  if !s.unicode && c.toNat > 0x7F then refuse .unicodeNotAllowed l.span
  else .ok c

/-- The characters that have a property. -/
def propertySet (s : Settings) (p : PropertyClass) : Except Fault CharSet := do
  if !s.unicode then refuse .unicodeNotAllowed p.span
  else
    let (found, negated) :=
      match p.query with
      | .letter c => (Unicode.classNamed [c], p.negated)
      | .name name => (Unicode.classNamed name, p.negated)
      | .value name value negated => (Unicode.classValued name value, p.negated != negated)
    match found with
    | .error .unknownProperty => refuse .propertyNotFound p.span
    | .error .unknownValue => refuse .propertyValueNotFound p.span
    | .ok cs => s.negate p.span negated (s.foldCase cs)

/-- The characters of a one-letter class, which is closed under case already. -/
def shorthandSet (s : Settings) (span : Span) (kind : Shorthand) (negated : Bool) :
    Except Fault CharSet := s.negate span negated (kind.charSet s.unicode)

end Settings

def ClassOp.apply : ClassOp → CharSet → CharSet → CharSet
  | intersection => CharSet.inter
  | difference => CharSet.diff
  | symmetricDifference => CharSet.symmDiff

mutual

/-- The characters of a class. -/
def ClassTree.charSet (s : Settings) : ClassTree → Except Fault CharSet
  | .empty _ => .ok .empty
  | .literal l => do
    let c ← s.memberChar l
    .ok (.singleton c)
  | .range _ low high => do
    let a ← s.memberChar low
    let b ← s.memberChar high
    .ok ⟨[⟨a.toNat, b.toNat⟩]⟩
  | .ascii span kind negated => s.negate span negated (s.foldCase kind.charSet)
  | .property p => s.propertySet p
  | .shorthand span kind negated => s.shorthandSet span kind negated
  | .bracketed span negated body => do
    let cs ← body.charSet s
    s.negate span negated (s.foldCase cs)
  | .union _ items => do
    let sets ← ClassTree.charSets s items
    .ok (.ofRanges (sets.flatMap CharSet.ranges))
  | .binary _ op left right => do
    let a ← left.charSet s
    let b ← right.charSet s
    .ok (op.apply (s.foldCase a) (s.foldCase b))

def ClassTree.charSets (s : Settings) : List ClassTree → Except Fault (List CharSet)
  | [] => .ok []
  | t :: ts => do
    let cs ← t.charSet s
    let rest ← ClassTree.charSets s ts
    .ok (cs :: rest)

end

namespace Settings

/-- What a literal matches. -/
def literalExpr (s : Settings) (l : Literal) : Except Fault Expr := do
  let c ← s.literalChar l
  if !s.caseInsensitive then .ok (.text [c])
  else if s.unicode then
    .ok (if Unicode.hasCase c then .ofSet (CharSet.singleton c).foldCase else .text [c])
  else .ok (if c.isAlpha then .ofSet (CharSet.singleton c).foldAsciiCase else .text [c])

/-- What a dot matches. -/
def dotExpr (s : Settings) (span : Span) : Except Fault Expr :=
  if !s.unicode then refuse .invalidUtf8 span
  else if s.dotMatchesNewLine then .ok (.set .full)
  else if s.crlf then .ok (.set (CharSet.complement ⟨[⟨0x0A, 0x0A⟩, ⟨0x0D, 0x0D⟩]⟩))
  else .ok (.set (CharSet.complement ⟨[⟨0x0A, 0x0A⟩]⟩))

/-- The condition that an assertion sets. -/
def look (s : Settings) : AssertionKind → Look
  | .startLine => if s.multiLine then .lineStart s.crlf else .textStart
  | .endLine => if s.multiLine then .lineEnd s.crlf else .textEnd
  | .startText => .textStart
  | .endText => .textEnd
  | .wordBoundary => .word s.unicode .boundary
  | .notWordBoundary => .word s.unicode .notBoundary
  | .wordStart => .word s.unicode .start
  | .wordEnd => .word s.unicode .stop
  | .wordStartHalf => .word s.unicode .startHalf
  | .wordEndHalf => .word s.unicode .stopHalf

end Settings

mutual

/-- What a pattern matches under the settings, and the settings behind it. -/
def Ast.meaning (s : Settings) : Ast → Except Fault (Expr × Settings)
  | .empty _ => .ok (.empty, s)
  | .flags _ items => .ok (.empty, s.with items)
  | .literal l => do
    let e ← s.literalExpr l
    .ok (e, s)
  | .dot span => do
    let e ← s.dotExpr span
    .ok (e, s)
  | .assertion _ kind => .ok (.look (s.look kind), s)
  | .property p => do
    let cs ← s.propertySet p
    .ok (.ofSet cs, s)
  | .shorthand span kind negated => do
    let cs ← s.shorthandSet span kind negated
    .ok (.ofSet cs, s)
  | .bracketed span negated body => do
    let cs ← body.charSet s
    let cs ← s.negate span negated (s.foldCase cs)
    .ok (.ofSet cs, s)
  | .repetition _ min max greedy body => do
    let (e, s) ← body.meaning s
    .ok (.repeated min max (greedy != s.swapGreed) e, s)
  | .group _ (.capture index name) body => do
    let (e, _) ← body.meaning s
    .ok (.capture index name e, s)
  | .group _ (.plain items) body => do
    let (e, _) ← body.meaning (s.with items)
    .ok (e, s)
  | .alternation _ branches => do
    let (es, s) ← Ast.meanings s branches
    .ok (.anyOf es, s)
  | .concat _ items => do
    let (es, s) ← Ast.meanings s items
    .ok (.inSequence es, s)

def Ast.meanings (s : Settings) : List Ast → Except Fault (List Expr × Settings)
  | [] => .ok ([], s)
  | a :: as => do
    let (e, s) ← a.meaning s
    let (es, s) ← Ast.meanings s as
    .ok (e :: es, s)

end

end RegexLiteral.Pattern
