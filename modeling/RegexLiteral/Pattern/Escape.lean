import RegexLiteral.Pattern.Alphabet
import RegexLiteral.Pattern.Ast
import RegexLiteral.Pattern.Cursor
import RegexLiteral.Unicode.RangeTable

/-!
# Reading escapes

A backslash starts a literal, a class or an assertion. The functions here read from the character
behind the backslash, whose own place is given as `start`. Each comes with the fact that it reads
onward.
-/
namespace RegexLiteral.Pattern
open RegexLiteral.Unicode (hexValue?)

/-- A part of a pattern that has no parts of its own. -/
inductive Primitive where
  | literal (l : Literal)
  | dot (span : Span)
  | assertion (span : Span) (kind : AssertionKind)
  | property (p : PropertyClass)
  | shorthand (span : Span) (kind : Shorthand) (negated : Bool)
  deriving DecidableEq, Repr

namespace Primitive

def span : Primitive → Span
  | literal l => l.span
  | dot s => s
  | assertion s _ => s
  | property p => p.span
  | shorthand s _ _ => s

def toAst : Primitive → Ast
  | literal l => .literal l
  | dot s => .dot s
  | assertion s k => .assertion s k
  | property p => .property p
  | shorthand s k n => .shorthand s k n

end Primitive

/-- The number that a row of digits writes in a base. -/
def numberOf (base : Nat) (digits : List Nat) : Nat := digits.foldl (fun n d => base * n + d) 0

/-- The character with a number, unless the number is a surrogate's or too high. -/
def charOf? (n : Nat) : Option Char := if n.isValidChar then some (Char.ofNat n) else none

/-- Reads a fixed count of hexadecimal digits. -/
def readHexDigits (v : Bool) : Nat → Cursor → Except Fault (List Nat × Cursor)
  | 0, c => .ok ([], c)
  | n + 1, c =>
    match c.rest with
    | [] => refuse .escapeUnexpectedEnd c.here
    | x :: _ =>
      match hexValue? x with
      | none => refuse .escapeHexInvalidDigit c.char
      | some d => do
        let (ds, e) ← readHexDigits v n (c.next v)
        .ok (d :: ds, e)

/-- Reads hexadecimal digits up to a closing brace or the end of the pattern. -/
def readHexUntilBrace (v : Bool) (c : Cursor) : Except Fault (List Nat × Cursor) :=
  match _h : c.rest with
  | [] => .ok ([], c)
  | x :: _ =>
    if x = '\x7d' then .ok ([], c)
    else
      match hexValue? x with
      | none => refuse .escapeHexInvalidDigit c.char
      | some d => do
        let (ds, e) ← readHexUntilBrace v (c.next v)
        .ok (d :: ds, e)
termination_by c.left
decreasing_by exact Cursor.next_left_lt v _h

/-- Reads a character given by its number; `c` stands on the letter that says so. -/
def readHex (v : Bool) (start digits : Nat) (isByte : Bool) (c : Cursor) :
    Except Fault (Primitive × Cursor) :=
  let d := c.next v
  match d.rest with
  | [] => refuse .escapeUnexpectedEnd d.here
  | '\x7b' :: _ => do
    let (ds, e) ← readHexUntilBrace v (d.next v)
    let f := e.next v
    if e.rest.isEmpty then refuse .escapeUnexpectedEnd (d.spanTo e)
    else if ds.isEmpty then refuse .escapeHexEmpty (d.spanTo f)
    else match charOf? (numberOf 16 ds) with
      | none => refuse .escapeHexInvalid ⟨d.pos + 1, e.pos⟩
      | some x => .ok (.literal ⟨⟨start, f.pos⟩, x, false⟩, f)
  | _ => do
    let (ds, e) ← readHexDigits v digits d
    match charOf? (numberOf 16 ds) with
    | none => refuse .escapeHexInvalid (d.spanTo e)
    | some x => .ok (.literal ⟨⟨start, e.pos⟩, x, isByte⟩, e)

/-- Reads up to a closing brace or the end of the pattern. -/
def readUntilBrace (v : Bool) (c : Cursor) : Text × Cursor :=
  match _h : c.rest with
  | [] => ([], c)
  | x :: _ =>
    if x = '\x7d' then ([], c)
    else
      let (name, e) := readUntilBrace v (c.next v)
      (x :: name, e)
termination_by c.left
decreasing_by exact Cursor.next_left_lt v _h

/-- What stands before and after the first occurrence of a separator. -/
def cutAt? (separator : Text) : Text → Option (Text × Text)
  | [] => none
  | c :: rest =>
    if separator.isPrefixOf (c :: rest) then some ([], (c :: rest).drop separator.length)
    else (cutAt? separator rest).map fun p => (c :: p.1, p.2)

/-- How the text in the braces names a property. -/
def propertyQuery (name : Text) : PropertyQuery :=
  match cutAt? ['!', '='] name, cutAt? [':'] name, cutAt? ['='] name with
  | some (n, x), _, _ => .value n x true
  | none, some (n, x), _ => .value n x false
  | none, none, some (n, x) => .value n x false
  | none, none, none => .name name

/-- Reads the class of a property; `c` stands on the `p`. -/
def readProperty (v : Bool) (start : Nat) (negated : Bool) (c : Cursor) :
    Except Fault (Primitive × Cursor) :=
  let d := c.next v
  match d.rest with
  | [] => refuse .escapeUnexpectedEnd d.here
  | x :: _ =>
    if x = '\x7b' then
      let (name, e) := readUntilBrace v (d.next v)
      if e.rest.isEmpty then refuse .escapeUnexpectedEnd e.here
      else .ok (.property ⟨⟨start, e.bump.pos⟩, negated, propertyQuery name⟩, e.bump)
    else if x = '\\' then refuse .unicodeClassInvalid d.char
    else
      let e := d.next v
      .ok (.property ⟨⟨start, e.pos⟩, negated, .letter x⟩, e)

/-- Whether the character may stand in the name of a word boundary. -/
def isBoundaryChar (c : Char) : Bool := c.isAlpha || c = '-'

/-- Reads the name of a word boundary. -/
def readBoundaryName (v : Bool) (c : Cursor) : Text × Cursor :=
  match _h : c.rest with
  | [] => ([], c)
  | x :: _ =>
    if isBoundaryChar x then
      let (name, e) := readBoundaryName v (c.next v)
      (x :: name, e)
    else ([], c)
termination_by c.left
decreasing_by exact Cursor.next_left_lt v _h

/-- The boundary that a name in braces stands for. -/
def boundaryNamed? (name : Text) : Option AssertionKind :=
  if name = "start".toList then some .wordStart
  else if name = "end".toList then some .wordEnd
  else if name = "start-half".toList then some .wordStartHalf
  else if name = "end-half".toList then some .wordEndHalf
  else none

/-- Reads the rest of a word boundary; `c` stands behind the `b`. A brace that does not start a
name is left to be read as a repetition. -/
def readBoundary (v : Bool) (start : Nat) (c : Cursor) : Except Fault (Primitive × Cursor) :=
  let plain : Primitive := .assertion ⟨start, c.pos⟩ .wordBoundary
  match c.rest with
  | '\x7b' :: _ =>
    let d := c.next v
    match d.rest with
    | [] => refuse .wordBoundaryUnexpectedEnd ⟨start, d.pos⟩
    | x :: _ =>
      if isBoundaryChar x then
        let (name, e) := readBoundaryName v d
        match e.rest with
        | '\x7d' :: _ =>
          match boundaryNamed? name with
          | none => refuse .wordBoundaryUnrecognized (d.spanTo e)
          | some kind => .ok (.assertion ⟨start, e.bump.pos⟩ kind, e.bump)
        | _ => refuse .wordBoundaryUnclosed (c.spanTo e)
      else .ok (plain, c)
  | _ => .ok (plain, c)

/-- The control character that a letter stands for. -/
def controlEscape? (c : Char) : Option Char :=
  match c with
  | 'a' => some '\x07'
  | 'f' => some '\x0c'
  | 't' => some '\t'
  | 'n' => some '\n'
  | 'r' => some '\r'
  | 'v' => some '\x0b'
  | _ => none

/-- The assertion that a letter stands for, the plain word boundary apart. -/
def assertionEscape? (c : Char) : Option AssertionKind :=
  match c with
  | 'A' => some .startText
  | 'z' => some .endText
  | 'B' => some .notWordBoundary
  | '<' => some .wordStart
  | '>' => some .wordEnd
  | _ => none

/-- The class that a letter stands for, and whether it is negated. -/
def shorthandEscape? (c : Char) : Option (Shorthand × Bool) :=
  match c with
  | 'd' => some (.digit, false)
  | 's' => some (.space, false)
  | 'w' => some (.word, false)
  | 'D' => some (.digit, true)
  | 'S' => some (.space, true)
  | 'W' => some (.word, true)
  | _ => none

/-- The number of digits behind a letter that starts a hexadecimal escape. -/
def hexEscape? (c : Char) : Option Nat :=
  match c with
  | 'x' => some 2
  | 'u' => some 4
  | 'U' => some 8
  | _ => none

/-- Reads an escape; `c` stands behind the backslash. -/
def readEscape (v : Bool) (start : Nat) (c : Cursor) : Except Fault (Primitive × Cursor) :=
  match c.rest with
  | [] => refuse .escapeUnexpectedEnd ⟨start, c.pos⟩
  | x :: _ =>
    let d := c.bump
    let span : Span := ⟨start, d.pos⟩
    if x.isDigit then refuse .backreference span
    else if x = 'p' || x = 'P' then readProperty v start (x = 'P') c
    else if x = 'b' then readBoundary v start d
    else if isEscapable x then .ok (.literal ⟨span, x, false⟩, d)
    else
      match hexEscape? x, shorthandEscape? x, controlEscape? x, assertionEscape? x with
      | some n, _, _, _ => readHex v start n (x = 'x') c
      | none, some (kind, negated), _, _ => .ok (.shorthand span kind negated, d)
      | none, none, some y, _ => .ok (.literal ⟨span, y, false⟩, d)
      | none, none, none, some kind => .ok (.assertion span kind, d)
      | none, none, none, none => refuse .escapeUnrecognized span

/-- Reads a primitive that is no escape; `x` is the character it consists of. -/
def plainPrimitive (pos : Nat) (x : Char) : Primitive :=
  let span : Span := ⟨pos, pos + 1⟩
  match x with
  | '.' => .dot span
  | '^' => .assertion span .startLine
  | '$' => .assertion span .endLine
  | _ => .literal ⟨span, x, false⟩

theorem readHexDigits_onward (v : Bool) (n : Nat) (c : Cursor) :
    Onward c (readHexDigits v n c) := by
  induction n generalizing c with
  | zero => exact .ok _ (Nat.le_refl _)
  | succ n ih =>
    unfold readHexDigits
    split
    · exact .refuse _ _ _
    · split
      · exact .refuse _ _ _
      · refine .bind (fun a d h => Nat.le_trans (ih _ a d h) (Cursor.next_left v c)) ?_
        intro a d h
        exact .ok _ h

theorem readHexUntilBrace_onward (v : Bool) (c : Cursor) : Onward c (readHexUntilBrace v c) := by
  fun_induction readHexUntilBrace v c with
  | case1 => exact .ok _ (Nat.le_refl _)
  | case2 => exact .ok _ (Nat.le_refl _)
  | case3 => exact .refuse _ _ _
  | case4 c _ _ h _ _ _ ih =>
    refine .bind (fun a d h => Nat.le_trans (ih a d h) (Cursor.next_left v c)) ?_
    intro a d h
    exact .ok _ h

theorem readHex_onward (v : Bool) (start digits : Nat) (isByte : Bool) (c : Cursor) :
    Onward c (readHex v start digits isByte c) := by
  have hc := Cursor.next_left v c
  unfold readHex
  dsimp only
  split
  · exact .refuse _ _ _
  · have hd := Cursor.next_left v (c.next v)
    refine .bind (fun a d h => ?_) ?_
    · have := readHexUntilBrace_onward v _ a d h
      omega
    · intro a d h
      split
      · exact .refuse _ _ _
      · split
        · exact .refuse _ _ _
        · split
          · exact .refuse _ _ _
          · exact .ok _ (Nat.le_trans (Cursor.next_left v d) h)
  · refine .bind (fun a d h => Nat.le_trans (readHexDigits_onward v _ _ a d h) hc) ?_
    intro a d h
    split
    · exact .refuse _ _ _
    · exact .ok _ h

theorem readUntilBrace_left (v : Bool) (c : Cursor) : (readUntilBrace v c).2.left ≤ c.left := by
  fun_induction readUntilBrace v c with
  | case1 => exact Nat.le_refl _
  | case2 => exact Nat.le_refl _
  | case3 c x r h hx name e he ih =>
    rw [he] at ih
    exact Nat.le_trans ih (Cursor.next_left v c)

theorem readProperty_onward (v : Bool) (start : Nat) (negated : Bool) (c : Cursor) :
    Onward c (readProperty v start negated c) := by
  have hc := Cursor.next_left v c
  have hd := Cursor.next_left v (c.next v)
  have he := readUntilBrace_left v ((c.next v).next v)
  have hb := Cursor.bump_left (readUntilBrace v ((c.next v).next v)).2
  unfold readProperty
  dsimp only
  split
  · exact .refuse _ _ _
  · split
    · split
      · exact .refuse _ _ _
      · exact .ok _ (by omega)
    · split
      · exact .refuse _ _ _
      · exact .ok _ (by omega)

theorem readBoundaryName_left (v : Bool) (c : Cursor) :
    (readBoundaryName v c).2.left ≤ c.left := by
  fun_induction readBoundaryName v c with
  | case1 => exact Nat.le_refl _
  | case2 c x r h hx name e he ih =>
    rw [he] at ih
    exact Nat.le_trans ih (Cursor.next_left v c)
  | case3 => exact Nat.le_refl _

theorem readBoundary_onward (v : Bool) (start : Nat) (c : Cursor) :
    Onward c (readBoundary v start c) := by
  have hc := Cursor.next_left v c
  have he := readBoundaryName_left v (c.next v)
  have hb := Cursor.bump_left (readBoundaryName v (c.next v)).2
  unfold readBoundary
  dsimp only
  split
  · split
    · exact .refuse _ _ _
    · split
      · split
        · split
          · exact .refuse _ _ _
          · exact .ok _ (by omega)
        · exact .refuse _ _ _
      · exact .ok _ (Nat.le_refl _)
  · exact .ok _ (Nat.le_refl _)

theorem readEscape_onward (v : Bool) (start : Nat) (c : Cursor) :
    Onward c (readEscape v start c) := by
  have hb := Cursor.bump_left c
  unfold readEscape
  dsimp only
  split
  · exact .refuse _ _ _
  · split
    · exact .refuse _ _ _
    · split
      · exact readProperty_onward v _ _ c
      · split
        · exact fun a d h => Nat.le_trans (readBoundary_onward v start _ a d h) hb
        · split
          · exact .ok _ hb
          · split
            · exact readHex_onward v _ _ _ c
            · exact .ok _ hb
            · exact .ok _ hb
            · exact .ok _ hb
            · exact .refuse _ _ _

end RegexLiteral.Pattern
