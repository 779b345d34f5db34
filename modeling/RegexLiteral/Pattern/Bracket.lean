import RegexLiteral.Pattern.Escape

/-!
# Reading bracketed classes

A bracketed class holds characters, ranges, other classes and operators between these. Classes may
be nested; those that are open around the one being read wait in a list, innermost first.
-/
namespace RegexLiteral.Pattern

/-- The members of a class since the last operator, last one first. -/
structure Members where
  span : Span
  items : List ClassTree

namespace Members

def none (c : Cursor) : Members := ⟨c.here, []⟩

def add (m : Members) (t : ClassTree) : Members :=
  ⟨⟨if m.items.isEmpty then t.span.start else m.span.start, t.span.stop⟩, t :: m.items⟩

def tree (m : Members) : ClassTree :=
  match m.items with
  | [] => .empty m.span
  | [t] => t
  | ts => .union m.span ts.reverse

end Members

/-- A class whose closing bracket has not been read. -/
structure OpenClass where
  /-- What has been read of it by the time it was open. -/
  span : Span
  negated : Bool
  /-- An operator that waits for its right side. -/
  pending : Option (ClassOp × ClassTree)
  members : Members

namespace OpenClass

/-- What has been read so far, as one tree. -/
def tree (o : OpenClass) : ClassTree :=
  match o.pending with
  | none => o.members.tree
  | some (op, left) =>
    .binary ⟨left.span.start, o.members.tree.span.stop⟩ op left o.members.tree

def add (o : OpenClass) (t : ClassTree) : OpenClass := { o with members := o.members.add t }

/-- Goes on behind an operator, which ends at a place. -/
def operator (o : OpenClass) (op : ClassOp) (c : Cursor) : OpenClass :=
  { o with pending := some (op, o.tree), members := .none c }

/-- The class, whose closing bracket ends at a place. -/
def close (o : OpenClass) (c : Cursor) : Span × Bool × ClassTree :=
  (⟨o.span.start, c.pos⟩, o.negated, o.tree)

end OpenClass

def AsciiClass.ofName? (name : Text) : Option AsciiClass :=
  [("alnum", alnum), ("alpha", alpha), ("ascii", ascii), ("blank", blank), ("cntrl", cntrl),
    ("digit", digit), ("graph", graph), ("lower", lower), ("print", print), ("punct", punct),
    ("space", space), ("upper", upper), ("word", word), ("xdigit", xdigit)].findSome?
    fun p => if p.1.toList = name then some p.2 else none

/-- Whether a `^` comes first, and what follows it. -/
def takeCaret : Text → Bool × Text
  | '^' :: t => (true, t)
  | t => (false, t)

/-- Moves past a `^`, if one stands here. -/
def skipCaret (v : Bool) (c : Cursor) : Bool × Cursor :=
  match c.rest with
  | '^' :: _ => (true, c.next v)
  | _ => (false, c)

/-- Reads a class of the form `[:name:]` or `[:^name:]`, if one stands here. -/
def readAsciiClass? (c : Cursor) : Option (ClassTree × Cursor) :=
  match c.rest with
  | '[' :: ':' :: t =>
    let (negated, t) := takeCaret t
    let name := t.takeWhile (· ≠ ':')
    match t.drop name.length with
    | ':' :: ']' :: rest =>
      match AsciiClass.ofName? name with
      | none => none
      | some kind =>
        let stop := c.pos + (c.left - rest.length)
        some (.ascii ⟨c.pos, stop⟩ kind negated, ⟨stop, rest⟩)
    | _ => none
  | _ => none

/-- Reads the hyphens at the start of a class, which stand for themselves. -/
def readHyphens (v : Bool) (start : Span) (m : Members) (c : Cursor) :
    Except Fault (Members × Cursor) :=
  match _h : c.rest with
  | '-' :: _ =>
    let d := c.next v
    if d.rest.isEmpty then refuse .classUnclosed start
    else readHyphens v start (m.add (.literal ⟨c.char, '-', false⟩)) d
  | _ => .ok (m, c)
termination_by c.left
decreasing_by exact Cursor.next_left_lt v _h

/-- Reads what opens a class; `c` stands on the bracket. A closing bracket that comes first stands
for itself, so that no class is empty. -/
def readOpenBracket (v : Bool) (c : Cursor) : Except Fault (OpenClass × Cursor) := do
  let d := c.next v
  if d.rest.isEmpty then refuse .classUnclosed (c.spanTo d)
  else
    let (negated, e) := skipCaret v d
    if e.rest.isEmpty then refuse .classUnclosed (c.spanTo e)
    else
      let (m, f) ← readHyphens v c.here (.none e) e
      if m.items.isEmpty && f.rest.head? = some ']' then
        let g := f.next v
        if g.rest.isEmpty then refuse .classUnclosed (c.spanTo g)
        else .ok (⟨c.spanTo g, negated, none, m.add (.literal ⟨f.char, ']', false⟩)⟩, g)
      else .ok (⟨c.spanTo f, negated, none, m⟩, f)

/-- Reads one end of a range or a member that is no range. -/
def readClassItem (v : Bool) (c : Cursor) : Except Fault (Primitive × Cursor) :=
  match c.rest with
  | '\\' :: _ => readEscape v c.pos c.bump
  | x :: _ => .ok (.literal ⟨c.char, x, false⟩, c.bump)
  | [] => refuse .classUnclosed c.here

/-- A primitive as a member of a class. -/
def Primitive.toMember : Primitive → Except Fault ClassTree
  | literal l => .ok (.literal l)
  | property p => .ok (.property p)
  | shorthand s k n => .ok (.shorthand s k n)
  | p => refuse .classEscapeInvalid p.span

/-- A primitive as an end of a range. -/
def Primitive.toBound : Primitive → Except Fault Literal
  | literal l => .ok l
  | p => refuse .classRangeLiteral p.span

/-- The character behind the next one that tells a range from a hyphen that stands for itself. In
a verbose pattern the search passes white space and the sign of one comment. -/
def peekBehind (v : Bool) (c : Cursor) : Option Char :=
  let t := c.bump.rest
  if v then
    let solid := t.dropWhile isBlank
    let solid := if solid.head? = some '#' then (solid.drop 1).dropWhile isBlank else solid
    solid.head? <|> t.head?
  else t.head?

/-- Reads a member or a range. -/
def readClassRange (v : Bool) (opened : Span) (c : Cursor) :
    Except Fault (ClassTree × Cursor) := do
  let (p, d) ← readClassItem v c
  let e := d.skip v
  if e.rest.isEmpty then refuse .classUnclosed opened
  else if e.rest.head? ≠ some '-' || peekBehind v e = some ']' || peekBehind v e = some '-' then
    let t ← p.toMember
    .ok (t, e)
  else
    let f := e.next v
    if f.rest.isEmpty then refuse .classUnclosed opened
    else
      let (q, g) ← readClassItem v f
      let low ← p.toBound
      let high ← q.toBound
      let span : Span := ⟨p.span.start, q.span.stop⟩
      if high.char < low.char then refuse .classRangeInvalid span
      else .ok (.range span low high, g)

/-- The operator that stands here, if one does. -/
def classOp? : Text → Option ClassOp
  | '&' :: '&' :: _ => some .intersection
  | '-' :: '-' :: _ => some .difference
  | '~' :: '~' :: _ => some .symmetricDifference
  | _ => none

theorem takeCaret_length (t : Text) : (takeCaret t).2.length ≤ t.length := by
  unfold takeCaret
  split <;> simp

theorem skipCaret_left (v : Bool) (c : Cursor) : (skipCaret v c).2.left ≤ c.left := by
  unfold skipCaret
  split
  · exact Cursor.next_left v c
  · exact Nat.le_refl _

theorem readAsciiClass?_left {c d : Cursor} {t : ClassTree} (h : readAsciiClass? c = some (t, d)) :
    d.left < c.left := by
  unfold readAsciiClass? at h
  split at h
  · rename_i t hc
    dsimp only at h
    split at h
    · rename_i rest hr
      split at h
      · cases h
      · simp only [Option.some.injEq, Prod.mk.injEq] at h
        obtain ⟨-, rfl⟩ := h
        have hl := congrArg List.length hr
        simp only [List.length_drop, List.length_cons] at hl
        have := takeCaret_length t
        simp only [Cursor.left, hc, List.length_cons]
        omega
    · cases h
  · cases h

theorem readHyphens_onward (v : Bool) (start : Span) (m : Members) (c : Cursor) :
    Onward c (readHyphens v start m c) := by
  fun_induction readHyphens v start m c with
  | case1 => exact .refuse _ _ _
  | case2 c m r h d hd ih => exact fun a e he => Nat.le_trans (ih a e he) (Cursor.next_left v m)
  | case3 => exact .ok _ (Nat.le_refl _)

theorem readOpenBracket_onward (v : Bool) (c : Cursor) :
    Onward (c.next v) (readOpenBracket v c) := by
  unfold readOpenBracket
  dsimp only
  split
  · exact .refuse _ _ _
  · split
    · exact .refuse _ _ _
    · have he := skipCaret_left v (c.next v)
      refine .bind (fun a d h => Nat.le_trans (readHyphens_onward v _ _ _ a d h) he) ?_
      intro m f hf
      split
      · split
        · exact .refuse _ _ _
        · exact .ok _ (Nat.le_trans (Cursor.next_left v f) hf)
      · exact .ok _ hf

theorem readClassItem_onward (v : Bool) (c : Cursor) : Onward c.bump (readClassItem v c) := by
  unfold readClassItem
  split
  · exact readEscape_onward v _ _
  · exact .ok _ (Nat.le_refl _)
  · exact .refuse _ _ _

theorem readClassRange_onward (v : Bool) (opened : Span) (c : Cursor) :
    Onward c.bump (readClassRange v opened c) := by
  unfold readClassRange
  refine .bind (readClassItem_onward v c) ?_
  intro p d hd
  have he := Nat.le_trans (Cursor.skip_left v d) hd
  dsimp only
  split
  · exact .refuse _ _ _
  · split
    · intro a f h
      cases ht : p.toMember with
      | error e => simp [ht, bind, Except.bind] at h
      | ok t =>
        simp only [ht, bind, Except.bind, Except.ok.injEq, Prod.mk.injEq] at h
        exact h.2 ▸ he
    · split
      · exact .refuse _ _ _
      · have hf := Nat.le_trans (Cursor.next_left v (d.skip v)) he
        refine .bind (fun a g h => Nat.le_trans (readClassItem_onward v _ a g h)
          (Nat.le_trans (Cursor.bump_left _) hf)) ?_
        intro q g hg a f h
        cases hp : p.toBound with
        | error e => simp [hp, bind, Except.bind] at h
        | ok low =>
          cases hq : q.toBound with
          | error e => simp [hp, hq, bind, Except.bind] at h
          | ok high =>
            simp only [hp, hq, bind, Except.bind] at h
            split at h
            · cases h
            · simp only [Except.ok.injEq, Prod.mk.injEq] at h
              exact h.2 ▸ hg

/-- Reads the rest of the class `o`, which stands in the classes `outer`. -/
def readClassBody (v : Bool) (outer : List OpenClass) (o : OpenClass) (c : Cursor) :
    Except Fault ((Span × Bool × ClassTree) × Cursor) :=
  have _hs := Cursor.skip_left v c
  let d := c.skip v
  match hd : d.rest with
  | [] => refuse .classUnclosed o.span
  | x :: _ =>
    have _hb := Cursor.bump_left_lt hd
    if x = '[' then
      match ha : readAsciiClass? d with
      | some (t, e) =>
        have := readAsciiClass?_left ha
        readClassBody v outer (o.add t) e
      | none =>
        match hr : readOpenBracket v d with
        | .error f => .error f
        | .ok (inner, e) =>
          have := readOpenBracket_onward v d inner e hr
          have := Cursor.next_left_lt v hd
          readClassBody v (o :: outer) inner e
    else if x = ']' then
      let e := d.bump
      match outer with
      | [] => .ok (o.close e, e)
      | p :: outer =>
        let (span, negated, tree) := o.close e
        readClassBody v outer (p.add (.bracketed span negated tree)) e
    else
      match classOp? d.rest with
      | some op =>
        have := Cursor.bump_left d.bump
        readClassBody v outer (o.operator op d.bump.bump) d.bump.bump
      | none =>
        match hr : readClassRange v o.span d with
        | .error f => .error f
        | .ok (t, e) =>
          have := readClassRange_onward v o.span d t e hr
          readClassBody v outer (o.add t) e
termination_by c.left
decreasing_by all_goals (simp +zetaDelta only at *; omega)

/-- Reads a bracketed class; `c` stands on its bracket. -/
def readBracket (v : Bool) (c : Cursor) : Except Fault (Ast × Cursor) := do
  let (o, d) ← readOpenBracket v c
  let ((span, negated, tree), e) ← readClassBody v [] o d
  .ok (.bracketed span negated tree, e)

theorem readClassBody_onward (v : Bool) (outer : List OpenClass) (o : OpenClass) (c : Cursor) :
    Onward c (readClassBody v outer o c) := by
  fun_induction readClassBody v outer o c with
  | case1 => exact .refuse _ _ _
  | case2 | case4 | case6 | case7 | case9 =>
    rename_i ih
    exact ih.mono (by simp +zetaDelta only at *; omega)
  | case3 => exact .refuse _ _ _
  | case5 => exact .ok _ (by simp +zetaDelta only at *; omega)
  | case8 => exact .refuse _ _ _

theorem readBracket_onward (v : Bool) (c : Cursor) : Onward c.bump (readBracket v c) := by
  unfold readBracket
  refine .bind (fun a d h => Nat.le_trans (readOpenBracket_onward v c a d h)
    (Cursor.skip_left _ _)) ?_
  intro o d hd
  refine .bind (fun a e h => Nat.le_trans (readClassBody_onward v _ _ _ a e h) hd) ?_
  intro a e he
  exact .ok _ he

end RegexLiteral.Pattern
