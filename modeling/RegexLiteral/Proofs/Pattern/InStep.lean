import Mathlib.Data.List.Forall2
import RegexLiteral.Pattern.Bracket
import RegexLiteral.Pattern.Count
import RegexLiteral.Pattern.GroupHead

/-!
# Reading further on

The readers of parts do not care where in a pattern a part stands. If the same text starts `k`
characters further on, each of them reads as much of it, or refuses it for the same fault, with all
spans moved by `k`: the two readings are in step (`InStep`). Spans in trees are the exception. No
fault shows them, so what is said of a tree is only what the readers ask of it.
-/
namespace RegexLiteral.Pattern

open RegexLiteral.Unicode (hexValue?)

/-! ### Places further on -/

def Span.shift (k : Nat) (s : Span) : Span := ⟨k + s.start, k + s.stop⟩

/-- The cause of a fault, where the second span that it points at moves. -/
def Cause.shift (k : Nat) : Cause → Cause
  | .flagDuplicate first => .flagDuplicate (first.shift k)
  | .flagRepeatedNegation first => .flagRepeatedNegation (first.shift k)
  | .groupNameDuplicate first => .groupNameDuplicate (first.shift k)
  | cause => cause

def Fault.shift (k : Nat) (f : Fault) : Fault := ⟨f.cause.shift k, f.span.shift k⟩

def Literal.shift (k : Nat) (l : Literal) : Literal := { l with span := l.span.shift k }

@[simp] theorem Literal.char_shift (k : Nat) (l : Literal) : (l.shift k).char = l.char := rfl

def PropertyClass.shift (k : Nat) (p : PropertyClass) : PropertyClass :=
  { p with span := p.span.shift k }

def Primitive.shift (k : Nat) : Primitive → Primitive
  | literal l => literal (l.shift k)
  | dot s => dot (s.shift k)
  | assertion s kind => assertion (s.shift k) kind
  | property p => property (p.shift k)
  | shorthand s kind negated => shorthand (s.shift k) kind negated

@[simp] theorem Primitive.span_shift (k : Nat) (p : Primitive) :
    (p.shift k).span = p.span.shift k := by cases p <;> rfl

namespace Cursor

variable (k : Nat) (v : Bool) (c d : Cursor)

def shift : Cursor := ⟨k + c.pos, c.rest⟩

@[simp] theorem pos_shift : (c.shift k).pos = k + c.pos := rfl

@[simp] theorem rest_shift : (c.shift k).rest = c.rest := rfl

@[simp] theorem bump_shift : (c.shift k).bump = c.bump.shift k := by
  unfold bump
  rw [rest_shift]
  split <;> rfl

theorem skipLayout_shift (b : Bool) (pos : Nat) (t : Text) :
    skipLayout b (k + pos) t = (skipLayout b pos t).shift k := by
  induction t generalizing b pos with
  | nil => rfl
  | cons x t ih =>
    unfold skipLayout
    split
    · exact ih _ (pos + 1)
    · split
      · exact ih _ (pos + 1)
      · split
        · exact ih _ (pos + 1)
        · rfl

@[simp] theorem skip_shift : (c.shift k).skip v = (c.skip v).shift k := by
  unfold skip
  split
  · exact skipLayout_shift k false c.pos c.rest
  · rfl

@[simp] theorem next_shift : (c.shift k).next v = (c.next v).shift k := by
  rw [next, bump_shift, skip_shift, next]

theorem skipBlanks_shift (pos : Nat) (t : Text) :
    skipBlanks (k + pos) t = (skipBlanks pos t).shift k := by
  induction t generalizing pos with
  | nil => rfl
  | cons x t ih =>
    unfold skipBlanks
    split
    · exact ih (pos + 1)
    · rfl

end Cursor

/-- What has been read so far, each with its span, further on. -/
def shiftSpans {α : Type} (k : Nat) (seen : List (α × Span)) : List (α × Span) :=
  seen.map fun p => (p.1, p.2.shift k)

theorem find?_shiftSpans {α : Type} [DecidableEq α] (k : Nat) (seen : List (α × Span)) (a : α) :
    (shiftSpans k seen).find? (fun p => p.1 = a) =
      (seen.find? fun p => p.1 = a).map fun p => (p.1, p.2.shift k) := List.find?_map ..

/-! ### Readings in step -/

/-- The second reading does what the first one does, `k` characters further on: either both give
values, which belong together, or both refuse the pattern for the same fault. -/
inductive InStep {α β : Type} (k : Nat) (R : α → β → Prop) :
    Except Fault α → Except Fault β → Prop where
  | ok {a : α} {b : β} (h : R a b) : InStep k R (.ok a) (.ok b)
  | error (f : Fault) : InStep k R (.error f) (.error (f.shift k))

/-- The values belong together, and the second reading stopped where the first one did. -/
def Along {α β : Type} (k : Nat) (R : α → β → Prop) (p : α × Cursor) (q : β × Cursor) : Prop :=
  R p.1 q.1 ∧ q.2 = p.2.shift k

/-- The second value is the first one, further on. -/
def Moved (k : Nat) (p q : Primitive) : Prop := q = p.shift k

namespace InStep

variable {α β γ δ : Type} {k : Nat} {R : α → β → Prop} {S : γ → δ → Prop}

theorem refuse {cause cause' : Cause} {span span' : Span} (hcause : cause' = cause.shift k)
    (hspan : span' = span.shift k) :
    InStep k R (refuse cause span) (refuse cause' span') := by
  subst hcause hspan
  exact .error _

theorem done {a : α} {b : β} {c d : Cursor} (h : R a b) (hd : d = c.shift k) :
    InStep k (Along k R) (.ok (a, c)) (.ok (b, d)) := .ok ⟨h, hd⟩

theorem bind {x : Except Fault α} {y : Except Fault β} {f : α → Except Fault γ}
    {g : β → Except Fault δ} (h : InStep k R x y) (hfg : ∀ a b, R a b → InStep k S (f a) (g b)) :
    InStep k S (x >>= f) (y >>= g) := by
  cases h with
  | ok h => exact hfg _ _ h
  | error f => exact .error f

theorem ite {p : Prop} [Decidable p] {x x' : Except Fault α} {y y' : Except Fault β}
    (h : InStep k R x y) (h' : InStep k R x' y') :
    InStep k R (if p then x else x') (if p then y else y') := by
  split
  · exact h
  · exact h'

section AndThen

variable {x : Except Fault (α × Cursor)} {y : Except Fault (β × Cursor)}
  {f : α × Cursor → Except Fault γ} {g : β × Cursor → Except Fault δ}

/-- Goes on behind a part, of which the first reading is known. -/
theorem andThen_of_read (h : InStep k (Along k R) x y)
    (hfg : ∀ a b d, x = .ok (a, d) → R a b → InStep k S (f (a, d)) (g (b, d.shift k))) :
    InStep k S (x >>= f) (y >>= g) := by
  cases h with
  | error f => exact .error f
  | @ok p q h =>
    obtain ⟨a, d⟩ := p
    obtain ⟨b, e⟩ := q
    obtain ⟨hab, rfl⟩ := h
    exact hfg a b d rfl hab

/-- Goes on behind a part. -/
theorem andThen (h : InStep k (Along k R) x y)
    (hfg : ∀ a b d, R a b → InStep k S (f (a, d)) (g (b, d.shift k))) :
    InStep k S (x >>= f) (y >>= g) := h.andThen_of_read fun a b d _ => hfg a b d

end AndThen

end InStep

/-! ### Escapes -/

variable (k : Nat) (v : Bool) (c : Cursor)

theorem readHexDigits_inStep (n : Nat) :
    InStep k (Along k Eq) (readHexDigits v n c) (readHexDigits v n (c.shift k)) := by
  induction n generalizing c with
  | zero => exact .done rfl rfl
  | succ n ih =>
    unfold readHexDigits
    rw [Cursor.rest_shift, Cursor.next_shift]
    split
    · exact .refuse rfl rfl
    · split
      · exact .refuse rfl rfl
      · refine (ih _).andThen ?_
        rintro ds _ d rfl
        exact .done rfl rfl

theorem readHexUntilBrace_inStep (c : Cursor) :
    InStep k (Along k Eq) (readHexUntilBrace v c) (readHexUntilBrace v (c.shift k)) := by
  rw [readHexUntilBrace.eq_def v c, readHexUntilBrace.eq_def v (c.shift k)]
  simp only [Cursor.rest_shift, Cursor.next_shift]
  split
  · exact .done rfl rfl
  · split
    · exact .done rfl rfl
    · split
      · exact .refuse rfl rfl
      · refine (readHexUntilBrace_inStep (c.next v)).andThen ?_
        rintro ds _ d rfl
        exact .done rfl rfl
termination_by c.left
decreasing_by exact Cursor.next_left_lt v ‹c.rest = _ :: _›

theorem readHex_inStep (start digits : Nat) (isByte : Bool) :
    InStep k (Along k (Moved k)) (readHex v start digits isByte c)
      (readHex v (k + start) digits isByte (c.shift k)) := by
  unfold readHex
  rw [Cursor.next_shift]
  generalize c.next v = d
  dsimp only
  rw [Cursor.next_shift, Cursor.rest_shift]
  split
  · exact .refuse rfl rfl
  · refine (readHexUntilBrace_inStep k v _).andThen ?_
    rintro ds _ e rfl
    dsimp only
    rw [Cursor.next_shift, Cursor.rest_shift]
    split
    · exact .refuse rfl rfl
    · split
      · exact .refuse rfl rfl
      · split
        · exact .refuse rfl rfl
        · exact .done rfl rfl
  · refine (readHexDigits_inStep k v _ _).andThen ?_
    rintro ds _ e rfl
    dsimp only
    split
    · exact .refuse rfl rfl
    · exact .done rfl rfl

theorem readUntilBrace_shift (c : Cursor) :
    readUntilBrace v (c.shift k) =
      ((readUntilBrace v c).1, (readUntilBrace v c).2.shift k) := by
  rw [readUntilBrace.eq_def v c, readUntilBrace.eq_def v (c.shift k)]
  simp only [Cursor.rest_shift, Cursor.next_shift]
  split
  · rfl
  · split
    · rfl
    · rw [readUntilBrace_shift (c.next v)]
termination_by c.left
decreasing_by exact Cursor.next_left_lt v ‹c.rest = _ :: _›

theorem readProperty_inStep (start : Nat) (negated : Bool) :
    InStep k (Along k (Moved k)) (readProperty v start negated c)
      (readProperty v (k + start) negated (c.shift k)) := by
  unfold readProperty
  rw [Cursor.next_shift]
  generalize c.next v = d
  dsimp only
  rw [Cursor.next_shift, Cursor.rest_shift]
  split
  · exact .refuse rfl rfl
  · split
    · rw [readUntilBrace_shift]
      dsimp only
      rw [Cursor.rest_shift, Cursor.bump_shift]
      split
      · exact .refuse rfl rfl
      · exact .done rfl rfl
    · split
      · exact .refuse rfl rfl
      · exact .done rfl rfl

theorem readBoundaryName_shift (c : Cursor) :
    readBoundaryName v (c.shift k) =
      ((readBoundaryName v c).1, (readBoundaryName v c).2.shift k) := by
  rw [readBoundaryName.eq_def v c, readBoundaryName.eq_def v (c.shift k)]
  simp only [Cursor.rest_shift, Cursor.next_shift]
  split
  · rfl
  · split
    · rw [readBoundaryName_shift (c.next v)]
    · rfl
termination_by c.left
decreasing_by exact Cursor.next_left_lt v ‹c.rest = _ :: _›

theorem readBoundary_inStep (start : Nat) :
    InStep k (Along k (Moved k)) (readBoundary v start c)
      (readBoundary v (k + start) (c.shift k)) := by
  unfold readBoundary
  simp only [Cursor.next_shift, Cursor.rest_shift, readBoundaryName_shift, Cursor.bump_shift]
  split
  · split
    · exact .refuse rfl rfl
    · split
      · split
        · split
          · exact .refuse rfl rfl
          · exact .done rfl rfl
        · exact .refuse rfl rfl
      · exact .done rfl rfl
  · exact .done rfl rfl

theorem readEscape_inStep (start : Nat) :
    InStep k (Along k (Moved k)) (readEscape v start c)
      (readEscape v (k + start) (c.shift k)) := by
  unfold readEscape
  simp only [Cursor.rest_shift, Cursor.bump_shift]
  split
  · exact .refuse rfl rfl
  · split
    · exact .refuse rfl rfl
    · split
      · exact readProperty_inStep k v c start _
      · split
        · exact readBoundary_inStep k v _ start
        · split
          · exact .done rfl rfl
          · split
            · exact readHex_inStep k v c start _ _
            · exact .done rfl rfl
            · exact .done rfl rfl
            · exact .done rfl rfl
            · exact .refuse rfl rfl

/-! ### Counts -/

theorem readDigits_shift (c : Cursor) :
    readDigits v (c.shift k) = ((readDigits v c).1, (readDigits v c).2.shift k) := by
  rw [readDigits.eq_def v c, readDigits.eq_def v (c.shift k)]
  simp only [Cursor.rest_shift, Cursor.next_shift]
  split
  · rfl
  · split
    · rw [readDigits_shift (c.next v)]
    · rfl
termination_by c.left
decreasing_by exact Cursor.next_left_lt v ‹c.rest = _ :: _›

theorem skipTrailing_shift (c : Cursor) :
    skipTrailing v (c.shift k) = (skipTrailing v c).shift k := by
  rw [skipTrailing.eq_def v c, skipTrailing.eq_def v (c.shift k)]
  simp only [Cursor.rest_shift, Cursor.next_shift]
  split
  · rfl
  · split
    · exact skipTrailing_shift (c.next v)
    · rfl
termination_by c.left
decreasing_by exact Cursor.next_left_lt v ‹c.rest = _ :: _›

theorem readNumber_shift :
    (readNumber v (c.shift k)).2 = (readNumber v c).2.shift k := by
  simp only [readNumber, Cursor.pos_shift, Cursor.rest_shift, Cursor.skipBlanks_shift,
    readDigits_shift, skipTrailing_shift]

theorem readNumber_inStep :
    InStep k Eq (readNumber v c).1 (readNumber v (c.shift k)).1 := by
  simp only [readNumber, Cursor.pos_shift, Cursor.rest_shift, Cursor.skipBlanks_shift,
    readDigits_shift]
  split
  · exact .refuse rfl rfl
  · split
    · exact .refuse rfl rfl
    · exact .ok rfl

theorem readBounds_inStep :
    InStep k (Along k Eq) (readBounds v c) (readBounds v (c.shift k)) := by
  have hlow := readNumber_inStep k v (c.next v)
  have hhigh := readNumber_inStep k v ((readNumber v (c.next v)).2.next v)
  simp only [readBounds, Cursor.next_shift, readNumber_shift, Cursor.rest_shift]
  split
  · exact .refuse rfl rfl
  · split
    · exact .refuse rfl rfl
    · split
      · split
        · exact .refuse rfl rfl
        · split
          · refine hlow.bind ?_
            rintro n _ rfl
            exact .done rfl rfl
          · refine hlow.bind ?_
            rintro n _ rfl
            refine hhigh.bind ?_
            rintro m _ rfl
            exact .done rfl rfl
      · refine hlow.bind ?_
        rintro n _ rfl
        exact .done rfl rfl

theorem readCount_inStep :
    InStep k (Along k Eq) (readCount v c) (readCount v (c.shift k)) := by
  unfold readCount
  refine (readBounds_inStep k v c).andThen ?_
  rintro ⟨low, high⟩ _ d rfl
  simp only [Cursor.rest_shift, Cursor.next_shift, Cursor.bump_shift,
    ← apply_ite (Cursor.shift k)]
  split
  · exact .refuse rfl rfl
  · split
    · split
      · exact .refuse rfl rfl
      · exact .done rfl rfl
    · exact .done rfl rfl

/-! ### Heads of groups -/

/-- What a parenthesis opens, further on. -/
def GroupHead.shift (k : Nat) : GroupHead → GroupHead
  | directive span items => directive (span.shift k) items
  | plain items => plain items
  | named name span => named name (span.shift k)
  | unnamed => unnamed

theorem readNameChars_inStep (first : Bool) (pos : Nat) (t : Text) :
    InStep k (Along k Eq) (readNameChars first pos t) (readNameChars first (k + pos) t) := by
  induction t generalizing first pos with
  | nil => exact .done rfl rfl
  | cons x t ih =>
    unfold readNameChars
    split
    · exact .done rfl rfl
    · split
      · exact .refuse rfl rfl
      · refine (ih false (pos + 1)).andThen ?_
        rintro name _ d rfl
        exact .done rfl rfl

theorem readName_inStep :
    InStep k (Along k fun p q => q = p.shift k) (readName c) (readName (c.shift k)) := by
  unfold readName
  refine (readNameChars_inStep k true c.pos c.rest).andThen ?_
  rintro name _ d rfl
  simp only [Cursor.rest_shift, Cursor.bump_shift]
  split
  · exact .refuse rfl rfl
  · split
    · exact .refuse rfl rfl
    · exact .done rfl rfl

theorem readFlags_inStep (seen : List (FlagItem × Span)) (pos : Nat) (t : Text) :
    InStep k (Along k Eq) (readFlags seen pos t) (readFlags (shiftSpans k seen) (k + pos) t) := by
  induction t generalizing seen pos with
  | nil => exact .refuse rfl rfl
  | cons x t ih =>
    have hitems : (shiftSpans k seen).map Prod.fst = seen.map Prod.fst := by simp [shiftSpans]
    simp only [readFlags, hitems, find?_shiftSpans]
    split
    · cases seen with
      | nil => exact .done rfl rfl
      | cons p seen =>
        obtain ⟨item, span⟩ := p
        cases item with
        | negation => exact .refuse rfl rfl
        | flag f => exact .done rfl rfl
    · split
      · exact .refuse rfl rfl
      · rename_i item _
        cases seen.find? fun p => p.1 = item with
        | none => exact ih ((item, ⟨pos, pos + 1⟩) :: seen) (pos + 1)
        | some p =>
          obtain ⟨item, first⟩ := p
          cases item with
          | negation => exact .refuse rfl rfl
          | flag f => exact .refuse rfl rfl

theorem readGroupHead_inStep :
    InStep k (Along k fun p q => q = p.shift k) (readGroupHead v c)
      (readGroupHead v (c.shift k)) := by
  unfold readGroupHead
  rw [Cursor.next_shift]
  generalize c.next v = d
  dsimp only
  rw [Cursor.rest_shift]
  split
  · exact .refuse rfl rfl
  · exact .refuse rfl rfl
  · exact .refuse rfl rfl
  · exact .refuse rfl rfl
  · exact readName_inStep k _
  · exact readName_inStep k _
  · split
    · exact .refuse rfl rfl
    · refine (readFlags_inStep k [] (d.pos + 1) _).andThen ?_
      rintro items _ e rfl
      simp only [Cursor.rest_shift, Cursor.bump_shift]
      split
      · exact .done rfl rfl
      · split
        · exact .refuse rfl rfl
        · exact .done rfl rfl
  · exact .done rfl rfl

/-! ### Bracketed classes -/

/-- Both have members, or neither has. -/
def SameMembers (m n : Members) : Prop := n.items.isEmpty = m.items.isEmpty

theorem SameMembers.add (m n : Members) (s t : ClassTree) : SameMembers (m.add s) (n.add t) := rfl

/-- A class that was opened further on. What is in it shows in no fault. -/
def OpenClass.SameStart (k : Nat) (o o' : OpenClass) : Prop := o'.span = o.span.shift k

namespace OpenClass.SameStart

variable {k : Nat} {o o' : OpenClass}

theorem add (h : o.SameStart k o') (t t' : ClassTree) : (o.add t).SameStart k (o'.add t') := h

theorem operator (h : o.SameStart k o') (op : ClassOp) (c c' : Cursor) :
    (o.operator op c).SameStart k (o'.operator op c') := h

end OpenClass.SameStart

theorem readAsciiClass?_shift :
    (readAsciiClass? (c.shift k)).map Prod.snd =
      (readAsciiClass? c).map fun p => p.2.shift k := by
  unfold readAsciiClass?
  rw [Cursor.rest_shift]
  split
  · dsimp only
    split
    · split
      · rfl
      · simp only [Option.map_some, Cursor.shift, Nat.add_assoc]
        rfl
    · rfl
  · rfl

theorem readHyphens_inStep (start : Span) {m n : Members} (h : SameMembers m n) (c : Cursor) :
    InStep k (Along k SameMembers) (readHyphens v start m c)
      (readHyphens v (start.shift k) n (c.shift k)) := by
  rw [readHyphens.eq_def v start m c, readHyphens.eq_def v (start.shift k) n (c.shift k)]
  simp only [Cursor.rest_shift, Cursor.next_shift]
  split
  · split
    · exact .refuse rfl rfl
    · exact readHyphens_inStep start (.add m n _ _) (c.next v)
  · exact .done h rfl
termination_by c.left
decreasing_by exact Cursor.next_left_lt v ‹c.rest = _ :: _›

theorem skipCaret_shift : skipCaret v (c.shift k) =
    ((skipCaret v c).1, (skipCaret v c).2.shift k) := by
  unfold skipCaret
  rw [Cursor.rest_shift, Cursor.next_shift]
  split <;> rfl

theorem readOpenBracket_inStep :
    InStep k (Along k (OpenClass.SameStart k)) (readOpenBracket v c)
      (readOpenBracket v (c.shift k)) := by
  simp only [readOpenBracket, Cursor.next_shift, skipCaret_shift, Cursor.rest_shift]
  split
  · exact .refuse rfl rfl
  · split
    · exact .refuse rfl rfl
    · have hnone : SameMembers (.none (skipCaret v (c.next v)).2)
          (.none ((skipCaret v (c.next v)).2.shift k)) := rfl
      refine (readHyphens_inStep k v c.here hnone _).andThen ?_
      intro m n f hmn
      have hempty : n.items.isEmpty = m.items.isEmpty := hmn
      dsimp only
      rw [hempty, Cursor.rest_shift, Cursor.next_shift, Cursor.rest_shift]
      split
      · split
        · exact .refuse rfl rfl
        · exact .done rfl rfl
      · exact .done rfl rfl

theorem readClassItem_inStep :
    InStep k (Along k (Moved k)) (readClassItem v c) (readClassItem v (c.shift k)) := by
  simp only [readClassItem, Cursor.rest_shift, Cursor.bump_shift]
  split
  · exact readEscape_inStep k v c.bump c.pos
  · exact .done rfl rfl
  · exact .refuse rfl rfl

theorem Primitive.toMember_inStep (p : Primitive) :
    InStep k (fun _ _ => True) p.toMember (p.shift k).toMember := by
  cases p with
  | literal | property | shorthand => exact .ok trivial
  | dot | assertion => exact .refuse rfl rfl

theorem Primitive.toBound_inStep (p : Primitive) :
    InStep k (fun l m => m = l.shift k) p.toBound (p.shift k).toBound := by
  cases p with
  | literal => exact .ok rfl
  | property | shorthand | dot | assertion => exact .refuse rfl rfl

theorem peekBehind_shift : peekBehind v (c.shift k) = peekBehind v c := by
  unfold peekBehind
  rw [Cursor.bump_shift, Cursor.rest_shift]

theorem readClassRange_inStep (opened : Span) :
    InStep k (Along k fun _ _ => True) (readClassRange v opened c)
      (readClassRange v (opened.shift k) (c.shift k)) := by
  unfold readClassRange
  refine (readClassItem_inStep k v c).andThen ?_
  rintro p _ d rfl
  simp only [Cursor.skip_shift, Cursor.next_shift, Cursor.rest_shift, peekBehind_shift]
  split
  · exact .refuse rfl rfl
  · split
    · refine (p.toMember_inStep k).bind ?_
      intro s t _
      exact .done trivial rfl
    · split
      · exact .refuse rfl rfl
      · refine (readClassItem_inStep k v _).andThen ?_
        rintro q _ g rfl
        refine (p.toBound_inStep k).bind ?_
        rintro low _ rfl
        refine (q.toBound_inStep k).bind ?_
        rintro high _ rfl
        simp only [Primitive.span_shift, Literal.char_shift]
        split
        · exact .refuse rfl rfl
        · exact .done trivial rfl

/-- What reading the rest of a class comes to, by the character behind layout. The reader itself
keeps beside its cases why it goes onward, so that no cursor in it can be rewritten. -/
theorem readClassBody_eq (outer : List OpenClass) (o : OpenClass) :
    readClassBody v outer o c =
      match (c.skip v).rest with
      | [] => refuse .classUnclosed o.span
      | x :: _ =>
        if x = '[' then
          match readAsciiClass? (c.skip v) with
          | some p => readClassBody v outer (o.add p.1) p.2
          | none => readOpenBracket v (c.skip v) >>= fun p => readClassBody v (o :: outer) p.1 p.2
        else if x = ']' then
          match outer with
          | [] => .ok (o.close (c.skip v).bump, (c.skip v).bump)
          | p :: outer =>
            let (span, negated, tree) := o.close (c.skip v).bump
            readClassBody v outer (p.add (.bracketed span negated tree)) (c.skip v).bump
        else
          match classOp? (c.skip v).rest with
          | some op =>
            readClassBody v outer (o.operator op (c.skip v).bump.bump) (c.skip v).bump.bump
          | none =>
            readClassRange v o.span (c.skip v) >>= fun p =>
              readClassBody v outer (o.add p.1) p.2 := by
  rw [readClassBody.eq_def]
  dsimp only
  split
  · rename_i h
    rw [h]
  · rename_i x t h
    rw [h]
    dsimp only
    split
    · split
      · rename_i ha
        rw [ha]
      · rename_i ha
        rw [ha]
        split
        · rename_i hr
          rw [hr]
          rfl
        · rename_i hr
          rw [hr]
          rfl
    · split
      · split <;> rfl
      · cases classOp? (x :: t) with
        | some op => rfl
        | none =>
          dsimp only
          split
          · rename_i hr
            rw [hr]
            rfl
          · rename_i hr
            rw [hr]
            rfl

/-- Classes that are open around the one at hand may hold anything, as long as they start at the
same places: a class shows in a fault only where it is not closed. -/
theorem readClassBody_inStep {outer outer' : List OpenClass}
    (houter : List.Forall₂ (OpenClass.SameStart k) outer outer') {o o' : OpenClass}
    (h : o.SameStart k o') (c : Cursor) :
    InStep k (Along k fun _ _ => True) (readClassBody v outer o c)
      (readClassBody v outer' o' (c.shift k)) := by
  have hs := Cursor.skip_left v c
  rw [readClassBody_eq, readClassBody_eq]
  simp only [Cursor.skip_shift, Cursor.rest_shift]
  split
  · exact .refuse rfl h
  · rename_i x t hd
    have hb := Cursor.bump_left_lt hd
    split
    · have hascii := readAsciiClass?_shift k (c.skip v)
      cases ha : readAsciiClass? (c.skip v) with
      | some p =>
        -- The trees `p.1` and `q.1` differ in their spans, but both are just members.
        rw [ha] at hascii
        obtain ⟨q, hq, hrest⟩ := Option.map_eq_some_iff.mp hascii
        have := readAsciiClass?_left ha
        simp only [hq, hrest]
        exact readClassBody_inStep houter (h.add p.1 q.1) p.2
      | none =>
        rw [ha] at hascii
        rw [Option.map_eq_none_iff.mp hascii]
        refine (readOpenBracket_inStep k v _).andThen_of_read ?_
        intro inner inner' e hread hinner
        have := readOpenBracket_onward v _ inner e hread
        have := Cursor.next_left_lt v hd
        exact readClassBody_inStep (.cons h houter) hinner e
    · split
      · simp only [Cursor.bump_shift]
        cases houter with
        | nil => exact .done trivial rfl
        | cons hp houter => exact readClassBody_inStep houter (hp.add _ _) _
      · split
        · have := Cursor.bump_left (c.skip v).bump
          simp only [Cursor.bump_shift]
          exact readClassBody_inStep houter (h.operator _ _ _) _
        · rw [show o'.span = o.span.shift k from h]
          refine (readClassRange_inStep k v _ _).andThen_of_read ?_
          intro s s' e hread _
          have := readClassRange_onward v _ _ s e hread
          exact readClassBody_inStep houter (h.add s s') e
termination_by c.left
decreasing_by all_goals omega

/-- Whether a part of a pattern is a row of flags, which cannot be repeated. -/
def Ast.isFlags : Ast → Bool
  | flags .. => true
  | _ => false

theorem readBracket_inStep :
    InStep k (Along k fun a b => b.isFlags = a.isFlags) (readBracket v c)
      (readBracket v (c.shift k)) := by
  unfold readBracket
  refine (readOpenBracket_inStep k v c).andThen ?_
  intro o o' d ho
  refine (readClassBody_inStep k v .nil ho d).andThen ?_
  intro p q e _
  exact .done rfl rfl

end RegexLiteral.Pattern
