import RegexLiteral.Pattern.Meaning

/-!
# Faults of meaning

A pattern that can be read may still have no meaning. The faults that this shows are of four causes,
none of which a reader ever gives (`Ast.meaning_faults`).
-/
namespace RegexLiteral.Pattern

/-- Whether a cause is one that only the meaning of a pattern shows. -/
def Cause.isOfMeaning : Cause → Bool
  | unicodeNotAllowed => true
  | invalidUtf8 => true
  | propertyNotFound => true
  | propertyValueNotFound => true
  | _ => false

/-- What is refused is refused for its meaning. -/
def RefusesMeaning {α : Type} (x : Except Fault α) : Prop :=
  ∀ f, x = .error f → f.cause.isOfMeaning

namespace RefusesMeaning

variable {α β : Type}

theorem ok (a : α) : RefusesMeaning (.ok a) := nofun

theorem refuse {cause : Cause} (h : cause.isOfMeaning) (span : Span) :
    RefusesMeaning (refuse cause span : Except Fault α) := by
  rintro f hf
  cases hf
  exact h

theorem bind {x : Except Fault α} {k : α → Except Fault β} (hx : RefusesMeaning x)
    (hk : ∀ a, RefusesMeaning (k a)) : RefusesMeaning (x >>= k) := by
  intro f hf
  cases x with
  | error g =>
    cases hf
    exact hx _ rfl
  | ok a => exact hk a f hf

end RefusesMeaning

open RefusesMeaning

namespace Settings

variable (s : Settings)

theorem negate_faults (span : Span) (negated : Bool) (cs : CharSet) :
    RefusesMeaning (s.negate span negated cs) := by
  unfold negate
  split
  · exact ok _
  · split
    · exact ok _
    · exact .refuse rfl span

theorem literalChar_faults (l : Literal) : RefusesMeaning (s.literalChar l) := by
  unfold literalChar
  split
  · exact .refuse rfl _
  · exact ok _

theorem memberChar_faults (l : Literal) : RefusesMeaning (s.memberChar l) := by
  unfold memberChar
  refine (s.literalChar_faults l).bind fun c => ?_
  split
  · exact .refuse rfl _
  · exact ok _

theorem propertySet_faults (p : PropertyClass) : RefusesMeaning (s.propertySet p) := by
  unfold propertySet
  split
  · exact .refuse rfl _
  · dsimp only
    split
    · exact .refuse rfl _
    · exact .refuse rfl _
    · exact s.negate_faults _ _ _

theorem literalExpr_faults (l : Literal) : RefusesMeaning (s.literalExpr l) := by
  unfold literalExpr
  refine (s.literalChar_faults l).bind fun c => ?_
  split
  · exact ok _
  · split <;> exact ok _

theorem dotExpr_faults (span : Span) : RefusesMeaning (s.dotExpr span) := by
  unfold dotExpr
  split
  · exact .refuse rfl _
  · split
    · exact ok _
    · split <;> exact ok _

end Settings

mutual

theorem ClassTree.charSet_faults (s : Settings) (t : ClassTree) :
    RefusesMeaning (t.charSet s) := by
  cases t with
  | empty span => exact ok _
  | literal l => exact (s.memberChar_faults l).bind fun c => ok _
  | range span low high =>
    exact (s.memberChar_faults low).bind fun a => (s.memberChar_faults high).bind fun b => ok _
  | ascii span kind negated => exact s.negate_faults _ _ _
  | property p => exact s.propertySet_faults p
  | shorthand span kind negated => exact s.negate_faults _ _ _
  | bracketed span negated body =>
    exact (body.charSet_faults s).bind fun cs => s.negate_faults _ _ _
  | union span items => exact (ClassTree.charSets_faults s items).bind fun sets => ok _
  | binary span op left right =>
    exact (left.charSet_faults s).bind fun a => (right.charSet_faults s).bind fun b => ok _

theorem ClassTree.charSets_faults (s : Settings) (ts : List ClassTree) :
    RefusesMeaning (ClassTree.charSets s ts) := by
  cases ts with
  | nil => exact ok _
  | cons t ts =>
    exact (t.charSet_faults s).bind fun cs => (ClassTree.charSets_faults s ts).bind fun rest => ok _

end

mutual

/-- A pattern without a meaning is refused for its meaning. -/
theorem Ast.meaning_faults (s : Settings) (a : Ast) : RefusesMeaning (a.meaning s) := by
  cases a with
  | empty span => exact ok _
  | flags span items => exact ok _
  | literal l => exact (s.literalExpr_faults l).bind fun e => ok _
  | dot span => exact (s.dotExpr_faults span).bind fun e => ok _
  | assertion span kind => exact ok _
  | property p => exact (s.propertySet_faults p).bind fun cs => ok _
  | shorthand span kind negated => exact (s.negate_faults _ _ _).bind fun cs => ok _
  | bracketed span negated body =>
    exact (body.charSet_faults s).bind fun cs => (s.negate_faults _ _ _).bind fun cs => ok _
  | repetition span min max greedy body => exact (body.meaning_faults s).bind fun p => ok _
  | group span kind body =>
    cases kind with
    | capture index name => exact (body.meaning_faults s).bind fun p => ok _
    | plain items => exact (body.meaning_faults (s.with items)).bind fun p => ok _
  | alternation span branches => exact (Ast.meanings_faults s branches).bind fun p => ok _
  | concat span items => exact (Ast.meanings_faults s items).bind fun p => ok _

theorem Ast.meanings_faults (s : Settings) (as : List Ast) :
    RefusesMeaning (Ast.meanings s as) := by
  cases as with
  | nil => exact ok _
  | cons a as =>
    exact (a.meaning_faults s).bind fun p => (Ast.meanings_faults p.2 as).bind fun q => ok _

end

end RegexLiteral.Pattern
