import RegexLiteral.Literal.Layout
import RegexLiteral.Proofs.Pattern.ClassParts
import RegexLiteral.Proofs.Pattern.Readers

/-!
# Bracketed classes in free spacing

Free spacing must keep a bracketed class as it is, and so must find its end as the engine does. It
does so by a count of open brackets. The count follows the engine's readers one by one: what each of
them reads is kept, and behind it the count is as it should be (`Kept`). Two things put it out of
step. A closing bracket that comes first in a class is a member for the engine at any depth, but in
the outermost class only for free spacing; and a bracket that ends a range, or a sign in the name of
a property, is counted though it opens or closes nothing. For all other classes `strip_around_class`
says that free spacing leaves the class alone; `strip_loses_class_text` is a class it does not.
-/
namespace RegexLiteral

open Pattern Layout
open RegexLiteral.Unicode (hexValue?)

/-! ### Texts that stay whole -/

namespace Layout

/-- Stripping a text from place `p` drops nothing and ends at place `q`. -/
def Carries (p : Place) (u : Text) (q : Place) : Prop := placeAfter p u = q ∧ stripFrom p u = u

namespace Carries

variable {p q r : Place} {u w : Text}

theorem nil (p : Place) : Carries p [] p := ⟨rfl, rfl⟩

theorem cons {x : Char} (hx : p.keeps x) (h : Carries (p.next x) u q) : Carries p (x :: u) q :=
  ⟨h.1, by rw [stripFrom, if_pos hx, h.2]⟩

theorem tail {x : Char} (hx : p.keeps x) (h : Carries p (x :: u) q) : Carries (p.next x) u q := by
  have hwhole := h.2
  rw [stripFrom, if_pos hx] at hwhole
  exact ⟨h.1, (List.cons.inj hwhole).2⟩

theorem append (h : Carries p u q) (h' : Carries q w r) : Carries p (u ++ w) r := by
  constructor
  · rw [placeAfter_append, h.1, h'.1]
  · rw [stripFrom_append, h.1, h.2, h'.2]

/-- The places behind the opening of a class differ from the inside of it for what may come first
only. -/
theorem of_inClass (h : Carries (.inClass 0) u .outside) (hkeeps : ∀ x, p.keeps x)
    (hnext : ∀ x ∈ u.head?, p.next x = (Place.inClass 0).next x) : Carries p u .outside := by
  cases u with
  | nil => cases h.1
  | cons x u =>
    refine .cons (hkeeps x) ?_
    rw [hnext x rfl]
    exact h.tail rfl

end Carries

theorem strip_append_of_carries {a u b : Text} (ha : placeAfter .outside a = .outside)
    (h : Carries .outside u .outside) : strip (a ++ u ++ b) = strip a ++ u ++ strip b := by
  unfold strip
  rw [List.append_assoc, stripFrom_append, ha, stripFrom_append, h.1, h.2, List.append_assoc]

@[simp] theorem Place.next_inClass {x : Char} (hx : Pattern.isClassSign x = false) (n : Nat) :
    (inClass n).next x = inClass n := by
  simp only [Pattern.isClassSign, Bool.or_eq_false_iff, decide_eq_false_iff_not] at hx
  simp [next, afterClassChar, hx]

/-- A row of characters that are no signs of a class stays whole in it. -/
theorem carries_inClass {u : Text} (hu : u.any Pattern.isClassSign = false) (n : Nat) :
    Carries (.inClass n) u (.inClass n) := by
  induction u with
  | nil => exact .nil _
  | cons x u ih =>
    rw [List.any_cons, Bool.or_eq_false_iff] at hu
    refine .cons rfl ?_
    rw [Place.next_inClass hu.1]
    exact ih hu.2

end Layout

namespace Pattern

@[simp] theorem Cursor.skip_false (c : Cursor) : c.skip false = c := rfl

@[simp] theorem Cursor.next_false (c : Cursor) : c.next false = c.bump := rfl

/-- From place `p` at `c`, stripping drops nothing up to `d` and is at place `q` there. -/
structure Kept (p q : Place) (c d : Cursor) : Prop where
  forth : c.pos ≤ d.pos
  carries : ∃ u, c.rest = u ++ d.rest ∧ Carries p u q

namespace Kept

variable {p q r : Place} {c d e : Cursor}

theorem refl (p : Place) (c : Cursor) : Kept p p c c := ⟨Nat.le_refl _, [], rfl, .nil p⟩

theorem trans (h : Kept p q c d) (h' : Kept q r d e) : Kept p r c e := by
  obtain ⟨u, hu, hpq⟩ := h.carries
  obtain ⟨w, hw, hqr⟩ := h'.carries
  exact ⟨Nat.le_trans h.forth h'.forth, u ++ w, by rw [hu, hw, List.append_assoc], hpq.append hqr⟩

theorem bump {x : Char} {t : Text} (h : c.rest = x :: t) (hx : p.keeps x) (hq : p.next x = q) :
    Kept p q c c.bump := by
  rw [Cursor.bump, h]
  exact ⟨Nat.le_succ _, [x], h, .cons hx (hq ▸ .nil _)⟩

/-- A character that is no sign of a class. -/
theorem plain {n : Nat} {x : Char} {t : Text} (h : c.rest = x :: t) (hx : isClassSign x = false) :
    Kept (.inClass n) (.inClass n) c c.bump := .bump h rfl (Place.next_inClass hx n)

/-- An escaped character. -/
theorem escaped {n : Nat} {x : Char} {t : Text} (h : c.rest = x :: t) :
    Kept (.escapedInClass n) (.inClass n) c c.bump := .bump h rfl rfl

/-- A row of characters that are no signs of a class. -/
theorem row {n : Nat} {u : Text} (hpos : c.pos ≤ d.pos) (h : c.rest = u ++ d.rest)
    (hu : u.any isClassSign = false) : Kept (.inClass n) (.inClass n) c d :=
  ⟨hpos, u, h, carries_inClass hu n⟩

end Kept

/-! ### Escapes -/

theorem not_isClassSign_of_hexValue? {x : Char} {n : Nat} (h : hexValue? x = some n) :
    isClassSign x = false := by
  rw [← Bool.not_eq_true]
  intro hx
  have hsign : (x = '[' ∨ x = ']') ∨ x = '\\' := by simpa [isClassSign] using hx
  have hnone : hexValue? x = none := by
    rcases hsign with (rfl | rfl) | rfl <;> decide
  rw [hnone] at h
  cases h

variable {n : Nat} {c d : Cursor}

theorem readHexDigits_kept {digits : Nat} {ds : List Nat}
    (h : readHexDigits false digits c = .ok (ds, d)) : Kept (.inClass n) (.inClass n) c d := by
  induction digits generalizing c ds with
  | zero =>
    cases h
    exact .refl _ _
  | succ digits ih =>
    unfold readHexDigits at h
    split at h
    · cases h
    · rename_i x t hc
      split at h
      · cases h
      · rename_i m hm
        obtain ⟨⟨ms, e⟩, hrest, h⟩ := bind_eq_ok.mp h
        cases h
        exact (Kept.plain hc (not_isClassSign_of_hexValue? hm)).trans (ih hrest)

theorem readHexUntilBrace_kept {ds : List Nat} (h : readHexUntilBrace false c = .ok (ds, d)) :
    Kept (.inClass n) (.inClass n) c d := by
  fun_induction readHexUntilBrace false c generalizing ds with
  | case1 => 
    cases h
    exact .refl _ _
  | case2 => 
    cases h
    exact .refl _ _
  | case3 => cases h
  | case4 c x t hc _ m hm ih =>
    obtain ⟨⟨ms, e⟩, hrest, h⟩ := bind_eq_ok.mp h
    cases h
    exact (Kept.plain hc (not_isClassSign_of_hexValue? hm)).trans (ih hrest)

theorem readHex_kept {start digits : Nat} {isByte : Bool} {x : Char} {t : Text}
    (hc : c.rest = x :: t) {p : Primitive} (h : readHex false start digits isByte c = .ok (p, d)) :
    Kept (.escapedInClass n) (.inClass n) c d := by
  have hx : Kept (.escapedInClass n) (.inClass n) c c.bump := .escaped hc
  unfold readHex at h
  dsimp only at h
  split at h
  · cases h
  · rename_i hbrace
    obtain ⟨⟨ds, e⟩, hdigits, h⟩ := bind_eq_ok.mp h
    dsimp only at h
    split at h
    · cases h
    · rename_i hne
      split at h
      · cases h
      · split at h
        · cases h
        · cases h
          obtain ⟨y, t', he⟩ := List.exists_cons_of_ne_nil (by simpa using hne)
          obtain rfl := readHexUntilBrace_stop hdigits he
          exact (hx.trans (.plain hbrace (by decide))).trans
            ((readHexUntilBrace_kept hdigits).trans (.plain he (by decide)))
  · obtain ⟨⟨ds, e⟩, hdigits, h⟩ := bind_eq_ok.mp h
    dsimp only at h
    split at h
    · cases h
    · cases h
      exact hx.trans (readHexDigits_kept hdigits)

/-- Up to the closing brace the text is the name. -/
theorem readUntilBrace_name {name : Text} (h : readUntilBrace false c = (name, d)) :
    c.pos ≤ d.pos ∧ c.rest = name ++ d.rest := by
  fun_induction readUntilBrace false c generalizing name with
  | case1 | case2 =>
    cases h
    exact ⟨Nat.le_refl _, rfl⟩
  | case3 c x t hc _ name' e hrest ih =>
    cases h
    obtain ⟨hpos, htext⟩ := ih hrest
    simp only [Cursor.next_false, Cursor.bump, hc] at hpos htext
    exact ⟨by omega, by rw [hc, htext, List.cons_append]⟩

theorem cutAt?_eq {separator t n x : Text} (h : cutAt? separator t = some (n, x)) :
    t = n ++ separator ++ x := by
  induction t generalizing n with
  | nil => cases h
  | cons c t ih =>
    unfold cutAt? at h
    split at h
    · rename_i hprefix
      cases h
      obtain ⟨w, hw⟩ := List.isPrefixOf_iff_prefix.mp hprefix
      rw [← hw]
      simp
    · cases hcut : cutAt? separator t with
      | none => simp [hcut] at h
      | some q =>
        rw [hcut] at h
        cases h
        rw [ih hcut]
        rfl

/-- A query shows all signs of the name it was made from. -/
theorem holdsSign_propertyQuery {name : Text} (h : (propertyQuery name).holdsSign = false) :
    name.any isClassSign = false := by
  have of_cut {separator n x : Text} (hcut : cutAt? separator name = some (n, x))
      (hs : separator.any isClassSign = false)
      (hnx : (n.any isClassSign || x.any isClassSign) = false) : name.any isClassSign = false := by
    rw [Bool.or_eq_false_iff] at hnx
    rw [cutAt?_eq hcut, List.any_append, List.any_append, hnx.1, hs, hnx.2]
    rfl
  unfold propertyQuery at h
  split at h
  · rename_i hcut
    exact of_cut hcut (by decide) h
  · rename_i hcut
    exact of_cut hcut (by decide) h
  · rename_i hcut
    exact of_cut hcut (by decide) h
  · exact h

theorem readProperty_kept {start : Nat} {negated : Bool} {x : Char} {t : Text}
    (hc : c.rest = x :: t) {p : Primitive} (h : readProperty false start negated c = .ok (p, d))
    (hp : ∀ q, p = .property q → q.query.holdsSign = false) :
    Kept (.escapedInClass n) (.inClass n) c d := by
  have hx : Kept (.escapedInClass n) (.inClass n) c c.bump := .escaped hc
  unfold readProperty at h
  dsimp only at h
  split at h
  · cases h
  · rename_i y t' hd
    split at h
    · rename_i hy
      split at h
      · cases h
      · rename_i hne
        cases h
        subst hy
        obtain ⟨z, t'', hz⟩ := List.exists_cons_of_ne_nil (by simpa using hne)
        obtain rfl := readUntilBrace_stop hz
        obtain ⟨hpos, hname⟩ := readUntilBrace_name (c := c.bump.bump) rfl
        exact (hx.trans (.plain hd (by decide))).trans
          ((Kept.row hpos hname (holdsSign_propertyQuery (hp _ rfl))).trans
            (.plain hz (by decide)))
    · split at h
      · cases h
      · cases h
        exact hx.trans (.plain hd (hp _ rfl))

theorem readBoundary_assertion {v : Bool} {start : Nat} {p : Primitive}
    (h : readBoundary v start c = .ok (p, d)) : ∃ s k, p = .assertion s k := by
  unfold readBoundary at h
  dsimp only at h
  repeat' split at h
  all_goals cases h
  all_goals exact ⟨_, _, rfl⟩

/-- An escape that may stand in a class stays whole unless a property in it has a name with
signs. -/
theorem readEscape_kept {start : Nat} {p : Primitive} (h : readEscape false start c = .ok (p, d))
    (hassertion : ∀ s k, p ≠ .assertion s k)
    (hp : ∀ q, p = .property q → q.query.holdsSign = false) :
    Kept (.escapedInClass n) (.inClass n) c d := by
  unfold readEscape at h
  dsimp only at h
  split at h
  · cases h
  · rename_i x t hc
    split at h
    · cases h
    · split at h
      · exact readProperty_kept hc h hp
      · split at h
        · obtain ⟨s, k, rfl⟩ := readBoundary_assertion h
          exact absurd rfl (hassertion s k)
        · split at h
          · cases h
            exact .escaped hc
          · split at h
            · exact readHex_kept hc h
            · cases h
              exact .escaped hc
            · cases h
              exact .escaped hc
            · cases h
              exact absurd rfl (hassertion _ _)
            · cases h

/-! ### Members and ranges -/

theorem Primitive.leaves_of_toMember {p : Primitive} {t : ClassTree} (h : p.toMember = .ok t) :
    t.leaves = [p] ∧ ∀ s k, p ≠ .assertion s k := by
  cases p with
  | literal | property | shorthand =>
    cases h
    exact ⟨rfl, nofun⟩
  | dot | assertion => cases h

theorem Primitive.eq_of_toBound {p : Primitive} {l : Literal} (h : p.toBound = .ok l) :
    p = .literal l := by
  cases p with
  | literal =>
    cases h
    rfl
  | dot | assertion | property | shorthand => cases h

/-- A member that does not start with a closing bracket stays whole if the only bracket it may
show is a closing one. -/
theorem readClassItem_kept {p : Primitive} {lead : Literal}
    (h : readClassItem false c = .ok (p, d)) (hend : c.rest.head? ≠ some ']')
    (hassertion : ∀ s k, p ≠ .assertion s k) (hlead : lead.char = ']')
    (hp : p.holdsBracket → p = .literal lead) : Kept (.inClass n) (.inClass n) c d := by
  unfold readClassItem at h
  split at h
  · rename_i t hc
    have hescape : Kept (.inClass n) (.escapedInClass n) c c.bump := .bump hc rfl rfl
    refine hescape.trans (readEscape_kept h hassertion ?_)
    rintro q rfl
    rw [← Bool.not_eq_true]
    intro hsign
    cases hp hsign
  · rename_i x t hne hc
    cases h
    refine .plain hc ?_
    rw [hc, List.head?_cons] at hend
    have hx : x ≠ ']' := fun hx => hend (congrArg some hx)
    have hopen : x ≠ '[' := by
      rintro rfl
      cases hp (by simp [Primitive.holdsBracket, Cursor.char])
      cases hlead
    simp only [isClassSign, hx, hopen, decide_false, Bool.or_self, Bool.false_or,
      decide_eq_false_iff_not]
    exact hne
  · cases h

theorem readClassRange_kept {opened : Span} {t : ClassTree} {lead : Literal}
    (h : readClassRange false opened c = .ok (t, d)) (hend : c.rest.head? ≠ some ']')
    (hlead : lead.char = ']') (ht : ∀ p ∈ t.leaves, p.holdsBracket → p = .literal lead) :
    Kept (.inClass n) (.inClass n) c d := by
  unfold readClassRange at h
  obtain ⟨⟨p, e⟩, hlow, h⟩ := bind_eq_ok.mp h
  dsimp only [Cursor.skip_false] at h
  split at h
  · cases h
  · split at h
    · obtain ⟨t', hmember, h⟩ := bind_eq_ok.mp h
      cases h
      obtain ⟨hleaves, hassertion⟩ := Primitive.leaves_of_toMember hmember
      exact readClassItem_kept hlow hend hassertion hlead (ht p (by simp [hleaves]))
    · rename_i hhyphen
      simp only [ne_eq, Bool.or_eq_true, decide_eq_true_eq, not_or, Decidable.not_not] at hhyphen
      obtain ⟨⟨hminus, hbehind⟩, -⟩ := hhyphen
      split at h
      · cases h
      · obtain ⟨⟨q, f⟩, hhigh, h⟩ := bind_eq_ok.mp h
        obtain ⟨low, hp, h⟩ := bind_eq_ok.mp h
        obtain ⟨high, hq, h⟩ := bind_eq_ok.mp h
        dsimp only at h
        split at h
        · cases h
        · cases h
          cases Primitive.eq_of_toBound hp
          cases Primitive.eq_of_toBound hq
          obtain ⟨t', he⟩ := List.head?_eq_some_iff.mp hminus
          have hl := readClassItem_kept (n := n) hlow hend nofun hlead
            (ht _ (by simp [ClassTree.leaves]))
          have hh := readClassItem_kept (n := n) hhigh hbehind nofun hlead
            (ht _ (by simp [ClassTree.leaves]))
          exact hl.trans ((Kept.plain he (by decide)).trans hh)

/-! ### Openings and operators -/

theorem AsciiClass.ofName?_plain {name : Text} {kind : AsciiClass} (h : ofName? name = some kind) :
    name.any isClassSign = false := by
  obtain ⟨q, hq, hkind⟩ := List.exists_of_findSome?_eq_some h
  split at hkind
  · rename_i hname
    subst hname
    clear h hkind
    revert q
    decide
  · cases hkind

theorem takeCaret_append (t : Text) :
    ∃ w, t = w ++ (takeCaret t).2 ∧ w.any isClassSign = false := by
  unfold takeCaret
  split
  · exact ⟨['^'], rfl, by decide⟩
  · exact ⟨[], rfl, rfl⟩

/-- A class in brackets and colons has a plain name and so ends with its own bracket. -/
theorem readAsciiClass?_kept {t : ClassTree} (h : readAsciiClass? c = some (t, d)) :
    Kept (.inClass n) (.inClass n) c d := by
  unfold readAsciiClass? at h
  split at h
  · rename_i t hc
    dsimp only at h
    split at h
    · rename_i rest hr
      split at h
      · cases h
      · rename_i kind hkind
        cases h
        obtain ⟨w, ht, hw⟩ := takeCaret_append t
        have hname := AsciiClass.ofName?_plain hkind
        generalize (takeCaret t).2 = body at ht hr hname
        have hbody : body = body.takeWhile (· ≠ ':') ++ ':' :: ']' :: rest := by
          have htake := List.prefix_iff_eq_take.mp (body.takeWhile_prefix (· ≠ ':'))
          rw [← hr]
          conv => rhs; lhs; rw [htake]
          exact (List.take_append_drop _ body).symm
        generalize body.takeWhile (· ≠ ':') = name at hname hbody
        have hrow : (':' :: w ++ name ++ [':']).any isClassSign = false := by
          simp [hw, hname, show isClassSign ':' = false from rfl]
        have hinner : Carries (.inClass (n + 1)) (':' :: w ++ name ++ [':'] ++ [']'])
            (.inClass n) :=
          (carries_inClass hrow _).append (.cons rfl (.nil _))
        refine ⟨Nat.le_add_right _ _, '[' :: (':' :: w ++ name ++ [':'] ++ [']']), ?_,
          .cons rfl hinner⟩
        rw [hc, ht, hbody]
        simp
    · cases h
  · cases h

theorem readHyphens_kept {start : Span} {m m' : Members}
    (h : readHyphens false start m c = .ok (m', d)) : Kept (.inClass n) (.inClass n) c d := by
  fun_induction readHyphens false start m c with
  | case1 => cases h
  | case2 m c t hc e he ih => exact (Kept.plain hc (by decide)).trans (ih h)
  | case3 =>
    cases h
    exact .refl _ _

theorem readHyphens_of_items {v : Bool} {start : Span} {m m' : Members}
    (h : readHyphens v start m c = .ok (m', d)) (hm : m'.items = []) : m' = m ∧ d = c := by
  fun_induction readHyphens v start m c with
  | case1 => cases h
  | case2 m c t hc e he ih =>
    rw [(ih h).1] at hm
    cases hm
  | case3 =>
    cases h
    exact ⟨rfl, rfl⟩

theorem readHyphens_of_closing {v : Bool} {start : Span} {m : Members}
    (h : c.rest.head? = some ']') : readHyphens v start m c = .ok (m, c) := by
  obtain ⟨t, hc⟩ := List.head?_eq_some_iff.mp h
  unfold readHyphens
  split
  · rename_i hminus
    rw [hc] at hminus
    cases hminus
  · rfl

theorem skipCaret_kept (n : Nat) (c : Cursor) :
    Kept (.inClass n) (.inClass n) c (skipCaret false c).2 := by
  unfold skipCaret
  split
  · rename_i t hc
    exact .plain hc (by decide)
  · exact .refl _ _

/-- What opens a class ends with a closing bracket that counts as a member, or else there is none
behind the bracket and the `^`, and nothing but hyphens is read there. -/
theorem readOpenBracket_cases {o : OpenClass} (h : readOpenBracket false c = .ok (o, d)) :
    let head := skipCaret false c.bump
    o.negated = head.1 ∧
      ((head.2.rest.head? = some ']' ∧ d = head.2.bump ∧
          .literal ⟨head.2.char, ']', false⟩ ∈ o.tree.leaves) ∨
        (head.2.rest.head? ≠ some ']' ∧ ∀ n, Kept (.inClass n) (.inClass n) head.2 d)) := by
  unfold readOpenBracket at h
  dsimp only [Cursor.next_false] at h ⊢
  generalize skipCaret false c.bump = head at h ⊢
  obtain ⟨negated, e⟩ := head
  dsimp only at h ⊢
  split at h
  · cases h
  · split at h
    · cases h
    · obtain ⟨⟨m, f⟩, hhyphens, h⟩ := bind_eq_ok.mp h
      dsimp only at h
      split at h
      · rename_i hfirst
        split at h
        · cases h
        · cases h
          simp only [Bool.and_eq_true, decide_eq_true_eq, List.isEmpty_iff] at hfirst
          obtain ⟨rfl, rfl⟩ := readHyphens_of_items hhyphens hfirst.1
          refine ⟨rfl, .inl ⟨hfirst.2, rfl, ?_⟩⟩
          exact OpenClass.mem_leaves_of_members
            (Members.mem_leaves_add (.inr (List.mem_singleton_self _)))
      · rename_i hfirst
        cases h
        refine ⟨rfl, .inr ⟨?_, fun n => readHyphens_kept hhyphens⟩⟩
        intro hclosing
        rw [readHyphens_of_closing hclosing] at hhyphens
        cases hhyphens
        exact hfirst (by simp [hclosing, Members.none])

theorem classOp?_kept {op : ClassOp} (h : classOp? c.rest = some op) :
    Kept (.inClass n) (.inClass n) c c.bump.bump := by
  have twice {x : Char} {t : Text} (hc : c.rest = x :: x :: t) (hx : isClassSign x = false) :
      Kept (.inClass n) (.inClass n) c c.bump.bump :=
    (Kept.plain hc hx).trans (.plain (by rw [Cursor.bump, hc]) hx)
  unfold classOp? at h
  split at h
  · rename_i hc
    exact twice hc (by decide)
  · rename_i hc
    exact twice hc (by decide)
  · rename_i hc
    exact twice hc (by decide)
  · cases h

/-! ### Whole classes -/

/-- The rest of a class stays whole, and the place behind it is outside, if the only bracket in the
class that stands for itself without a backslash comes first in the outermost one. -/
theorem readClassBody_kept {outer : List OpenClass} {o : OpenClass} {span : Span} {negated : Bool}
    {tree : ClassTree} (h : readClassBody false outer o c = .ok ((span, negated, tree), d))
    {lead : Literal} (hlead : lead.char = ']') (hstart : lead.span.start ≤ c.pos)
    (htree : ∀ p ∈ tree.leaves, p.holdsBracket → p = .literal lead) :
    Kept (.inClass outer.length) .outside c d := by
  fun_induction readClassBody false outer o c with
  | case1 | case3 | case8 => cases h
  | case2 outer o c _ _ _ t e ha _ _ _ ih =>
    have hascii := readAsciiClass?_kept (n := outer.length) ha
    exact hascii.trans (ih h (Nat.le_trans hstart hascii.forth))
  | case4 outer o c _ d' _ _ inner e hr _ hd _ _ ih =>
    have hbracket : Kept (.inClass outer.length) (.inClass (outer.length + 1)) c c.bump :=
      .bump hd rfl rfl
    have hcaret := hbracket.trans (skipCaret_kept _ _)
    obtain ⟨-, ⟨-, he, hmem⟩ | ⟨-, hkept⟩⟩ := readOpenBracket_cases hr
    · -- A leading bracket of an inner class would stand behind the one that is allowed.
      have heq := htree _ (mem_leaves_of_readClassBody h (.inl hmem))
        (by simp [Primitive.holdsBracket, Cursor.char])
      simp only [Primitive.literal.injEq] at heq
      have hafter : c.pos + 1 ≤ (skipCaret false c.bump).2.pos := by
        have hforth := (skipCaret_kept 0 c.bump).forth
        simpa only [Cursor.bump, show c.rest = _ from hd] using hforth
      rw [← heq] at hstart
      exact absurd (Nat.lt_of_lt_of_le hafter hstart) (Nat.lt_irrefl _)
    · have hinner := hcaret.trans (hkept _)
      exact hinner.trans (ih h (Nat.le_trans hstart hinner.forth))
  | case5 o c _ d' _ e hd =>
    rw [← (Prod.mk.inj (Except.ok.inj h)).2]
    exact .bump hd rfl rfl
  | case6 o c _ d' _ e p outer =>
    rename_i hd _ _ ih
    have hbracket : Kept (.inClass (outer.length + 1)) (.inClass outer.length) c c.bump :=
      .bump hd rfl rfl
    exact hbracket.trans (ih h (Nat.le_trans hstart hbracket.forth))
  | case7 outer o c _ d' _ _ _ _ _ _ op hop _ ih =>
    have hsigns := classOp?_kept (n := outer.length) (c := c) hop
    exact hsigns.trans (ih h (Nat.le_trans hstart hsigns.forth))
  | case9 outer o c _ d' x t' hd _ hopen hclose _ t e hr _ ih =>
    have hrange : Kept (.inClass outer.length) (.inClass outer.length) c e := by
      refine readClassRange_kept hr ?_ hlead fun p hp => htree p ?_
      · rw [show c.rest = _ from hd, List.head?_cons]
        exact fun heq => hclose (Option.some.inj heq)
      · exact mem_leaves_of_readClassBody h (.inl (OpenClass.mem_leaves_add (.inr hp)))
    exact hrange.trans (ih h (Nat.le_trans hstart hrange.forth))

theorem Kept.of_inClass {p : Place} {e : Cursor} (h : Kept (.inClass 0) .outside e d)
    (hkeeps : ∀ x, p.keeps x) (hnext : ∀ x ∈ e.rest.head?, p.next x = (Place.inClass 0).next x) :
    Kept p .outside e d := by
  obtain ⟨hpos, u, hu, hcarries⟩ := h
  refine ⟨hpos, u, hu, hcarries.of_inClass hkeeps fun x hx => hnext x ?_⟩
  rw [hu, List.head?_append, hx]
  rfl

theorem skipCaret_pos (c : Cursor) :
    (skipCaret false c).2.pos = c.pos + (skipCaret false c).1.toNat := by
  unfold skipCaret
  split
  · rename_i hc
    simp [Cursor.bump, hc]
  · rfl

/-- What the engine reads as one class is kept by free spacing, and the place behind it is outside,
if a bracket that stands for itself without a backslash comes first in the class. -/
theorem readBracket_kept {t : Text} (hc : c.rest = '[' :: t) {span : Span} {negated : Bool}
    {body : ClassTree} (h : readBracket false c = .ok (.bracketed span negated body, d))
    (hbody : ∀ p ∈ body.leaves, p.holdsBracket → p = leadingBracket c.pos negated) :
    Kept .outside .outside c d := by
  obtain ⟨⟨o, f⟩, hopen, h⟩ := bind_eq_ok.mp h
  obtain ⟨⟨⟨span, negated, body⟩, d⟩, hrest, h⟩ := bind_eq_ok.mp h
  cases h
  obtain ⟨hcaret, hfirst⟩ := readOpenBracket_cases hopen
  have hnegated : negated = (skipCaret false c.bump).1 :=
    (negated_of_readClassBody hrest).trans hcaret
  have hpos : c.pos + 1 + negated.toNat = (skipCaret false c.bump).2.pos := by
    rw [skipCaret_pos, hnegated, Cursor.bump, hc]
  have hbracket : Kept .outside .classHead c c.bump := .bump hc rfl rfl
  have hinside {p : Place} (hkeeps : ∀ x, p.keeps x) (hclosing : p.next ']' = .inClass 0)
      (hnext : ∀ x ∈ (skipCaret false c.bump).2.rest.head?, x ≠ ']' →
        p.next x = (Place.inClass 0).next x) :
      Kept p .outside (skipCaret false c.bump).2 d := by
    rcases hfirst with ⟨hhead, rfl, -⟩ | ⟨hhead, hkept⟩
    · obtain ⟨t', ht⟩ := List.head?_eq_some_iff.mp hhead
      have hmember : Kept p (.inClass 0) _ _ := .bump ht (hkeeps _) hclosing
      exact hmember.trans (readClassBody_kept hrest rfl
        (Nat.le_trans (Nat.le_of_eq hpos) hmember.forth) hbody)
    · have hmembers := hkept 0
      have hclass := hmembers.trans (readClassBody_kept hrest rfl
        (Nat.le_trans (Nat.le_of_eq hpos) hmembers.forth) hbody)
      exact hclass.of_inClass hkeeps fun x hx => hnext x hx fun heq => hhead (heq ▸ hx)
  unfold skipCaret at hinside
  split at hinside
  · rename_i t' hd
    have hsign : Kept .classHead .classCaret c.bump c.bump.bump := .bump hd rfl rfl
    refine hbracket.trans (hsign.trans (hinside (fun _ => rfl) rfl fun x _ hx => ?_))
    simp [Place.next, hx]
  · rename_i hne
    refine hbracket.trans (hinside (fun _ => rfl) rfl fun x hmem hx => ?_)
    have hx' : x ≠ '^' := by
      rintro rfl
      obtain ⟨t', hd⟩ := List.head?_eq_some_iff.mp hmem
      exact hne t' hd
    simp [Place.next, hx, hx']

end Pattern

/-- Whether a text is a class none of whose parts holds a bracket but the one it may start with. -/
def isPlainClass (u : Text) : Bool :=
  match readBracket false ⟨0, u⟩ with
  | .ok (.bracketed _ negated body, ⟨_, []⟩) =>
    body.leaves.all fun p => !p.holdsBracket || p = leadingBracket 0 negated
  | _ => false

theorem exists_of_isPlainClass {u : Text} (h : isPlainClass u) :
    ∃ span negated body stop,
      readBracket false ⟨0, u⟩ = .ok (.bracketed span negated body, ⟨stop, []⟩) ∧
      ∀ p ∈ body.leaves, p.holdsBracket → p = leadingBracket 0 negated := by
  unfold isPlainClass at h
  split at h
  · rename_i span negated body stop hread
    exact ⟨span, negated, body, stop, hread, by simpa [Decidable.imp_iff_not_or] using h⟩
  · cases h

/-- Free spacing leaves a bracketed class as it is and goes on behind it as outside of it, for each
text that the engine reads as one class. The only bracket that may stand for itself without a
backslash is a closing one that comes first in the outermost class, and no property may have a
bracket or a backslash in its name. -/
theorem strip_around_class {a u b rest : Text} {pos stop : Nat} {span : Span} {negated : Bool}
    {body : ClassTree} (ha : placeAfter .outside a = .outside) (hu : u.head? = some '[')
    (hread : readBracket false ⟨pos, u ++ rest⟩ =
      .ok (.bracketed span negated body, ⟨stop, rest⟩))
    (hbody : ∀ p ∈ body.leaves, p.holdsBracket → p = leadingBracket pos negated) :
    strip (a ++ u ++ b) = strip a ++ u ++ strip b := by
  obtain ⟨t, rfl⟩ := List.head?_eq_some_iff.mp hu
  obtain ⟨-, w, hw, hcarries⟩ := readBracket_kept rfl hread hbody
  obtain rfl := List.append_cancel_right hw
  exact strip_append_of_carries ha hcarries

theorem strip_around_class_nested :
    let a := "a # [\n".toList
    let u := "[^] #[[:digit:]&&[x-z\\]]] \\p\x7bL\x7d]".toList
    let b := " + # ]".toList
    placeAfter .outside a = .outside ∧ u.head? = some '[' ∧ ∃ span negated body stop,
      readBracket false ⟨0, u ++ []⟩ = .ok (.bracketed span negated body, ⟨stop, []⟩) ∧
      (∀ p ∈ body.leaves, p.holdsBracket → p = leadingBracket 0 negated) ∧
      strip (a ++ u ++ b) = strip a ++ u ++ strip b := by
  intro a u b
  have ha : placeAfter .outside a = .outside := by decide
  have hplain : isPlainClass (u ++ []) := by decide +kernel
  obtain ⟨span, negated, body, stop, hread, hbody⟩ := exists_of_isPlainClass hplain
  exact ⟨ha, rfl, span, negated, body, stop, hread, hbody, strip_around_class ha rfl hread hbody⟩

/-- A closing bracket that comes first in an inner class ends that class for free spacing, though
not for the engine, so that what follows in the outer one is taken for layout. -/
theorem strip_loses_class_text :
    let u := "[a[]] #]".toList
    (readBracket false ⟨0, u⟩).toOption.map (·.2) = some ⟨8, []⟩ ∧
      strip ([] ++ u ++ []) ≠ strip [] ++ u ++ strip [] := by
  refine ⟨by decide +kernel, by decide⟩

-- An opening bracket that ends a range is taken for an inner class, and layout behind is kept.
example :
    let u := "[A-[]".toList
    (readBracket false ⟨0, u⟩).toOption.map (·.2) = some ⟨5, []⟩ ∧
      strip (u ++ " b".toList) ≠ u ++ strip " b".toList := by
  refine ⟨by decide +kernel, by decide⟩

end RegexLiteral
