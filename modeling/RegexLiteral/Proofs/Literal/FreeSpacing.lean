import RegexLiteral.Proofs.Literal.Classes

/-!
# Parts of free-spacing texts

A free-spacing text can be told part by part, without places: layout is white space and whole
comments, and any other part is an escape, a bracketed class or a single character (`Strips`). A
scan of a text ends outside classes and comments, and behind no lone backslash, if and only if the
text is a row of such parts, and then `strip` leaves all of them but the layout (`strips_iff`).
Nothing carries over from one part to the next. Main statement: a row of parts is stripped apart from what
follows it, and layout behind it does not count (`strip_compositional`).
-/
namespace RegexLiteral.Layout

open Pattern (isClassSign)

/-! ### Layout and parts -/

/-- White space and comments with the line feeds that end them. -/
inductive IsLayout : Text → Prop
  | nil : IsLayout []
  | space {c : Char} {w : Text} (hc : isSpace c) (hw : IsLayout w) : IsLayout (c :: w)
  | comment {t w : Text} (ht : '\n' ∉ t) (hw : IsLayout w) : IsLayout ('#' :: t ++ '\n' :: w)

/-- The rest of a class with `outer` further ones around it, up to the bracket that closes the
outermost of them. -/
inductive ClassRest : Nat → Text → Prop
  | close : ClassRest 0 [']']
  | closeInner {outer : Nat} {t : Text} (ht : ClassRest outer t) : ClassRest (outer + 1) (']' :: t)
  | openInner {outer : Nat} {t : Text} (ht : ClassRest (outer + 1) t) : ClassRest outer ('[' :: t)
  | escape {outer : Nat} {t : Text} (c : Char) (ht : ClassRest outer t) :
      ClassRest outer ('\\' :: c :: t)
  | member {outer : Nat} {c : Char} {t : Text} (hc : isClassSign c = false)
      (ht : ClassRest outer t) : ClassRest outer (c :: t)

/-- A part that is no layout. A class may start with a `^`, and a closing bracket that comes first
in it, or first behind the `^`, is a member. -/
inductive IsPart : Text → Prop
  | plain {c : Char} (hc : c ∉ ['#', '[', '\\']) (hspace : isSpace c = false) : IsPart [c]
  | escape (c : Char) : IsPart ['\\', c]
  | bracketed {t : Text} (hcaret : t.head? ≠ some '^') (hclosing : t.head? ≠ some ']')
      (ht : ClassRest 0 t) : IsPart ('[' :: t)
  | leading {t : Text} (ht : ClassRest 0 t) : IsPart ('[' :: ']' :: t)
  | negated {t : Text} (hclosing : t.head? ≠ some ']') (ht : ClassRest 0 t) :
      IsPart ('[' :: '^' :: t)
  | negatedLeading {t : Text} (ht : ClassRest 0 t) : IsPart ('[' :: '^' :: ']' :: t)

/-- A row of parts and what is left of it without the layout. -/
inductive Strips : Text → Text → Prop
  | nil : Strips [] []
  | layout {w t u : Text} (hw : IsLayout w) (h : Strips t u) : Strips (w ++ t) u
  | part {k t u : Text} (hk : IsPart k) (h : Strips t u) : Strips (k ++ t) (k ++ u)

/-! ### Parts are scanned as they are told -/

/-- Stripping a text from place `p` leaves nothing and ends at place `q`. -/
def Drops (p : Place) (t : Text) (q : Place) : Prop := placeAfter p t = q ∧ stripFrom p t = []

namespace Drops

variable {p q r : Place} {t w : Text}

theorem nil (p : Place) : Drops p [] p := ⟨rfl, rfl⟩

theorem cons {x : Char} (hx : p.keeps x = false) (h : Drops (p.next x) t q) :
    Drops p (x :: t) q := by
  constructor
  · exact h.1
  · rw [stripFrom, hx, if_neg Bool.false_ne_true, h.2]

theorem append (h : Drops p t q) (h' : Drops q w r) : Drops p (t ++ w) r := by
  constructor
  · rw [placeAfter_append, h.1, h'.1]
  · rw [stripFrom_append, h.1, h.2, h'.2, List.append_nil]

end Drops

/-- A comment goes on up to a line feed. -/
theorem drops_comment {t : Text} (ht : '\n' ∉ t) : Drops .comment t .comment := by
  induction t with
  | nil => exact .nil _
  | cons x t ih =>
    have hx : x ≠ '\n' := fun hx => ht (hx ▸ List.mem_cons_self ..)
    have hnext : Place.comment.next x = .comment := if_neg hx
    have hrest := ih (List.not_mem_of_not_mem_cons ht)
    refine .cons rfl ?_
    rw [hnext]
    exact hrest

theorem next_outside_of_isSpace {c : Char} (hc : isSpace c) : Place.outside.next c = .outside := by
  simp only [isSpace, decide_eq_true_eq, List.mem_cons, List.not_mem_nil, or_false] at hc
  rcases hc with rfl | rfl | rfl | rfl | rfl | rfl <;> decide

theorem IsLayout.drops {w : Text} (hw : IsLayout w) : Drops .outside w .outside := by
  induction hw with
  | nil => exact .nil _
  | @space c w hc _ ih =>
    have hdropped : Place.outside.keeps c = false := by simp [Place.keeps, hc]
    refine .cons hdropped ?_
    rw [next_outside_of_isSpace hc]
    exact ih
  | @comment t w ht _ ih =>
    have hsign : Drops .outside ['#'] .comment := .cons rfl (.nil _)
    have hline : Drops .comment ['\n'] .outside := .cons rfl (.nil _)
    have hcomment := (hsign.append (drops_comment ht)).append (hline.append ih)
    exact hcomment

theorem ClassRest.carries {outer : Nat} {t : Text} (h : ClassRest outer t) :
    Carries (.inClass outer) t .outside := by
  induction h with
  | close => exact .cons rfl (.nil _)
  | closeInner _ ih => exact .cons rfl ih
  | openInner _ ih => exact .cons rfl ih
  | escape c _ ih => exact .cons rfl (.cons rfl ih)
  | member hc _ ih =>
    refine .cons rfl ?_
    rw [Place.next_inClass hc]
    exact ih

theorem ClassRest.ne_nil {outer : Nat} {t : Text} (h : ClassRest outer t) : t ≠ [] := by
  cases h <;> exact List.cons_ne_nil _ _

/-- Behind the opening of a class only what may come first there is not as inside. -/
theorem next_classCaret {x : Char} (hx : x ≠ ']') :
    Place.classCaret.next x = (Place.inClass 0).next x := if_neg hx

theorem next_classHead {x : Char} (hcaret : x ≠ '^') (hclosing : x ≠ ']') :
    Place.classHead.next x = (Place.inClass 0).next x := by
  simp only [Place.next, if_neg hcaret, if_neg hclosing]

theorem IsPart.carries {k : Text} (hk : IsPart k) : Carries .outside k .outside := by
  cases hk with
  | @plain c hc hspace =>
    simp only [List.mem_cons, List.not_mem_nil, or_false, not_or] at hc
    obtain ⟨hnumber, hopening, hbackslash⟩ := hc
    have hkept : Place.outside.keeps c := by simp [Place.keeps, hnumber, hspace]
    have hnext : Place.outside.next c = .outside := by
      simp [Place.next, hnumber, hopening, hbackslash]
    refine .cons hkept ?_
    rw [hnext]
    exact .nil _
  | escape c => exact .cons rfl (.cons rfl (.nil _))
  | @bracketed t hcaret hclosing ht =>
    have hinside : Carries .classHead t .outside := by
      refine ht.carries.of_inClass (fun _ => rfl) fun x hx => next_classHead ?_ ?_
      · exact fun heq => hcaret (heq ▸ hx)
      · exact fun heq => hclosing (heq ▸ hx)
    exact .cons rfl hinside
  | leading ht => exact .cons rfl (.cons rfl ht.carries)
  | @negated t hclosing ht =>
    have hinside : Carries .classCaret t .outside := by
      refine ht.carries.of_inClass (fun _ => rfl) fun x hx => next_classCaret ?_
      exact fun heq => hclosing (heq ▸ hx)
    exact .cons rfl (.cons rfl hinside)
  | negatedLeading ht => exact .cons rfl (.cons rfl (.cons rfl ht.carries))

theorem Strips.scanned {t u : Text} (h : Strips t u) :
    placeAfter .outside t = .outside ∧ strip t = u := by
  induction h with
  | nil => exact ⟨rfl, rfl⟩
  | layout hw _ ih =>
    have hdrops := hw.drops
    constructor
    · rw [placeAfter_append, hdrops.1, ih.1]
    · rw [strip_append_of_outside hdrops.1, strip, hdrops.2, List.nil_append, ih.2]
  | part hk _ ih =>
    have hcarries := hk.carries
    constructor
    · rw [placeAfter_append, hcarries.1, ih.1]
    · rw [strip_append_of_outside hcarries.1, strip, hcarries.2, ih.2]

/-! ### What is scanned to the outside is a row of parts -/

theorem exists_line {t : Text} (h : placeAfter .comment t = .outside) :
    ∃ w rest, t = w ++ '\n' :: rest ∧ '\n' ∉ w ∧ placeAfter .outside rest = .outside := by
  induction t with
  | nil => cases h
  | cons x t ih =>
    by_cases hx : x = '\n'
    · subst hx
      exact ⟨[], t, rfl, List.not_mem_nil, h⟩
    · have hnext : Place.comment.next x = .comment := if_neg hx
      replace h : placeAfter (Place.comment.next x) t = .outside := h
      rw [hnext] at h
      obtain ⟨w, rest, rfl, hw, hrest⟩ := ih h
      refine ⟨x :: w, rest, rfl, ?_, hrest⟩
      rw [List.mem_cons, not_or]
      exact ⟨Ne.symm hx, hw⟩

theorem exists_classRest (outer : Nat) {t : Text} (h : placeAfter (.inClass outer) t = .outside) :
    ∃ k rest, t = k ++ rest ∧ ClassRest outer k ∧ placeAfter .outside rest = .outside := by
  match t with
  | [] => cases h
  | x :: t =>
    replace h : placeAfter ((Place.inClass outer).next x) t = .outside := h
    by_cases hsign : isClassSign x = false
    · rw [Place.next_inClass hsign] at h
      obtain ⟨k, rest, rfl, hk, hrest⟩ := exists_classRest outer h
      exact ⟨x :: k, rest, rfl, .member hsign hk, hrest⟩
    · have hx : (x = '[' ∨ x = ']') ∨ x = '\\' := by
        rw [Bool.not_eq_false] at hsign
        simpa [isClassSign] using hsign
      rcases hx with (rfl | rfl) | rfl
      · obtain ⟨k, rest, rfl, hk, hrest⟩ := exists_classRest (outer + 1) h
        exact ⟨'[' :: k, rest, rfl, .openInner hk, hrest⟩
      · cases outer with
        | zero => exact ⟨[']'], t, rfl, .close, h⟩
        | succ outer =>
          obtain ⟨k, rest, rfl, hk, hrest⟩ := exists_classRest outer h
          exact ⟨']' :: k, rest, rfl, .closeInner hk, hrest⟩
      · cases t with
        | nil => cases h
        | cons c t =>
          obtain ⟨k, rest, rfl, hk, hrest⟩ := exists_classRest outer h
          exact ⟨'\\' :: c :: k, rest, rfl, .escape c hk, hrest⟩
termination_by t.length

/-- The rest of a class has the first character of all that follows. -/
theorem ClassRest.head?_append {outer : Nat} {k : Text} (hk : ClassRest outer k) (rest : Text) :
    (k ++ rest).head? = k.head? := by
  obtain ⟨x, k, rfl⟩ := List.exists_cons_of_ne_nil hk.ne_nil
  rfl

theorem exists_class {t : Text} (h : placeAfter .classHead t = .outside) :
    ∃ k rest, '[' :: t = k ++ rest ∧ IsPart k ∧ placeAfter .outside rest = .outside := by
  cases t with
  | nil => cases h
  | cons x t =>
    replace h : placeAfter (Place.classHead.next x) t = .outside := h
    by_cases hclosing : x = ']'
    · subst hclosing
      obtain ⟨k, rest, rfl, hk, hrest⟩ := exists_classRest 0 h
      exact ⟨_, rest, rfl, .leading hk, hrest⟩
    by_cases hcaret : x = '^'
    · subst hcaret
      cases t with
      | nil => cases h
      | cons y t =>
        replace h : placeAfter (Place.classCaret.next y) t = .outside := h
        by_cases hy : y = ']'
        · subst hy
          obtain ⟨k, rest, rfl, hk, hrest⟩ := exists_classRest 0 h
          exact ⟨_, rest, rfl, .negatedLeading hk, hrest⟩
        · rw [next_classCaret hy] at h
          obtain ⟨k, rest, hkrest, hk, hrest⟩ := exists_classRest 0 (t := y :: t) h
          have hhead := hk.head?_append rest
          rw [← hkrest] at hhead
          refine ⟨'[' :: '^' :: k, rest, by rw [hkrest]; rfl, .negated ?_ hk, hrest⟩
          rw [← hhead]
          exact fun heq => hy (Option.some.inj heq)
    · rw [next_classHead hcaret hclosing] at h
      obtain ⟨k, rest, hkrest, hk, hrest⟩ := exists_classRest 0 (t := x :: t) h
      have hhead := hk.head?_append rest
      rw [← hkrest] at hhead
      refine ⟨'[' :: k, rest, by rw [hkrest]; rfl, .bracketed ?_ ?_ hk, hrest⟩
      · rw [← hhead]
        exact fun heq => hcaret (Option.some.inj heq)
      · rw [← hhead]
        exact fun heq => hclosing (Option.some.inj heq)

/-- A text that is scanned to the outside starts with a part. -/
theorem exists_part {x : Char} {t : Text} (h : placeAfter .outside (x :: t) = .outside) :
    ∃ k rest, x :: t = k ++ rest ∧ k ≠ [] ∧ (IsPart k ∨ IsLayout k) ∧
      placeAfter .outside rest = .outside := by
  replace h : placeAfter (Place.outside.next x) t = .outside := h
  by_cases hspace : isSpace x
  · rw [next_outside_of_isSpace hspace] at h
    exact ⟨[x], t, rfl, List.cons_ne_nil _ _, .inr (.space hspace .nil), h⟩
  by_cases hsign : x ∈ ['#', '[', '\\']
  · simp only [List.mem_cons, List.not_mem_nil, or_false] at hsign
    rcases hsign with rfl | rfl | rfl
    · obtain ⟨w, rest, rfl, hw, hrest⟩ := exists_line h
      refine ⟨'#' :: w ++ ['\n'], rest, ?_, List.cons_ne_nil _ _, .inr (.comment hw .nil), hrest⟩
      rw [List.append_assoc, List.cons_append, List.singleton_append]
    · obtain ⟨k, rest, hkrest, hk, hrest⟩ := exists_class h
      refine ⟨k, rest, hkrest, ?_, .inl hk, hrest⟩
      cases hk <;> exact List.cons_ne_nil _ _
    · cases t with
      | nil => cases h
      | cons c t => exact ⟨['\\', c], t, rfl, List.cons_ne_nil _ _, .inl (.escape c), h⟩
  · have hplain : IsPart [x] := .plain hsign (by simpa using hspace)
    simp only [List.mem_cons, List.not_mem_nil, or_false, not_or] at hsign
    obtain ⟨hnumber, hopening, hbackslash⟩ := hsign
    have hnext : Place.outside.next x = .outside := by
      simp [Place.next, hnumber, hopening, hbackslash]
    rw [hnext] at h
    exact ⟨[x], t, rfl, List.cons_ne_nil _ _, .inl hplain, h⟩

theorem exists_strips {t : Text} (h : placeAfter .outside t = .outside) : ∃ u, Strips t u := by
  match t with
  | [] => exact ⟨[], .nil⟩
  | x :: t =>
    obtain ⟨k, rest, hkrest, hne, hk, hrest⟩ := exists_part h
    have hshorter : rest.length < (x :: t).length := by
      have hpos := List.length_pos_iff.mpr hne
      rw [hkrest, List.length_append]
      omega
    obtain ⟨u, hu⟩ := exists_strips hrest
    rw [hkrest]
    rcases hk with hpart | hlayout
    · exact ⟨k ++ u, .part hpart hu⟩
    · exact ⟨u, .layout hlayout hu⟩
termination_by t.length
decreasing_by exact hshorter

/-- What places say of a text is what its parts say. -/
theorem strips_iff {t u : Text} :
    Strips t u ↔ placeAfter .outside t = .outside ∧ strip t = u := by
  constructor
  · exact Strips.scanned
  · intro ⟨hplace, hstrip⟩
    obtain ⟨v, hv⟩ := exists_strips hplace
    have hleft := hv.scanned.2
    rw [hstrip] at hleft
    rw [hleft]
    exact hv

/-- A text whose scan ends outside classes and comments and behind no lone backslash is a row of
parts, and any text that follows it is stripped on its own. So it makes no difference whether layout
stands between the two. -/
theorem strip_compositional (a : Text) :
    (placeAfter .outside a = .outside ↔ ∃ u, Strips a u) ∧
    ∀ u, Strips a u → strip a = u ∧
      ∀ b, strip (a ++ b) = strip a ++ strip b ∧
        ∀ w, IsLayout w → strip (a ++ w ++ b) = strip (a ++ b) := by
  constructor
  · constructor
    · exact exists_strips
    · intro ⟨u, hu⟩
      exact hu.scanned.1
  · intro u hu
    obtain ⟨hplace, hstrip⟩ := hu.scanned
    refine ⟨hstrip, fun b => ⟨strip_append_of_outside hplace b, fun w hw => ?_⟩⟩
    have hdrops := hw.drops
    calc strip (a ++ w ++ b)
      _ = strip a ++ strip (w ++ b) := by rw [List.append_assoc, strip_append_of_outside hplace]
      _ = strip a ++ (strip w ++ strip b) := by rw [strip_append_of_outside hdrops.1]
      _ = strip a ++ strip b := by rw [strip, strip, hdrops.2, List.nil_append, ← strip]
      _ = strip (a ++ b) := (strip_append_of_outside hplace b).symm

/-- A class with a number sign in it, an escaped bracket and a comment with a bracket and a
backslash in it end outside, so a comment behind them does not count. -/
theorem strip_compositional_comment :
    let a := "[^] #[a]] \\[ # [ \\\n".toList
    let w := "\t# ]\\\r\n".toList
    let b := "b # c".toList
    Strips a "[^] #[a]]\\[".toList ∧ IsLayout w ∧ strip a = "[^] #[a]]\\[".toList ∧
      strip (a ++ b) = strip a ++ strip b ∧ strip (a ++ w ++ b) = strip (a ++ b) := by
  intro a w b
  have ha : Strips a "[^] #[a]]\\[".toList := strips_iff.mpr (by decide +kernel)
  have hw : IsLayout w := .space (by decide) (.comment (t := " ]\\\r".toList) (by decide) .nil)
  obtain ⟨hstrip, hbehind⟩ := (strip_compositional a).2 _ ha
  obtain ⟨happend, hlayout⟩ := hbehind b
  exact ⟨ha, hw, hstrip, happend, hlayout w hw⟩

end RegexLiteral.Layout
