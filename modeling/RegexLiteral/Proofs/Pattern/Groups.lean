import RegexLiteral.Pattern.Regex
import RegexLiteral.Proofs.Pattern.Openings

/-!
# The groups of a regex

Bringing an expression into simpler form loses groups at most: a repetition of no time drops its
body, and alternatives may share what they start with. So each group in the table of a regex is one
of the pattern as it is written, and opens in it (`Regex.exists_shown`, `Regex.exists_shown_name`).
-/
namespace RegexLiteral.Pattern

variable {p : Nat × Option Text}

namespace Expr

theorem mem_capturesAll {es : List Expr} :
    p ∈ capturesAll es ↔ ∃ e ∈ es, p ∈ e.captures := by
  induction es with
  | nil => simp [capturesAll]
  | cons e es ih => simp [capturesAll, ih]

theorem capturesAll_mono {es fs : List Expr} (h : ∀ e ∈ es, e ∈ fs) (hp : p ∈ capturesAll es) :
    p ∈ capturesAll fs := by
  obtain ⟨e, he, hp⟩ := mem_capturesAll.mp hp
  exact mem_capturesAll.mpr ⟨e, h e he, hp⟩

theorem captures_ofSet (s : CharSet) : (ofSet s).captures = [] := by
  unfold ofSet
  split <;> rfl

theorem mem_of_captures_repeated {min : Nat} {max : Option Nat} {greedy : Bool} {body : Expr}
    (hp : p ∈ (repeated min max greedy body).captures) : p ∈ body.captures := by
  unfold repeated at hp
  dsimp only at hp
  generalize (if body.maxLength = some 0 then min.min 1 else min) = low at hp
  generalize (if body.maxLength = some 0 then some ((max.getD 1).min 1) else max) = high at hp
  split at hp
  · cases hp
  · split at hp
    · exact hp
    · exact hp

theorem mem_of_capturesAll_mergeTexts {es : List Expr} (hp : p ∈ capturesAll (mergeTexts es)) :
    p ∈ capturesAll es := by
  fun_induction mergeTexts es with
  | case1 => exact hp
  | case2 t rest u more hmerge ih =>
    rw [hmerge] at ih
    exact ih hp
  | case3 t rest hmore ih => exact ih hp
  | case4 e rest he ih =>
    simp only [capturesAll, List.mem_append] at hp ⊢
    exact hp.imp_right ih

/-- Taking expressions apart adds no groups. -/
theorem mem_of_capturesAll_flatMap {f : Expr → List Expr}
    (hf : ∀ e, p ∈ capturesAll (f e) → p ∈ e.captures) {es : List Expr}
    (hp : p ∈ capturesAll (es.flatMap f)) : p ∈ capturesAll es := by
  obtain ⟨e', he', hp⟩ := mem_capturesAll.mp hp
  obtain ⟨e, he, he'⟩ := List.mem_flatMap.mp he'
  exact mem_capturesAll.mpr ⟨e, he, hf e (mem_capturesAll.mpr ⟨e', he', hp⟩)⟩

theorem mem_of_capturesAll_parts {e : Expr} (hp : p ∈ capturesAll e.parts) : p ∈ e.captures := by
  unfold parts at hp
  split at hp
  · cases hp
  · exact hp
  · simpa [capturesAll] using hp

theorem mem_of_captures_inSequence {es : List Expr} (hp : p ∈ (inSequence es).captures) :
    p ∈ capturesAll es := by
  unfold inSequence at hp
  refine mem_of_capturesAll_flatMap (fun e => mem_of_capturesAll_parts)
    (mem_of_capturesAll_mergeTexts ?_)
  split at hp
  · cases hp
  · rename_i e hmerge
    rw [hmerge]
    simpa [capturesAll] using hp
  · exact hp

theorem mem_of_capturesAll_flatten {es : List Expr} (hp : p ∈ capturesAll (flatten es)) :
    p ∈ capturesAll es := by
  refine mem_of_capturesAll_flatMap (fun e he => ?_) hp
  split at he
  · exact he
  · simpa [capturesAll] using he

theorem captures_of_mergeSets {es : List Expr} {e : Expr} (h : mergeSets es = some e) :
    e.captures = [] := by
  unfold mergeSets at h
  split at h
  · cases h
    exact captures_ofSet _
  · cases h
    exact captures_ofSet _
  · cases h

theorem mem_of_captures_firstOf {es : List Expr} (hp : p ∈ (firstOf es).captures) :
    p ∈ capturesAll es := by
  unfold firstOf at hp
  refine mem_of_capturesAll_flatten ?_
  split at hp
  · cases hp
  · rename_i e hflat
    rw [hflat]
    simpa [capturesAll] using hp
  · cases hsets : mergeSets (flatten es) with
    | none =>
      rw [hsets] at hp
      exact hp
    | some e =>
      rw [hsets, Option.getD_some, captures_of_mergeSets hsets] at hp
      cases hp

theorem commonStart_subset (as bs : List Expr) : ∀ e ∈ commonStart as bs, e ∈ as := by
  fun_induction commonStart as bs with
  | case1 a as b bs hab ih =>
    intro e he
    rcases List.mem_cons.mp he with rfl | he
    · exact List.mem_cons_self ..
    · exact List.mem_cons_of_mem _ (ih e he)
  | case2 => nofun
  | case3 => nofun

theorem foldl_commonStart_subset (others : List (List Expr)) (first : List Expr) :
    ∀ e ∈ others.foldl commonStart first, e ∈ first := by
  induction others generalizing first with
  | nil => exact fun e he => he
  | cons other others ih => exact fun e he => commonStart_subset _ _ e (ih _ e he)

theorem mem_of_forAll?_items? {branches : List Expr} {all : List (List Expr)}
    (h : forAll? items? branches = some all) {items : List Expr} (hi : items ∈ all) :
    .concat items ∈ branches := by
  induction branches generalizing all with
  | nil =>
    cases h
    cases hi
  | cons b branches ih =>
    simp only [forAll?, Option.bind_eq_some_iff, Option.map_eq_some_iff] at h
    obtain ⟨first, hfirst, others, hothers, rfl⟩ := h
    rcases List.mem_cons.mp hi with rfl | hi
    · unfold items? at hfirst
      split at hfirst
      · cases hfirst
        exact List.mem_cons_self ..
      · cases hfirst
    · exact List.mem_cons_of_mem _ (ih hothers hi)

/-- What branches share is part of one of them. -/
theorem mem_of_capturesAll_sharedStart {branches : List Expr}
    (hp : p ∈ capturesAll (sharedStart branches)) : p ∈ capturesAll branches := by
  unfold sharedStart at hp
  split at hp
  · rename_i first others hall
    have hfirst := capturesAll_mono (foldl_commonStart_subset others first) hp
    exact mem_capturesAll.mpr
      ⟨.concat first, mem_of_forAll?_items? hall (List.mem_cons_self ..), hfirst⟩
  · cases hp

theorem mem_of_capturesAll_items? {b : Expr} {n : Nat}
    (hp : p ∈ capturesAll ((b.items?.getD []).drop n)) : p ∈ b.captures := by
  have hall := capturesAll_mono (fun e he => List.mem_of_mem_drop he) hp
  unfold items? at hall
  split at hall
  · exact hall
  · cases hall

theorem mem_of_captures_anyOf {es : List Expr} (hp : p ∈ (anyOf es).captures) :
    p ∈ capturesAll es := by
  refine mem_of_captures_firstOf ?_
  unfold anyOf at hp
  split at hp
  · rename_i branches hfirst
    rw [hfirst]
    split at hp
    · exact hp
    · obtain ⟨e, he, hp⟩ := mem_capturesAll.mp (mem_of_captures_inSequence hp)
      rcases List.mem_append.mp he with he | he
      · exact mem_of_capturesAll_sharedStart (mem_capturesAll.mpr ⟨e, he, hp⟩)
      · rw [List.mem_singleton.mp he] at hp
        obtain ⟨f, hf, hp⟩ := mem_capturesAll.mp (mem_of_captures_firstOf hp)
        obtain ⟨b, hb, rfl⟩ := List.mem_map.mp hf
        exact mem_capturesAll.mpr
          ⟨b, hb, mem_of_capturesAll_items? (mem_of_captures_inSequence hp)⟩
  · exact hp

end Expr

theorem Settings.captures_of_literalExpr {s : Settings} {l : Literal} {e : Expr}
    (h : s.literalExpr l = .ok e) : e.captures = [] := by
  unfold literalExpr at h
  obtain ⟨c, -, h⟩ := bind_eq_ok.mp h
  split at h
  · cases h
    rfl
  · split at h
    · rw [← Except.ok.inj h]
      split
      · exact Expr.captures_ofSet _
      · rfl
    · rw [← Except.ok.inj h]
      split
      · exact Expr.captures_ofSet _
      · rfl

theorem Settings.captures_of_dotExpr {s : Settings} {span : Span} {e : Expr}
    (h : s.dotExpr span = .ok e) : e.captures = [] := by
  unfold dotExpr at h
  split at h
  · cases h
  · split at h
    · cases h
      rfl
    · split at h <;> cases h <;> rfl

mutual

/-- The groups of what a pattern means are groups of the pattern. -/
theorem Ast.mem_of_captures_meaning {s s' : Settings} {e : Expr} :
    (a : Ast) → a.meaning s = .ok (e, s') → p ∈ e.captures → p ∈ a.captures
  | .empty _, h, hp => by
    cases h
    cases hp
  | .flags _ items, h, hp => by
    cases h
    cases hp
  | .literal l, h, hp => by
    obtain ⟨f, hf, h⟩ := bind_eq_ok.mp h
    cases h
    rw [Settings.captures_of_literalExpr hf] at hp
    cases hp
  | .dot span, h, hp => by
    obtain ⟨f, hf, h⟩ := bind_eq_ok.mp h
    cases h
    rw [Settings.captures_of_dotExpr hf] at hp
    cases hp
  | .assertion _ kind, h, hp => by
    cases h
    cases hp
  | .property q, h, hp => by
    obtain ⟨cs, -, h⟩ := bind_eq_ok.mp h
    cases h
    rw [Expr.captures_ofSet] at hp
    cases hp
  | .shorthand span kind negated, h, hp => by
    obtain ⟨cs, -, h⟩ := bind_eq_ok.mp h
    cases h
    rw [Expr.captures_ofSet] at hp
    cases hp
  | .bracketed span negated body, h, hp => by
    obtain ⟨cs, -, h⟩ := bind_eq_ok.mp h
    obtain ⟨ds, -, h⟩ := bind_eq_ok.mp h
    cases h
    rw [Expr.captures_ofSet] at hp
    cases hp
  | .repetition _ min max greedy body, h, hp => by
    obtain ⟨⟨f, s''⟩, hbody, h⟩ := bind_eq_ok.mp h
    cases h
    exact body.mem_of_captures_meaning hbody (Expr.mem_of_captures_repeated hp)
  | .group _ (.capture index name) body, h, hp => by
    obtain ⟨⟨f, s''⟩, hbody, h⟩ := bind_eq_ok.mp h
    cases h
    rcases List.mem_cons.mp hp with rfl | hp
    · exact List.mem_cons_self ..
    · exact List.mem_cons_of_mem _ (body.mem_of_captures_meaning hbody hp)
  | .group _ (.plain items) body, h, hp => by
    obtain ⟨⟨f, s''⟩, hbody, h⟩ := bind_eq_ok.mp h
    cases h
    exact body.mem_of_captures_meaning hbody hp
  | .alternation _ branches, h, hp => by
    obtain ⟨⟨fs, s''⟩, hbranches, h⟩ := bind_eq_ok.mp h
    cases h
    exact Ast.mem_of_captures_meanings branches hbranches (Expr.mem_of_captures_anyOf hp)
  | .concat _ items, h, hp => by
    obtain ⟨⟨fs, s''⟩, hitems, h⟩ := bind_eq_ok.mp h
    cases h
    exact Ast.mem_of_captures_meanings items hitems (Expr.mem_of_captures_inSequence hp)

theorem Ast.mem_of_captures_meanings {s s' : Settings} {es : List Expr} :
    (as : List Ast) → Ast.meanings s as = .ok (es, s') → p ∈ Expr.capturesAll es →
      p ∈ Ast.capturesAll as
  | [], h, hp => by
    cases h
    cases hp
  | a :: as, h, hp => by
    obtain ⟨⟨e, s₁⟩, hfirst, h⟩ := bind_eq_ok.mp h
    obtain ⟨⟨es', s₂⟩, hrest, h⟩ := bind_eq_ok.mp h
    cases h
    rcases List.mem_append.mp hp with hp | hp
    · exact List.mem_append_left _ (a.mem_of_captures_meaning hfirst hp)
    · exact List.mem_append_right _ (Ast.mem_of_captures_meanings as hrest hp)

end

namespace Regex

theorem compile_ok {t : Text} {r : Regex} (h : compile t = .ok r) :
    ∃ a e s, parse t = .ok a ∧ a.meaning {} = .ok (e, s) ∧ r.groupNames = e.groupNames := by
  unfold compile at h
  dsimp only at h
  split at h
  · cases h
  · rename_i e s hparsed
    split at h
    · cases h
    · cases h
      obtain ⟨a, ha, hmeaning⟩ := bind_eq_ok.mp hparsed
      exact ⟨a, e, s, ha, hmeaning, rfl⟩

/-- A group in the table of a regex is one of its pattern. -/
theorem shown_of_captures {t : Text} {a : Ast} {e : Expr} {s : Settings} (ha : parse t = .ok a)
    (he : a.meaning {} = .ok (e, s)) : ∀ p ∈ e.captures, Shown t p :=
  fun p hp => parse_shown ha p (a.mem_of_captures_meaning he hp)

/-- If a regex has groups besides the whole match, some group opens in its pattern. -/
theorem exists_shown {t : Text} {r : Regex} (h : compile t = .ok r) (hr : 0 < r.groupCount) :
    ∃ p, Shown t p := by
  obtain ⟨a, e, s, ha, he, hnames⟩ := compile_ok h
  cases hfound : e.captures with
  | nil =>
    rw [groupCount, hnames, Expr.groupNames, hfound] at hr
    simp at hr
  | cons p found =>
    exact ⟨p, shown_of_captures ha he p (hfound ▸ List.mem_cons_self ..)⟩

/-- If a group of a regex has a name, some named group opens in its pattern. It is not the whole
match, so that there are groups besides that. -/
theorem exists_shown_name {t : Text} {r : Regex} (h : compile t = .ok r)
    (hr : r.groupNames.any Option.isSome) :
    0 < r.groupCount ∧ ∃ p name, p.2 = some name ∧ Shown t p := by
  obtain ⟨a, e, s, ha, he, hnames⟩ := compile_ok h
  rw [hnames, Expr.groupNames] at hr
  simp only [List.any_map, List.any_eq_true, List.mem_range, Function.comp_apply] at hr
  obtain ⟨i, hi, hname⟩ := hr
  obtain ⟨name, hname⟩ := Option.isSome_iff_exists.mp hname
  have hlookup : e.captures.lookup i = some (some name) := by
    cases hl : e.captures.lookup i with
    | none => simp [hl] at hname
    | some n => simpa [hl] using hname
  obtain ⟨l₁, l₂, hfound, -⟩ := List.lookup_eq_some_iff.mp hlookup
  have hshown := shown_of_captures ha he (i, some name) (by simp [hfound])
  refine ⟨?_, (i, some name), name, rfl, hshown⟩
  rw [groupCount, hnames, Expr.groupNames, List.length_map, List.length_range]
  have hpos := hshown.1
  omega

end Regex
end RegexLiteral.Pattern
