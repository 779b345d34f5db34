import RegexLiteral.Pattern.Bracket
import RegexLiteral.Pattern.Count
import RegexLiteral.Pattern.GroupHead
import RegexLiteral.Proofs.Pattern.Passing

/-!
# The readers of parts pass whole escapes

For each reader of an escape, a bracketed class, a count and the head of a group: where it stops,
nothing is escaped (`Passes`). Readers of texts in braces and of names come with the character they
stop at, since what they pass is arbitrary.
-/
namespace RegexLiteral.Pattern

open RegexLiteral.Unicode (hexValue?)

/-! ### Escapes -/

theorem ne_backslash_of_hexValue? {x : Char} {n : Nat} (h : hexValue? x = some n) : x ≠ '\\' := by
  rintro rfl
  have hnone : hexValue? '\\' = none := by decide
  rw [hnone] at h
  cases h

theorem readHexDigits_passes (v : Bool) (n : Nat) (c : Cursor) :
    Passes false c (readHexDigits v n c) := by
  induction n generalizing c with
  | zero => exact .ok _ (.refl c)
  | succ n ih =>
    unfold readHexDigits
    split
    · exact .refuse _ _ _ _
    · rename_i x r hc
      split
      · exact .refuse _ _ _ _
      · rename_i d hd
        refine .bind ((ih _).mono (.next hc (ne_backslash_of_hexValue? hd) v)) ?_
        intro ds f hf
        exact .ok _ hf

theorem readHexUntilBrace_passes (v : Bool) (c : Cursor) :
    Passes false c (readHexUntilBrace v c) := by
  fun_induction readHexUntilBrace v c with
  | case1 => exact .ok _ (.refl _)
  | case2 => exact .ok _ (.refl _)
  | case3 => exact .refuse _ _ _ _
  | case4 c x r h hx n hn ih =>
    refine .bind (ih.mono (.next h (ne_backslash_of_hexValue? hn) v)) ?_
    intro ds d hd
    exact .ok _ hd

theorem readHexUntilBrace_stop {v : Bool} {c d : Cursor} {ds : List Nat}
    (h : readHexUntilBrace v c = .ok (ds, d)) {x : Char} {r : Text} (hd : d.rest = x :: r) :
    x = '\x7d' := by
  fun_induction readHexUntilBrace v c generalizing ds with
  | case1 c hc =>
    cases h
    rw [hc] at hd
    cases hd
  | case2 c r' hc =>
    cases h
    rw [hc] at hd
    cases hd
    rfl
  | case3 => cases h
  | case4 c y r' hc hy n hn ih =>
    obtain ⟨⟨ns, d'⟩, hrest, h⟩ := bind_eq_ok.mp h
    cases h
    exact ih hrest

theorem readHex_passes (v : Bool) (start digits : Nat) (isByte : Bool) {c : Cursor} {x : Char}
    {r : Text} (h : c.rest = x :: r) (hx : x ≠ '\\') (e : Bool) :
    Passes e c (readHex v start digits isByte c) := by
  have hc : Passed e c (c.next v) := .next h hx v
  unfold readHex
  dsimp only
  split
  · exact .refuse _ _ _ _
  · rename_i rest hd
    intro a f hf
    obtain ⟨⟨ds, g⟩, hdigits, hf⟩ := bind_eq_ok.mp hf
    have hg : Passed e c g := (hc.trans (.next hd (by decide) v)).trans
      (readHexUntilBrace_passes v _ ds g hdigits)
    dsimp only at hf
    split at hf
    · cases hf
    · rename_i hne
      split at hf
      · cases hf
      · split at hf
        · cases hf
        · cases hf
          obtain ⟨y, r, hr⟩ := List.exists_cons_of_ne_nil (by simpa using hne)
          obtain rfl := readHexUntilBrace_stop hdigits hr
          exact hg.trans (.next hr (by decide) v)
  · refine .bind ((readHexDigits_passes v _ _).mono hc) ?_
    intro ds f hf
    split
    · exact .refuse _ _ _ _
    · exact .ok _ hf

theorem readUntilBrace_suffix (v : Bool) (c : Cursor) :
    (readUntilBrace v c).2.rest <:+ c.rest := by
  fun_induction readUntilBrace v c with
  | case1 => exact List.suffix_rfl
  | case2 => exact List.suffix_rfl
  | case3 c x r h hx name d hd ih =>
    rw [hd] at ih
    exact ih.trans (Cursor.next_suffix v c)

theorem readUntilBrace_stop {v : Bool} {c : Cursor} {x : Char} {r : Text}
    (hd : (readUntilBrace v c).2.rest = x :: r) : x = '\x7d' := by
  fun_induction readUntilBrace v c with
  | case1 c h =>
    rw [h] at hd
    cases hd
  | case2 c r' h =>
    rw [h] at hd
    cases hd
    rfl
  | case3 c y r' h hy name d hname ih =>
    rw [hname] at ih
    exact ih hd

theorem readProperty_passes (v : Bool) (start : Nat) (negated : Bool) {c : Cursor} {x : Char}
    {r : Text} (h : c.rest = x :: r) (hx : x ≠ '\\') (e : Bool) :
    Passes e c (readProperty v start negated c) := by
  have hc : Passed e c (c.next v) := .next h hx v
  unfold readProperty
  dsimp only
  split
  · exact .refuse _ _ _ _
  · rename_i y rest hd
    split
    · split
      · exact .refuse _ _ _ _
      · rename_i hne
        obtain ⟨z, t, ht⟩ := List.exists_cons_of_ne_nil (by simpa using hne)
        obtain rfl := readUntilBrace_stop ht
        have hsuffix := (readUntilBrace_suffix v ((c.next v).next v)).trans
          ((Cursor.next_suffix v (c.next v)).trans hc.suffix)
        exact .ok _ (.bump_of_suffix hsuffix ht (by decide))
    · split
      · exact .refuse _ _ _ _
      · rename_i hy
        exact .ok _ (hc.trans (.next hd hy v))

theorem ne_backslash_of_isBoundaryChar {x : Char} (h : isBoundaryChar x) : x ≠ '\\' := by
  rintro rfl
  revert h
  decide

theorem readBoundaryName_passed (v : Bool) (c : Cursor) :
    Passed false c (readBoundaryName v c).2 := by
  fun_induction readBoundaryName v c with
  | case1 => exact .refl _
  | case2 c x r h hx name d hd ih =>
    rw [hd] at ih
    exact (Passed.next h (ne_backslash_of_isBoundaryChar hx) v).trans ih
  | case3 => exact .refl _

theorem readBoundary_passes (v : Bool) (start : Nat) (c : Cursor) :
    Passes false c (readBoundary v start c) := by
  unfold readBoundary
  dsimp only
  split
  · rename_i rest hc
    split
    · exact .refuse _ _ _ _
    · split
      · split
        · rename_i rest' he
          split
          · exact .refuse _ _ _ _
          · have hname : Passed false c (readBoundaryName v (c.next v)).2 :=
              (Passed.next hc (by decide) v).trans (readBoundaryName_passed v _)
            exact .ok _ (hname.trans (.bump he (by decide)))
        · exact .refuse _ _ _ _
      · exact .ok _ (.refl c)
  · exact .ok _ (.refl c)

/-- The character behind a backslash is passed with all that belongs to it. -/
theorem readEscape_passes (v : Bool) (start : Nat) (c : Cursor) :
    Passes true c (readEscape v start c) := by
  have hb := Passed.bump_escaped c
  unfold readEscape
  dsimp only
  split
  · exact .refuse _ _ _ _
  · rename_i x r hc
    split
    · exact .refuse _ _ _ _
    · split
      · rename_i hx
        exact readProperty_passes v _ _ hc (by rintro rfl; simp at hx) true
      · split
        · exact (readBoundary_passes v start _).mono hb
        · split
          · exact .ok _ hb
          · rename_i hescapable
            have hx : x ≠ '\\' := by
              rintro rfl
              exact hescapable (by decide)
            split
            · exact readHex_passes v _ _ _ hc hx true
            · exact .ok _ hb
            · exact .ok _ hb
            · exact .ok _ hb
            · exact .refuse _ _ _ _

/-! ### Bracketed classes -/

theorem skipCaret_passed (v : Bool) (c : Cursor) : Passed false c (skipCaret v c).2 := by
  unfold skipCaret
  split
  · rename_i rest hc
    exact .next hc (by decide) v
  · exact .refl c

theorem takeCaret_suffix (t : Text) : (takeCaret t).2 <:+ t := by
  unfold takeCaret
  split
  · exact List.suffix_cons _ _
  · exact List.suffix_rfl

theorem readAsciiClass?_passed {c d : Cursor} {t : ClassTree}
    (h : readAsciiClass? c = some (t, d)) : Passed false c d := by
  unfold readAsciiClass? at h
  split at h
  · rename_i t hc
    dsimp only at h
    split at h
    · rename_i rest hr
      split at h
      · cases h
      · cases h
        obtain ⟨w, hw⟩ := takeCaret_suffix t
        generalize (takeCaret t).2 = body at hw hr
        have htake := List.take_append_drop (body.takeWhile (· ≠ ':')).length body
        rw [hr] at htake
        have hlast : c.rest =
            '[' :: ':' :: (w ++ body.take (body.takeWhile (· ≠ ':')).length ++ [':']) ++
              ']' :: rest := by
          rw [hc, ← hw]
          conv => lhs; rw [← htake]
          simp
        exact .of_last hlast (by decide)
    · cases h
  · cases h

theorem readHyphens_passes (v : Bool) (start : Span) (m : Members) (c : Cursor) :
    Passes false c (readHyphens v start m c) := by
  fun_induction readHyphens v start m c with
  | case1 => exact .refuse _ _ _ _
  | case2 m c r h d hd ih => exact ih.mono (.next h (by decide) v)
  | case3 => exact .ok _ (.refl _)

theorem readOpenBracket_passes (v : Bool) {c : Cursor} {r : Text} (h : c.rest = '[' :: r) :
    Passes false c (readOpenBracket v c) := by
  have hc : Passed false c (c.next v) := .next h (by decide) v
  unfold readOpenBracket
  dsimp only
  split
  · exact .refuse _ _ _ _
  · split
    · exact .refuse _ _ _ _
    · refine .bind ((readHyphens_passes v _ _ _).mono (hc.trans (skipCaret_passed v _))) ?_
      intro m f hf
      split
      · rename_i hhead
        simp only [Bool.and_eq_true, decide_eq_true_eq] at hhead
        obtain ⟨r', hr'⟩ := List.head?_eq_some_iff.mp hhead.2
        split
        · exact .refuse _ _ _ _
        · exact .ok _ (hf.trans (.next hr' (by decide) v))
      · exact .ok _ hf

/-- A member is no backslash by itself. -/
theorem readClassItem_passes (v : Bool) (c : Cursor) : Passes false c (readClassItem v c) := by
  unfold readClassItem
  split
  · rename_i r hc
    intro p d hp
    exact .of_escape hc (readEscape_passes v _ _ p d hp)
  · rename_i x r hne hc
    exact .ok _ (.bump hc hne)
  · exact .refuse _ _ _ _

theorem readClassRange_passes (v : Bool) (opened : Span) (c : Cursor) :
    Passes false c (readClassRange v opened c) := by
  unfold readClassRange
  refine .bind (readClassItem_passes v c) ?_
  intro p d hd
  have he : Passed false c (d.skip v) := hd.trans (.skip v d)
  dsimp only
  split
  · exact .refuse _ _ _ _
  · split
    · exact .bind_check fun t => .ok _ he
    · rename_i hhyphen
      split
      · exact .refuse _ _ _ _
      · simp only [ne_eq, Bool.or_eq_true, decide_eq_true_eq, not_or, Decidable.not_not] at hhyphen
        obtain ⟨r, hr⟩ := List.head?_eq_some_iff.mp hhyphen.1.1
        refine .bind ((readClassItem_passes v _).mono (he.trans (.next hr (by decide) v))) ?_
        intro q g hg
        refine .bind_check fun low => .bind_check fun high => ?_
        split
        · exact .refuse _ _ _ _
        · exact .ok _ hg

theorem classOp?_chars {t : Text} {op : ClassOp} (h : classOp? t = some op) :
    ∃ x y r, t = x :: y :: r ∧ y ≠ '\\' := by
  unfold classOp? at h
  split at h
  · exact ⟨_, _, _, rfl, by decide⟩
  · exact ⟨_, _, _, rfl, by decide⟩
  · exact ⟨_, _, _, rfl, by decide⟩
  · cases h

theorem classOp?_passed {c : Cursor} {op : ClassOp} (h : classOp? c.rest = some op) :
    Passed false c c.bump.bump := by
  obtain ⟨x, y, r, hr, hy⟩ := classOp?_chars h
  have hbump : c.bump.rest = y :: r := by simp [Cursor.bump, hr]
  exact .bump_of_suffix c.bump_suffix hbump hy

theorem readClassBody_passes (v : Bool) (outer : List OpenClass) (o : OpenClass) (c : Cursor) :
    Passes false c (readClassBody v outer o c) := by
  fun_induction readClassBody v outer o c with
  | case1 => exact .refuse _ _ _ _
  | case2 outer o c _ d _ t e ha _ _ _ ih =>
    exact ih.mono ((Passed.skip v c).trans (readAsciiClass?_passed ha))
  | case3 => exact .error _ _ _
  | case4 outer o c _ d _ _ inner e hr _ hd _ _ ih =>
    exact ih.mono ((Passed.skip v c).trans (readOpenBracket_passes v hd inner e hr))
  | case5 o c _ d _ e hd => exact .ok _ ((Passed.skip v c).trans (.bump hd (by decide)))
  | case6 o c _ d _ e _ _ _ _ _ _ hd _ _ ih =>
    exact ih.mono ((Passed.skip v c).trans (.bump hd (by decide)))
  | case7 outer o c _ d _ _ _ _ _ _ op hop _ ih =>
    exact ih.mono ((Passed.skip v c).trans (classOp?_passed hop))
  | case8 => exact .error _ _ _
  | case9 outer o c _ d _ _ _ _ _ _ _ t e hr _ ih =>
    exact ih.mono ((Passed.skip v c).trans (readClassRange_passes v _ _ t e hr))

theorem readBracket_passes (v : Bool) {c : Cursor} {r : Text} (h : c.rest = '[' :: r) :
    Passes false c (readBracket v c) := by
  unfold readBracket
  refine .bind (readOpenBracket_passes v h) ?_
  intro o d hd
  refine .bind ((readClassBody_passes v _ _ _).mono hd) ?_
  intro a e he
  exact .ok _ he

/-! ### Counts -/

theorem ne_backslash_of_isDigit {x : Char} (h : x.isDigit) : x ≠ '\\' := by
  rintro rfl
  revert h
  decide

theorem ne_backslash_of_isBlank {x : Char} (h : isBlank x) : x ≠ '\\' := by
  rintro rfl
  revert h
  decide

theorem skipBlanks_passed (pos : Nat) (t : Text) :
    Passed false ⟨pos, t⟩ (Cursor.skipBlanks pos t) := by
  induction t generalizing pos with
  | nil => exact .refl _
  | cons x t ih =>
    unfold Cursor.skipBlanks
    split
    · rename_i hx
      have hbump : Passed false ⟨pos, x :: t⟩ ⟨pos + 1, t⟩ :=
        .bump rfl (ne_backslash_of_isBlank hx)
      exact hbump.trans (ih _)
    · exact .refl _

theorem readDigits_passed (v : Bool) (c : Cursor) : Passed false c (readDigits v c).2 := by
  fun_induction readDigits v c with
  | case1 => exact .refl _
  | case2 c x r h hx ds d hd ih =>
    rw [hd] at ih
    exact (Passed.next h (ne_backslash_of_isDigit hx) v).trans ih
  | case3 => exact .refl _

theorem skipTrailing_passed (v : Bool) (c : Cursor) : Passed false c (skipTrailing v c) := by
  fun_induction skipTrailing v c with
  | case1 => exact .refl _
  | case2 c x r h hx ih => exact (Passed.next h (ne_backslash_of_isBlank hx) v).trans ih
  | case3 => exact .refl _

theorem readNumber_passed (v : Bool) (c : Cursor) : Passed false c (readNumber v c).2 :=
  (skipBlanks_passed c.pos c.rest).trans
    ((readDigits_passed v _).trans (skipTrailing_passed v _))

theorem readBounds_passes (v : Bool) {c : Cursor} {r : Text} (h : c.rest = '\x7b' :: r) :
    Passes false c (readBounds v c) := by
  have hc : Passed false c (c.next v) := .next h (by decide) v
  unfold readBounds
  dsimp only
  have hn := hc.trans (readNumber_passed v (c.next v))
  generalize readNumber v (c.next v) = p at hn ⊢
  obtain ⟨low, e⟩ := p
  dsimp only at hn ⊢
  split
  · exact .refuse _ _ _ _
  · split
    · exact .refuse _ _ _ _
    · split
      · rename_i hcomma
        obtain ⟨r', hr'⟩ := List.head?_eq_some_iff.mp hcomma
        have hf : Passed false c (e.next v) := hn.trans (.next hr' (by decide) v)
        split
        · exact .refuse _ _ _ _
        · split
          · exact .bind_check fun n => .ok _ hf
          · have hm := hf.trans (readNumber_passed v (e.next v))
            generalize readNumber v (e.next v) = q at hm ⊢
            obtain ⟨high, g⟩ := q
            exact .bind_check fun n => .bind_check fun m => .ok _ hm
      · exact .bind_check fun n => .ok _ hn

theorem readCount_passes (v : Bool) {c : Cursor} {r : Text} (h : c.rest = '\x7b' :: r) :
    Passes false c (readCount v c) := by
  unfold readCount
  refine .bind (readBounds_passes v h) ?_
  intro bounds d hd
  dsimp only
  split
  · exact .refuse _ _ _ _
  · rename_i hbrace
    obtain ⟨r', hr'⟩ := List.head?_eq_some_iff.mp (Decidable.not_not.mp hbrace)
    have he : Passed false c (d.next v) := hd.trans (.next hr' (by decide) v)
    have hf : Passed false c (if (d.next v).rest.head? = some '?' then (d.next v).bump
        else d.next v) := by
      split
      · rename_i hmark
        obtain ⟨r'', hr''⟩ := List.head?_eq_some_iff.mp hmark
        exact he.trans (.bump hr'' (by decide))
      · exact he
    split
    · split
      · exact .refuse _ _ _ _
      · exact .ok _ (by simpa using hf)
    · exact .ok _ (by simpa using hf)

/-! ### Heads of groups -/

theorem readNameChars_suffix (first : Bool) (pos : Nat) (t : Text) {name : Text} {d : Cursor}
    (h : readNameChars first pos t = .ok (name, d)) : d.rest <:+ t := by
  induction t generalizing first pos name with
  | nil =>
    cases h
    exact List.suffix_rfl
  | cons x t ih =>
    unfold readNameChars at h
    split at h
    · cases h
      exact List.suffix_rfl
    · split at h
      · cases h
      · obtain ⟨⟨name', d'⟩, hrest, h⟩ := bind_eq_ok.mp h
        cases h
        exact (ih _ _ hrest).trans (List.suffix_cons x t)

theorem readNameChars_stop {first : Bool} {pos : Nat} {t name : Text} {d : Cursor}
    (h : readNameChars first pos t = .ok (name, d)) {x : Char} {r : Text} (hd : d.rest = x :: r) :
    x = '>' := by
  induction t generalizing first pos name with
  | nil =>
    cases h
    cases hd
  | cons y t ih =>
    unfold readNameChars at h
    split at h
    · rename_i hy
      cases h
      cases hd
      exact hy
    · split at h
      · cases h
      · obtain ⟨⟨name', d'⟩, hrest, h⟩ := bind_eq_ok.mp h
        cases h
        exact ih hrest

theorem readName_passes (e : Bool) (c : Cursor) : Passes e c (readName c) := by
  intro head d h
  unfold readName at h
  obtain ⟨⟨name, f⟩, hname, h⟩ := bind_eq_ok.mp h
  dsimp only at h
  split at h
  · cases h
  · rename_i hne
    split at h
    · cases h
    · cases h
      obtain ⟨x, r, hr⟩ := List.exists_cons_of_ne_nil (by simpa using hne)
      obtain rfl := readNameChars_stop hname hr
      exact .bump_of_suffix (readNameChars_suffix _ _ _ hname) hr (by decide)

theorem readFlags_suffix {seen : List (FlagItem × Span)} {pos : Nat} {t : Text}
    {items : List FlagItem} {d : Cursor} (h : readFlags seen pos t = .ok (items, d)) :
    d.rest <:+ t ∧ ∃ x r, d.rest = x :: r ∧ (x = ':' ∨ x = ')') := by
  induction t generalizing seen pos with
  | nil => cases h
  | cons x t ih =>
    unfold readFlags at h
    dsimp only at h
    split at h
    · rename_i hx
      split at h
      · cases h
      · cases h
        exact ⟨List.suffix_rfl, x, t, rfl, by simpa using hx⟩
    · split at h
      · cases h
      · split at h
        · cases h
        · cases h
        · obtain ⟨hsuffix, hlast⟩ := ih h
          exact ⟨hsuffix.trans (List.suffix_cons x t), hlast⟩

theorem readGroupHead_passes (v : Bool) {c : Cursor} {r : Text} (h : c.rest = '(' :: r) :
    Passes false c (readGroupHead v c) := by
  have hc : Passed false c (c.next v) := .next h (by decide) v
  have hname {w rest : Text} (pos : Nat) (hd : (c.next v).rest = w ++ rest) :
      Passes false c (readName ⟨pos, rest⟩) := by
    intro head f hf
    refine .of_suffix ?_ fun e => readName_passes e _ head f hf
    exact (List.suffix_append w rest).trans (hd ▸ hc.suffix)
  unfold readGroupHead
  dsimp only
  split
  · exact .refuse _ _ _ _
  · exact .refuse _ _ _ _
  · exact .refuse _ _ _ _
  · exact .refuse _ _ _ _
  · rename_i rest hd
    exact hname (w := ['?', 'P', '<']) _ hd
  · rename_i rest _ _ hd
    exact hname (w := ['?', '<']) _ hd
  · rename_i rest _ _ _ _ _ _ hd
    split
    · exact .refuse _ _ _ _
    · intro head f hf
      obtain ⟨⟨items, g⟩, hflags, hf⟩ := bind_eq_ok.mp hf
      obtain ⟨hsuffix, x, r', hr', hx⟩ := readFlags_suffix hflags
      have hrest : rest <:+ c.rest :=
        (List.suffix_cons '?' rest).trans (hd ▸ hc.suffix)
      have hg : Passed false c g.bump :=
        .bump_of_suffix (hsuffix.trans hrest) hr' (by rcases hx with rfl | rfl <;> decide)
      dsimp only at hf
      split at hf
      · cases hf
        exact hg
      · split at hf
        · cases hf
        · cases hf
          exact hg
  · exact .ok _ hc

end RegexLiteral.Pattern
