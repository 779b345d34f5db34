import RegexLiteral.Literal.Flags
import RegexLiteral.Literal.Layout
import RegexLiteral.Proofs.Pattern.Openings

/-!
# Groups behind flags and layout

The engine gets a pattern behind a group of flags and, in free spacing, without its layout. Neither
makes a group where there was none: the group of flags captures nothing (`shown_of_enginePattern`),
and a parenthesis that is left when layout is gone stood in the pattern, not escaped and no layout
itself, with the text behind it stripped from its place on (`exists_of_stripFrom`). Stripping and
reading agree on what is escaped since a comment ends with its line.
-/
namespace RegexLiteral

open Pattern Layout

namespace Layout

/-- Whether the next character is escaped. -/
def Place.isEscaped : Place → Bool
  | .escaped => true
  | .escapedInClass _ => true
  | _ => false

@[simp] theorem Place.isEscaped_outside : outside.isEscaped = false := rfl

@[simp] theorem Place.isEscaped_comment : comment.isEscaped = false := rfl

@[simp] theorem Place.isEscaped_classHead : classHead.isEscaped = false := rfl

@[simp] theorem Place.isEscaped_classCaret : classCaret.isEscaped = false := rfl

@[simp] theorem Place.isEscaped_inClass (n : Nat) : (inClass n).isEscaped = false := rfl

theorem Place.ne_comment_of_keeps {p : Place} {c : Char} (h : p.keeps c) : p ≠ .comment := by
  rintro rfl
  cases h

theorem Place.afterClassChar_ne_comment (n : Nat) (c : Char) :
    afterClassChar n c ≠ .comment := by
  unfold afterClassChar
  repeat' split
  all_goals nofun

@[simp] theorem Place.isEscaped_afterClassChar (n : Nat) (c : Char) :
    (afterClassChar n c).isEscaped = decide (c = '\\') := by
  unfold afterClassChar
  by_cases hb : c = '\\'
  · subst hb
    rfl
  · simp only [hb, ↓reduceIte, decide_false]
    repeat' split
    all_goals rfl

/-- A character that is kept does not start a comment. -/
theorem Place.next_ne_comment {p : Place} {c : Char} (h : p.keeps c) : p.next c ≠ .comment := by
  cases p with
  | outside =>
    have hc : c ≠ '#' := fun hc => by simp [hc, keeps] at h
    simp only [next, hc, ↓reduceIte]
    repeat' split
    all_goals nofun
  | comment => cases h
  | classHead =>
    dsimp only [next]
    split
    · nofun
    · split
      · nofun
      · exact afterClassChar_ne_comment _ _
  | classCaret =>
    dsimp only [next]
    split
    · nofun
    · exact afterClassChar_ne_comment _ _
  | inClass n => exact afterClassChar_ne_comment _ _
  | escaped => nofun
  | escapedInClass n => nofun

/-- A character that is kept escapes the next one as it does for a reader. -/
theorem Place.isEscaped_next {p : Place} {c : Char} (h : p.keeps c) :
    (p.next c).isEscaped = (!p.isEscaped && decide (c = '\\')) := by
  cases p with
  | outside =>
    by_cases hb : c = '\\'
    · subst hb
      rfl
    · by_cases hclass : c = '['
      · subst hclass
        rfl
      · by_cases hc : c = '#' <;> simp [next, hb, hclass, hc]
  | comment => cases h
  | classHead =>
    by_cases hcaret : c = '^'
    · subst hcaret
      rfl
    · by_cases hend : c = ']'
      · subst hend
        rfl
      · simp [next, hcaret, hend]
  | classCaret =>
    by_cases hend : c = ']'
    · subst hend
      rfl
    · simp [next, hend]
  | inClass n => simp [next]
  | escaped => rfl
  | escapedInClass n => rfl

theorem startsLayout_of_dropped {p : Place} {c : Char} (hp : p ≠ .comment) (h : ¬p.keeps c) :
    p = .outside ∧ startsLayout c := by
  cases p with
  | outside =>
    refine ⟨rfl, ?_⟩
    by_cases hc : c = '#'
    · simp [startsLayout, hc]
    · have hspace : isSpace c := by simpa [Place.keeps, hc] using h
      simp only [isSpace, decide_eq_true_eq, List.mem_cons, List.not_mem_nil, or_false] at hspace
      rcases hspace with rfl | rfl | rfl | rfl | rfl | rfl <;> decide
  | comment => exact absurd rfl hp
  | _ => exact absurd rfl h

end Layout

/-- A parenthesis that is left when layout is gone was there before, and was no layout. -/
theorem exists_of_stripFrom {q u' rest' : Text} {p : Place} {e : Bool}
    (he : p ≠ .comment → e = p.isEscaped) (h : stripFrom p q = u' ++ '(' :: rest') :
    ∃ u rest, q = u ++ '(' :: rest ∧ escapes e u = escapes p.isEscaped u' ∧
      (placeAfter p u).keeps '(' ∧ rest' = stripFrom (placeAfter p (u ++ ['('])) rest := by
  induction q generalizing p e u' with
  | nil =>
    have hnil := congrArg List.length h
    simp [stripFrom] at hnil
  | cons c q ih =>
    rw [stripFrom] at h
    split at h
    · rename_i hkeep
      have hescaped := Place.isEscaped_next hkeep
      rw [he (Place.ne_comment_of_keeps hkeep)]
      cases u' with
      | nil =>
        obtain ⟨rfl, hrest⟩ := List.cons.inj h
        exact ⟨[], q, rfl, rfl, hkeep, hrest.symm⟩
      | cons x u' =>
        obtain ⟨rfl, hrest⟩ := List.cons.inj h
        obtain ⟨u, rest, hq, hu, hkept, hrest'⟩ := ih (fun _ => rfl) hrest
        refine ⟨c :: u, rest, by rw [hq, List.cons_append], ?_, hkept, hrest'⟩
        rw [escapes_cons, escapes_cons, ← hescaped, hu]
    · rename_i hdrop
      have hstep (p' : Place) (hp' : p.next c = p') (hescaped : p'.isEscaped = p.isEscaped)
          (he' : p' ≠ .comment → (!e && decide (c = '\\')) = p'.isEscaped) :
          ∃ u rest, c :: q = u ++ '(' :: rest ∧ escapes e u = escapes p.isEscaped u' ∧
            (placeAfter p u).keeps '(' ∧
            rest' = stripFrom (placeAfter p (u ++ ['('])) rest := by
        rw [hp'] at h
        obtain ⟨u, rest, hq, hu, hkept, hrest'⟩ := ih he' h
        rw [← hp'] at hkept hrest'
        refine ⟨c :: u, rest, by rw [hq, List.cons_append], ?_, hkept, hrest'⟩
        rw [escapes_cons, hu, hescaped]
      by_cases hp : p = .comment
      · subst hp
        by_cases hc : c = '\n'
        · subst hc
          exact hstep _ rfl rfl fun _ => by cases e <;> rfl
        · refine hstep .comment ?_ rfl fun hne => absurd rfl hne
          simp [Place.next, hc]
      · obtain ⟨rfl, hlayout⟩ := startsLayout_of_dropped hp hdrop
        have hb : c ≠ '\\' := by
          rintro rfl
          revert hlayout
          decide
        have hclass : c ≠ '[' := by
          rintro rfl
          revert hlayout
          decide
        by_cases hc : c = '#'
        · subst hc
          exact hstep _ rfl rfl fun hne => absurd rfl hne
        · refine hstep .outside ?_ rfl fun _ => by simp [hb, Place.isEscaped]
          simp [Place.next, hb, hclass, hc]

/-- A pattern as the engine gets it behind the flags. -/
def tidied (extended : Bool) (q : Text) : Text := (if extended then strip else id) q

/-- What is left of the text behind a parenthesis of a pattern, by the text before it: in free
spacing it is stripped from its place on, and if the parenthesis is layout there is none. -/
def tidiedBehind (extended : Bool) (u rest : Text) : Option Text :=
  if !extended then some rest
  else if (placeAfter .outside u).keeps '(' then
    some (stripFrom (placeAfter .outside (u ++ ['('])) rest)
  else none

/-- A group that opens in a tidied pattern opens in the pattern, but what shows it is tidied. -/
theorem exists_of_shown {extended : Bool} {q : Text} {p : Nat × Option Text}
    (h : Shown (tidied extended q) p) :
    ∃ u rest head, q = u ++ '(' :: rest ∧ escapes false u = false ∧
      tidiedBehind extended u rest = some head ∧
      Reveals (asksSpacing (tidied extended q)) p.2 head := by
  obtain ⟨-, u', rest', htext, hu', hreveals⟩ := h
  cases extended with
  | false => exact ⟨u', rest', rest', htext, hu', rfl, hreveals⟩
  | true =>
    obtain ⟨u, rest, hq, hu, hkept, rfl⟩ :=
      exists_of_stripFrom (p := .outside) (e := false) (fun _ => rfl) htext
    exact ⟨u, rest, _, hq, hu.trans hu', if_pos hkept, hreveals⟩

/-- What starts no layout is the first that is left behind a parenthesis, if it stands there. -/
theorem head?_tidiedBehind {extended : Bool} {u rest head : Text} {c : Char}
    (hc : ¬startsLayout c) (h : tidiedBehind extended u (c :: rest) = some head) :
    head.head? = some c := by
  unfold tidiedBehind at h
  split at h
  · cases h
    rfl
  · split at h
    · rename_i hparen
      have hplace : placeAfter .outside (u ++ ['(']) = (placeAfter .outside u).next '(' :=
        placeAfter_append .outside u ['(']
      have hkeep : (placeAfter .outside (u ++ ['('])).keeps c := by
        rw [hplace]
        exact Decidable.byContradiction fun hdrop =>
          hc (startsLayout_of_dropped (Place.next_ne_comment hparen) hdrop).2
      cases h
      rw [stripFrom, if_pos hkeep]
      rfl
    · cases h

theorem tidiedBehind_nil {extended : Bool} {u head : Text}
    (h : tidiedBehind extended u [] = some head) : head = [] := by
  unfold tidiedBehind at h
  split at h
  · cases h
    rfl
  · split at h
    · cases h
      rfl
    · cases h

/-- The group of flags starts as no other group does. -/
theorem Flags.engineGroup_eq {f : Flags} {g : Text} (h : f.engineGroup = some g) :
    ∃ x letters, g = '(' :: '?' :: x :: letters ++ [')'] ∧ x ≠ 'P' ∧ x ≠ '<' ∧
      '(' ∉ x :: letters ∧ 'x' ∉ x :: letters := by
  unfold engineGroup at h
  split at h
  · cases h
  · rename_i hne
    obtain ⟨x, letters, hletters⟩ := List.exists_cons_of_ne_nil (by simpa using hne)
    rw [hletters] at h
    cases h
    have hmem : ∀ y ∈ x :: letters, y = 'i' ∨ y = 'm' ∨ y = 's' := by
      rw [← hletters]
      intro y hy
      simp only [engineLetters, List.mem_filterMap] at hy
      obtain ⟨q, hq, hy⟩ := hy
      split at hy
      · cases hy
        simp only [List.mem_cons, List.not_mem_nil, or_false] at hq
        rcases hq with rfl | rfl | rfl
        · exact .inl rfl
        · exact .inr (.inl rfl)
        · exact .inr (.inr rfl)
      · cases hy
    refine ⟨x, letters, rfl, ?_, ?_, ?_, ?_⟩
    · rintro rfl
      simpa using hmem 'P' (List.mem_cons_self ..)
    · rintro rfl
      simpa using hmem '<' (List.mem_cons_self ..)
    · intro hparen
      simpa using hmem '(' hparen
    · intro hx
      simpa using hmem 'x' hx

/-- The group of flags is none that captures. -/
theorem not_reveals_flags {v : Bool} {x : Char} {t : Text} {name : Option Text} (hP : x ≠ 'P')
    (hangle : x ≠ '<') : ¬Reveals v name ('?' :: x :: t) := by
  cases name with
  | none => exact fun h => h.2 rfl
  | some n =>
    intro h
    rw [Reveals, skipped_of_mark v rfl] at h
    obtain ⟨r, hr⟩ | ⟨y, r, hr, -, -⟩ := h
    · cases hr
      exact hP rfl
    · cases hr
      exact hangle rfl

/-- The group of flags asks for no free spacing. -/
theorem asksSpacing_enginePattern (f : Flags) (t : Text) :
    asksSpacing (f.enginePattern t) = asksSpacing t := by
  unfold Flags.enginePattern
  cases hg : f.engineGroup with
  | none => rfl
  | some g =>
    obtain ⟨y, letters, rfl, -, -, hparen, hx⟩ := Flags.engineGroup_eq hg
    have hturns : turnsSpacingOn ('?' :: (y :: letters ++ ')' :: t)) = false := by
      have hclose : (')' :: t).takeWhile (fun c => c ≠ '-' && (flagItem? c).isSome) = [] :=
        List.takeWhile_cons_of_neg (by decide)
      have hmem : 'x' ∉ (y :: letters ++ ')' :: t).takeWhile
          fun c => c ≠ '-' && (flagItem? c).isSome := by
        rw [List.takeWhile_append, hclose]
        split
        · rwa [List.append_nil]
        · exact fun hmem => hx ((List.takeWhile_prefix _).subset hmem)
      simpa [turnsSpacingOn] using hmem
    have hrest : asksSpacing ('?' :: (y :: letters ++ ')' :: t)) = asksSpacing t := by
      have hbehind : '(' ∉ '?' :: (y :: letters ++ [')']) := by
        simpa using hparen
      have happend := asksSpacing_append hbehind t
      simpa using happend
    show asksSpacing ('(' :: '?' :: (y :: letters ++ [')']) ++ t) = asksSpacing t
    rw [List.cons_append, List.cons_append, List.append_assoc, List.singleton_append, asksSpacing,
      hturns, hrest]
    rfl

/-- The groups of what the engine gets open in the pattern itself. -/
theorem shown_of_enginePattern {f : Flags} {t : Text} {p : Nat × Option Text}
    (h : Shown (f.enginePattern t) p) : Shown t p := by
  obtain ⟨hpos, u, rest, htext, hu, hreveals⟩ := h
  rw [asksSpacing_enginePattern] at hreveals
  unfold Flags.enginePattern at htext
  cases hg : f.engineGroup with
  | none =>
    rw [hg] at htext
    exact ⟨hpos, u, rest, htext, hu, hreveals⟩
  | some g =>
    obtain ⟨x, letters, hgroup, hP, hangle, hmem, -⟩ := Flags.engineGroup_eq hg
    have hescapes : escapes false g = false := by
      rw [hgroup, escapes_append]
      simp
    rw [hg, Option.getD_some] at htext
    rcases List.append_eq_append_iff.mp htext with ⟨a, hua, hta⟩ | ⟨a, hga, hrest⟩
    · rw [hua, escapes_append, hescapes] at hu
      exact ⟨hpos, a, rest, hta, hu, hreveals⟩
    · cases a with
      | nil => exact ⟨hpos, [], rest, hrest.symm, rfl, hreveals⟩
      | cons y a =>
        obtain ⟨rfl, rfl⟩ := List.cons.inj hrest
        rw [hgroup] at hga
        cases u with
        | nil =>
          obtain ⟨-, rfl⟩ := List.cons.inj hga
          exact absurd hreveals (not_reveals_flags hP hangle)
        | cons z u =>
          have hin : '?' :: x :: letters ++ [')'] = u ++ '(' :: a := (List.cons.inj hga).2
          have hparen : '(' ∈ '?' :: x :: letters ++ [')'] := by
            rw [hin]
            exact List.mem_append_right _ (List.mem_cons_self ..)
          rw [List.cons_append, List.mem_cons, List.mem_append, List.mem_singleton] at hparen
          rcases hparen with hmark | hletter | hclose
          · cases hmark
          · exact absurd hletter hmem
          · cases hclose

end RegexLiteral
