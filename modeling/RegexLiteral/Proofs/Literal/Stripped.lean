import Mathlib
import RegexLiteral.Proofs.Literal.Classes
import RegexLiteral.Proofs.Literal.Compiling
import RegexLiteral.Proofs.Literal.Tidying

/-!
# Texts without layout

A text from which layout was taken out has none. The characters that are kept are scanned in it from
the same places as in the text itself, since what is dropped between two of them leads from the
outside to the outside (`carries_stripFrom`). So nothing new comes about where two of them meet, and
this holds of any text, with classes and comments that never end or a backslash at its end. Main
statement: stripping twice is stripping once, and what a second run leaves alone are the texts
without layout (`strip_idempotent`).
-/
namespace RegexLiteral

open CompiledLiteral (assemble assemble_pattern assemble_replacement)

namespace Layout

/-- The place at which a scan stands when it has come to a place, but without layout: what was read
of a comment is gone. -/
def Place.withoutLayout : Place → Place
  | .comment => .outside
  | p => p

/-- Whether no white space and no number sign stands outside classes and comments, unescaped. -/
def IsStripped (t : Text) : Prop :=
  ∀ u c v, t = u ++ c :: v → placeAfter .outside u = .outside → c ≠ '#' ∧ isSpace c = false

variable {p : Place} {c : Char}

theorem Place.withoutLayout_of_ne (hp : p ≠ .comment) : p.withoutLayout = p := by
  cases p with
  | comment => exact absurd rfl hp
  | _ => rfl

/-- What is dropped leads from the outside to the outside. -/
theorem Place.withoutLayout_next (hc : ¬p.keeps c) :
    (p.next c).withoutLayout = p.withoutLayout := by
  cases p with
  | outside =>
    have hlayout : c = '#' ∨ isSpace c := by simpa [keeps, Decidable.or_iff_not_imp_left] using hc
    rcases hlayout with rfl | hspace
    · rfl
    · simp only [isSpace, decide_eq_true_eq, List.mem_cons, List.not_mem_nil, or_false] at hspace
      rcases hspace with rfl | rfl | rfl | rfl | rfl | rfl <;> rfl
  | comment =>
    by_cases hline : c = '\n'
    · subst hline
      rfl
    · have hnext : Place.comment.next c = .comment := if_neg hline
      rw [hnext]
  | _ => exact absurd rfl hc

/-- What stripping leaves of a text is all kept, and its scan ends where that of the text ends. -/
theorem carries_stripFrom (p : Place) (t : Text) :
    Carries p.withoutLayout (stripFrom p t) (placeAfter p t).withoutLayout := by
  induction t generalizing p with
  | nil => exact .nil _
  | cons x t ih =>
    have hrest := ih (p.next x)
    rw [stripFrom]
    by_cases hx : p.keeps x
    · have hp := Place.withoutLayout_of_ne (Place.ne_comment_of_keeps hx)
      have hnext := Place.withoutLayout_of_ne (Place.next_ne_comment hx)
      rw [if_pos hx, hp]
      rw [hnext] at hrest
      exact .cons hx hrest
    · rw [if_neg hx]
      rw [Place.withoutLayout_next hx] at hrest
      exact hrest

theorem length_stripFrom_le (p : Place) (t : Text) : (stripFrom p t).length ≤ t.length := by
  induction t generalizing p with
  | nil => exact Nat.le_refl _
  | cons x t ih =>
    have hrest := ih (p.next x)
    rw [stripFrom]
    split
    · rw [List.length_cons, List.length_cons]
      omega
    · rw [List.length_cons]
      omega

/-- Outside comments only layout is dropped, and only outside classes. -/
theorem Place.keeps_iff (hp : p ≠ .comment) :
    p.keeps c ↔ (p = .outside → c ≠ '#' ∧ isSpace c = false) := by
  cases p with
  | comment => exact absurd rfl hp
  | outside => simp [keeps]
  | _ => simp [keeps]

theorem stripFrom_eq_self_iff (hp : p ≠ .comment) {t : Text} :
    stripFrom p t = t ↔
      ∀ u c v, t = u ++ c :: v → placeAfter p u = .outside → c ≠ '#' ∧ isSpace c = false := by
  induction t generalizing p with
  | nil =>
    constructor
    · intro _ u c v hsplit
      simp at hsplit
    · intro _
      rfl
  | cons x t ih =>
    rw [stripFrom]
    by_cases hx : p.keeps x
    · have hrest := ih (Place.next_ne_comment hx)
      rw [if_pos hx, List.cons.injEq, eq_self, true_and, hrest]
      constructor
      · intro h u c v hsplit hplace
        cases u with
        | nil =>
          obtain ⟨rfl, -⟩ := List.cons.inj hsplit
          exact (Place.keeps_iff hp).mp hx hplace
        | cons y u =>
          obtain ⟨rfl, hrow⟩ := List.cons.inj hsplit
          exact h u c v hrow hplace
      · intro h u c v hsplit hplace
        exact h (x :: u) c v (by rw [hsplit, List.cons_append]) hplace
    · -- The text that is left is shorter, and its first character was layout.
      rw [if_neg hx]
      constructor
      · intro h
        have hlength := congrArg List.length h
        have hle := length_stripFrom_le (p.next x) t
        rw [List.length_cons] at hlength
        omega
      · intro h
        have hkept := (Place.keeps_iff hp).mpr fun hplace => h [] x t rfl hplace
        exact absurd hkept hx

theorem strip_eq_self_iff {t : Text} : strip t = t ↔ IsStripped t :=
  stripFrom_eq_self_iff (p := .outside) (by nofun)

theorem isStripped_strip (t : Text) : IsStripped (strip t) := by
  have hkept := carries_stripFrom .outside t
  exact strip_eq_self_iff.mp hkept.2

end Layout

open Layout

/-- Stripping a text a second time changes nothing, whatever the text. What it changes nothing in
are just the texts in which no white space and no number sign counts as layout. So a literal that is
compiled in free spacing keeps a pattern and a replacement that have no layout left. -/
theorem strip_idempotent :
    (∀ t, strip (strip t) = strip t) ∧
    (∀ t, strip t = t ↔ IsStripped t) ∧
    ∀ source policy c, compileLiteral source policy = .ok c → c.flags.extended →
      strip c.pattern = c.pattern ∧ strip c.replacement = c.replacement := by
  have hagain (t : Text) : strip (strip t) = strip t := strip_eq_self_iff.mpr (isStripped_strip t)
  refine ⟨hagain, fun t => strip_eq_self_iff, fun source policy c h hextended => ?_⟩
  obtain ⟨s, found, -, hc, -⟩ := compileLiteral_eq_ok_iff.mp h
  generalize c.regex = regex at hc
  subst hc
  rw [assemble_pattern, assemble_replacement, if_pos hextended]
  exact ⟨hagain _, hagain _⟩

/-- An escaped number sign stays in both segments, and each of them ends in a comment. -/
theorem strip_idempotent_extended :
    ∃ c, compileLiteral "s/a \\# # b/c \\# # d/x".toList .strict = .ok c ∧ c.flags.extended ∧
      c.pattern = "a\\#".toList ∧ c.replacement = "c\\#".toList ∧
      strip c.pattern = c.pattern ∧ strip c.replacement = c.replacement := by
  have hok : (compileLiteral "s/a \\# # b/c \\# # d/x".toList .strict).toOption.any fun c =>
      c.flags.extended && c.pattern = "a\\#".toList && c.replacement = "c\\#".toList := by cbv
  obtain ⟨c, h, hc⟩ := exists_of_any_compileLiteral hok
  simp only [Bool.and_eq_true, decide_eq_true_eq] at hc
  obtain ⟨⟨hextended, hpattern⟩, hreplacement⟩ := hc
  obtain ⟨-, -, hcompiled⟩ := strip_idempotent
  exact ⟨c, h, hextended, hpattern, hreplacement, hcompiled _ _ c h hextended⟩

end RegexLiteral
