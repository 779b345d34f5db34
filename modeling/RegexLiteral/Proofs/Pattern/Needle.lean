import RegexLiteral.Proofs.Pattern.PlainText

/-!
# Looking for a plain text

A search for a plain text finds it exactly where it occurs. Main statements: the regex of a text
matches another text if the one is a part of the other (`isMatch_ofText`), and its findings are the
occurrences from left to right that do not overlap (`findSpans_ofText`).
-/
namespace RegexLiteral.Pattern

/-- The places at which a text that is not empty occurs in another, from left to right, each behind
the end of the one before it. The other text starts at `pos`. -/
def occurrences (needle : Text) (pos : Nat) : Text → List Nat
  | [] => []
  | c :: rest =>
    if needle <+: c :: rest then
      pos :: occurrences needle (pos + needle.length) (rest.drop (needle.length - 1))
    else occurrences needle (pos + 1) rest
termination_by t => t.length
decreasing_by
  all_goals
    simp only [List.length_drop, List.length_cons]
    omega

section Needle

open Regex

variable {needle : Text}

/-- A text is found if it occurs. -/
theorem isSome_findText (needle : Text) (pos : Nat) (t : Text) :
    (findText needle pos t).isSome ↔ needle <:+: t := by
  induction t generalizing pos with
  | nil => cases needle <;> simp [findText]
  | cons c t ih =>
    rw [findText, List.infix_cons_iff]
    by_cases hprefix : needle <+: c :: t
    · rw [if_pos (List.isPrefixOf_iff_prefix.mpr hprefix)]
      exact iff_of_true rfl (.inl hprefix)
    · rw [if_neg (mt List.isPrefixOf_iff_prefix.mp hprefix), ih, or_iff_right hprefix]

theorem findText_nil (hn : needle ≠ []) (pos : Nat) : findText needle pos [] = none := by
  rw [findText, if_neg (mt List.isEmpty_iff.mp hn)]

/-- The first occurrence is the one that is found, and the others are those behind it. -/
theorem occurrences_eq (hn : needle ≠ []) (pos : Nat) (t : Text) :
    occurrences needle pos t =
      match findText needle pos t with
      | none => []
      | some i => i :: occurrences needle (i + needle.length)
          (t.drop (i + needle.length - pos)) := by
  have hlength : 0 < needle.length := List.length_pos_iff.mpr hn
  induction t generalizing pos with
  | nil => rw [occurrences, findText_nil hn]
  | cons c t ih =>
    rw [occurrences, findText]
    by_cases hprefix : needle <+: c :: t
    · have hdrop : (c :: t).drop (pos + needle.length - pos) = t.drop (needle.length - 1) := by
        rw [Nat.add_sub_cancel_left, List.drop_cons hlength]
      rw [if_pos hprefix, if_pos (List.isPrefixOf_iff_prefix.mpr hprefix)]
      simp only [hdrop]
    · rw [if_neg hprefix, if_neg (mt List.isPrefixOf_iff_prefix.mp hprefix), ih]
      cases hfound : findText needle (pos + 1) t with
      | none => rfl
      | some i =>
        have hpos : pos + 1 ≤ i := (findText_bounds hfound).1
        have hdrop : (c :: t).drop (i + needle.length - pos) =
            t.drop (i + needle.length - (pos + 1)) := by
          rw [List.drop_cons (by omega)]
          congr 1
        simp only [hdrop]

namespace Finder

variable {f : Finder Span}

/-- A finding that is not empty is taken wherever the last one ended. -/
theorem findNext_of_needle (hn : needle ≠ []) (hfind : ∀ s, f.find s = findNeedle needle s)
    (hspan : ∀ a, f.span a = a) (lastStop : Option Nat) (s : Spot) :
    f.findNext lastStop s = findNeedle needle s := by
  have hlength : 0 < needle.length := List.length_pos_iff.mpr hn
  unfold findNext
  rw [hfind]
  cases hfound : findNeedle needle s with
  | none => rfl
  | some a =>
    obtain ⟨i, -, rfl⟩ := Option.map_eq_some_iff.mp hfound
    have hwide : decide (i = i + needle.length) = false := decide_eq_false (by omega)
    simp only [hspan, hwide, Bool.false_and]
    rfl

/-- The findings from a place on are the occurrences from there on. -/
theorem allFrom_of_needle (hn : needle ≠ []) (hfind : ∀ s, f.find s = findNeedle needle s)
    (hspan : ∀ a, f.span a = a) (lastStop : Option Nat) (s : Spot) :
    f.allFrom lastStop s =
      (occurrences needle s.pos s.rest).map fun i => ⟨i, i + needle.length⟩ := by
  fun_induction allFrom f lastStop s with
  | case1 lastStop s hfound =>
    rw [findNext_of_needle hn hfind hspan, findNeedle, Option.map_eq_none_iff] at hfound
    rw [occurrences_eq hn, hfound]
    rfl
  | case2 lastStop s a hfound ih =>
    rw [findNext_of_needle hn hfind hspan] at hfound
    have hbounds : a.Within s := findNeedle_bounds hfound
    obtain ⟨i, hi, rfl⟩ := Option.map_eq_some_iff.mp hfound
    obtain ⟨hstart, -, hstop⟩ := hbounds
    obtain ⟨hpos, hrest⟩ := advance_eq s (i + needle.length - s.pos) (by dsimp only at hstop; omega)
    have hplace : s.pos + (i + needle.length - s.pos) = i + needle.length := by
      dsimp only at hstart
      omega
    rw [occurrences_eq hn, hi]
    simp only [hspan] at ih ⊢
    rw [ih, hpos, hrest, hplace]
    rfl

end Finder

namespace Regex

theorem ofText_of_ne_nil (hn : needle ≠ []) : ofText needle = ⟨[none], .text needle⟩ := by
  rw [ofText, if_neg (mt List.isEmpty_iff.mp hn)]

/-- The program of the empty text has found it as soon as it starts. -/
theorem isMatch_ofText_nil (t : Text) : (ofText []).isMatch t := by
  have hsettle (before after : Option Char) :
      Expr.empty.program.withoutMarks.settleAt [] none before after 0 = ⟨[], some ⟨0, 0, []⟩⟩ := by
    simp [Expr.program, Expr.emit, Program.withoutMarks, Program.settleAt, Program.threadsAt,
      Instr.withoutMark, settle]
  have hfind : Expr.empty.program.withoutMarks.find (.first t) = some ⟨0, 0, []⟩ := by
    cases t with
    | nil => simp [Program.find, Spot.first, Program.scan, hsettle]
    | cons c t => simp [Program.find, Spot.first, Program.scan, hsettle]
  rw [isMatch]
  change (Option.map _ (Expr.empty.program.withoutMarks.find (.first t))).isSome
  rw [hfind]
  rfl

/-- The regex of a text matches where the text occurs. -/
theorem isMatch_ofText (needle t : Text) : (ofText needle).isMatch t ↔ needle <:+: t := by
  by_cases hn : needle = []
  · subst hn
    exact iff_of_true (isMatch_ofText_nil t) List.nil_infix
  · rw [ofText_of_ne_nil hn, isMatch]
    change (Option.map _ (findText needle 0 t)).isSome ↔ _
    rw [Option.isSome_map, isSome_findText]

/-- All findings of the regex of a text are its occurrences. -/
theorem findSpans_ofText (hn : needle ≠ []) (t : Text) :
    (ofText needle).findSpans t =
      (occurrences needle 0 t).map fun i => ⟨i, i + needle.length⟩ := by
  rw [ofText_of_ne_nil hn, findSpans]
  exact Finder.allFrom_of_needle hn (fun _ => rfl) (fun _ => rfl) none (.first t)

end Regex
end Needle
end RegexLiteral.Pattern
