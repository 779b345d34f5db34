import RegexLiteral.Pattern.Search

/-!
# All matches in a text

A finder looks for something from a place on. What it finds one after the other does not overlap: a
search goes on where the last finding ended, and an empty finding there is passed over. Main
statement: a finding lies in the text that is left and, if the last one ended where the search goes
on, ends behind that place (`findNext_bounds`), so the search comes to an end.
-/
namespace RegexLiteral.Pattern

/-- A span lies between a place and the end of the text. -/
def Span.Within (a : Span) (s : Spot) : Prop :=
  s.pos ≤ a.start ∧ a.start ≤ a.stop ∧ a.stop ≤ s.pos + s.rest.length

/-- A way to look for something from a place on. -/
structure Finder (α : Type) where
  /-- What is found first from a place on. -/
  find : Spot → Option α
  /-- What a finding covers. -/
  span : α → Span
  bounds : ∀ {s a}, find s = some a → (span a).Within s

theorem advance_eq (s : Spot) (n : Nat) (h : n ≤ s.rest.length) :
    (s.advance n).pos = s.pos + n ∧ (s.advance n).rest = s.rest.drop n := by
  induction n generalizing s with
  | zero => simp [Spot.advance]
  | succ n ih =>
    cases hr : s.rest with
    | nil => simp [hr] at h
    | cons c rest =>
      have hl : n ≤ (Spot.mk (some c) (s.pos + 1) rest).rest.length := by simpa [hr] using h
      have := ih _ hl
      simp only [Spot.advance, hr, List.drop_succ_cons]
      exact ⟨by rw [this.1]; show s.pos + 1 + n = s.pos + (n + 1); omega, this.2⟩

namespace Finder

variable {α : Type}

/-- The first finding from a place on that is not an empty one at the end of the last. -/
def findNext (f : Finder α) (lastStop : Option Nat) (s : Spot) : Option α :=
  match f.find s with
  | none => none
  | some a =>
    if (f.span a).start = (f.span a).stop && lastStop = some (f.span a).stop then
      match s.rest with
      | [] => none
      | _ :: _ => f.find (s.advance 1)
    else some a

/-- A further finding lies in the text that is left and, if the last one ended where the search
starts, ends behind that place. -/
theorem findNext_bounds {f : Finder α} {lastStop : Option Nat} {s : Spot} {a : α}
    (h : f.findNext lastStop s = some a) :
    (f.span a).Within s ∧ (lastStop = some s.pos → s.pos < (f.span a).stop) := by
  unfold findNext at h
  split at h
  · cases h
  · rename_i b hb
    have hw := f.bounds hb
    unfold Span.Within at *
    split at h
    · split at h
      · cases h
      · rename_i c rest hr
        have ha := advance_eq s 1 (by simp [hr])
        have hw' := f.bounds h
        unfold Span.Within at hw'
        rw [ha.1, ha.2] at hw'
        simp only [hr, List.drop_succ_cons, List.drop_zero, List.length_cons] at hw' ⊢
        exact ⟨⟨by omega, hw'.2.1, by omega⟩, fun _ => by omega⟩
    · rename_i hne
      cases h
      refine ⟨hw, fun hl => ?_⟩
      simp only [hl, Bool.and_eq_true, decide_eq_true_eq, Option.some.injEq, not_and] at hne
      rcases Nat.lt_or_ge s.pos (f.span a).stop with hlt | hge
      · exact hlt
      · exact absurd (by omega) (hne (by omega))

/-- The findings from a place on; `lastStop` is where the one before them ended. -/
def allFrom (f : Finder α) (lastStop : Option Nat) (s : Spot) : List α :=
  match _found : f.findNext lastStop s with
  | none => []
  | some a => a :: allFrom f (some (f.span a).stop) (s.advance ((f.span a).stop - s.pos))
termination_by 2 * s.rest.length + (if lastStop = some s.pos then 0 else 1)
decreasing_by
  have hb := findNext_bounds _found
  unfold Span.Within at hb
  have ha := advance_eq s ((f.span a).stop - s.pos) (by omega)
  have hs : some (f.span a).stop = some (s.advance ((f.span a).stop - s.pos)).pos := by
    rw [ha.1]
    congr 1
    omega
  rw [if_pos hs, ha.2, List.length_drop]
  split
  · rename_i hl
    have := hb.2 hl
    omega
  · omega

/-- All findings in a text, from left to right. -/
def all (f : Finder α) (t : Text) : List α := f.allFrom none (.first t)

end Finder
end RegexLiteral.Pattern
