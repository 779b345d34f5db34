import Mathlib
import RegexLiteral.Proofs.Literal.Anomalies
import RegexLiteral.Proofs.Literal.Ranges

/-!
# Strict and lenient compiling

All that is found out about a literal's structure and its flags is known before the policy is asked
for. The policy decides only what is done if there is an error among it: the strict one fails the
literal with all that was found, the lenient one goes on and keeps it. Where there is nothing to
split neither can go on. Main statement: this is the whole difference between the two
(`policies_differ_in_errors`).
-/
namespace RegexLiteral

open CompiledLiteral Reading

section Findings

variable {source : Text} {s : Segments} {found : Diagnostics} {c : CompiledLiteral}

/-- A literal with a delimiter is split. -/
theorem exists_split (h : ¬(source = [] ∨ source ∈ bareLetters)) :
    ∃ s found, splitLiteral source = (some s, found) := by
  cases hrest : (Opening.read source).rest with
  | nil => exact absurd (rest_eq_nil_iff.mp hrest) h
  | cons d body => exact ⟨_, _, splitLiteral_of_rest hrest⟩

/-- Without a delimiter there is nothing to compile, whatever the policy. -/
theorem compileLiteral_of_bare (h : source = [] ∨ source ∈ bareLetters) (policy : Policy) :
    compileLiteral source policy = .error (.malformed source (findings source)) := by
  have hnone := splitLiteral_of_nil (rest_eq_nil_iff.mpr h)
  have hsplit : splitLiteral source = (none, (splitLiteral source).2) := Prod.ext hnone rfl
  rw [findings, compileLiteral_of_not_split hsplit, hsplit]

/-- The policy is asked for once all is found out. -/
theorem compileLiteral_of_findings (h : splitLiteral source = (some s, found)) (policy : Policy) :
    compileLiteral source policy =
      if (findings source).hasErrors && policy = .strict then
        .error (.malformed source (findings source))
      else finish source s found := by
  rw [compileLiteral_of_split h, findings_of_split h]

theorem compileLiteral_lenient (h : splitLiteral source = (some s, found)) :
    compileLiteral source .lenient = finish source s found := by
  simp [compileLiteral_of_findings h]

/-- A literal that compiles keeps all that was found out about it. -/
theorem diagnostics_of_compileLiteral {policy : Policy} (h : compileLiteral source policy = .ok c) :
    c.diagnostics = findings source := by
  obtain ⟨s, found, hsplit, hc, -⟩ := compileLiteral_eq_ok_iff.mp h
  rw [findings_of_split hsplit, hc]
  rfl

/-- With an error among what is found the strict policy fails a literal for its structure. -/
theorem compileLiteral_strict_of_errors (hopen : ¬(source = [] ∨ source ∈ bareLetters))
    (herrors : (findings source).hasErrors = true) :
    compileLiteral source .strict = .error (.malformed source (findings source)) := by
  obtain ⟨s, found, hsplit⟩ := exists_split hopen
  rw [compileLiteral_of_findings hsplit]
  simp [herrors]

/-- Without an error among what is found it does not matter what is done about errors. -/
theorem compileLiteral_strict_of_clean (hopen : ¬(source = [] ∨ source ∈ bareLetters))
    (hclean : (findings source).hasErrors = false) :
    compileLiteral source .strict = compileLiteral source .lenient := by
  obtain ⟨s, found, hsplit⟩ := exists_split hopen
  rw [compileLiteral_lenient hsplit, compileLiteral_of_findings hsplit]
  simp [hclean]

/-- What compiles under the strict policy was split, and no error was found. -/
theorem clean_of_compileLiteral_strict (h : compileLiteral source .strict = .ok c) :
    ¬(source = [] ∨ source ∈ bareLetters) ∧ (findings source).hasErrors = false := by
  have hopen : ¬(source = [] ∨ source ∈ bareLetters) := by
    intro hbare
    cases (compileLiteral_of_bare hbare .strict).symm.trans h
  refine ⟨hopen, ?_⟩
  by_contra herrors
  rw [Bool.not_eq_false] at herrors
  cases (compileLiteral_strict_of_errors hopen herrors).symm.trans h

end Findings

/-- What the policy decides. Where there is no delimiter both policies fail the literal with what
was found, and the lenient policy fails no other literal for its structure. If there is an error
among what was found, the strict policy fails the literal with all of it, warnings included, and
the lenient policy keeps just that with what it compiles. Else the two agree. So what compiles
under the strict policy compiles to the same under the lenient one, and no error is kept with it.
-/
theorem policies_differ_in_errors (source : Text) :
    (source = [] ∨ source ∈ bareLetters →
      ∀ policy, compileLiteral source policy = .error (.malformed source (findings source))) ∧
    (∀ t ds, compileLiteral source .lenient = .error (.malformed t ds) →
      source = [] ∨ source ∈ bareLetters) ∧
    (¬(source = [] ∨ source ∈ bareLetters) → (findings source).hasErrors = true →
      compileLiteral source .strict = .error (.malformed source (findings source)) ∧
      ∀ c, compileLiteral source .lenient = .ok c → c.diagnostics = findings source) ∧
    (¬(source = [] ∨ source ∈ bareLetters) → (findings source).hasErrors = false →
      compileLiteral source .strict = compileLiteral source .lenient) ∧
    (∀ c, compileLiteral source .strict = .ok c →
      compileLiteral source .lenient = .ok c ∧ c.diagnostics.hasErrors = false) := by
  refine ⟨compileLiteral_of_bare, fun t ds h => ?_, fun hopen herrors => ⟨?_, fun c h => ?_⟩,
    compileLiteral_strict_of_clean, fun c h => ?_⟩
  · by_contra hopen
    obtain ⟨s, found, hsplit⟩ := exists_split hopen
    rw [compileLiteral_lenient hsplit] at h
    exact finish_ne_malformed t ds h
  · exact compileLiteral_strict_of_errors hopen herrors
  · exact diagnostics_of_compileLiteral h
  · obtain ⟨hopen, hclean⟩ := clean_of_compileLiteral_strict h
    rw [diagnostics_of_compileLiteral h]
    exact ⟨(compileLiteral_strict_of_clean hopen hclean).symm.trans h, hclean⟩

/-- Two slashes are one too many, and the flag behind them is not known. The strict policy tells
both, the lenient one compiles the literal and keeps both. -/
theorem policies_differ_in_errors_slashes :
    compileLiteral "m/a//q".toList .strict =
      .error (.malformed "m/a//q".toList (findings "m/a//q".toList)) ∧
    (findings "m/a//q".toList).kinds = [.delimiterAfterFlags, .unknownFlag] ∧
    ∃ c, compileLiteral "m/a//q".toList .lenient = .ok c ∧
      c.diagnostics = findings "m/a//q".toList := by
  have hopen : ¬("m/a//q".toList = [] ∨ "m/a//q".toList ∈ bareLetters) := by decide +kernel
  have herrors : (findings "m/a//q".toList).hasErrors = true := by decide +kernel
  have hok : (compileLiteral "m/a//q".toList .lenient).toOption.any fun _ => true := by cbv
  obtain ⟨c, hc, -⟩ := exists_of_any_compileLiteral hok
  obtain ⟨-, -, hdiffer, -⟩ := policies_differ_in_errors "m/a//q".toList
  obtain ⟨hstrict, hkept⟩ := hdiffer hopen herrors
  exact ⟨hstrict, by decide +kernel, c, hc, hkept c hc⟩

end RegexLiteral
