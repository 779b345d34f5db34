import RegexLiteral.Compiled
import RegexLiteral.Proofs.Literal.Reading

/-!
# When a literal compiles

A literal compiles if it can be split, if no error in its structure is held against it, if its
pattern uses no feature that the engine lacks, and if the engine takes the pattern. Where there are
segments nothing that was found about them is fatal (`hasFatal_of_split`), so the policy matters for
the second of these only (`compileLiteral_of_split`). What a literal then compiles to is put
together from its segments and the engine's regex (`compileLiteral_eq_ok_iff`).
-/
namespace RegexLiteral

open Pattern Reading

namespace Reading

theorem hasFatal_strayDelimiters (d : Char) (start : Nat) (ts : List Token) :
    Diagnostics.hasFatal (strayDelimiters d start ts) = false := by
  fun_induction strayDelimiters d start ts with
  | case1 => rfl
  | case2 start rest ih => exact ih
  | case3 start t rest ht ih => exact ih

theorem hasFatal_diagnostics (mode : Mode) (letters : Text) (d : Char) (body : Text) :
    Diagnostics.hasFatal (diagnostics mode letters d body) = false := by
  unfold diagnostics
  dsimp only
  split
  · exact hasFatal_strayDelimiters ..
  · split <;> rfl

end Reading

namespace CompiledLiteral

/-- The literal made of segments, of what was found about them, and of a regex. -/
def assemble (source : Text) (s : Segments) (found : Diagnostics) (regex : Regex) :
    CompiledLiteral :=
  let parsed := Flags.parse s.flags s.flagsOffset
  let tidy := if parsed.1.extended then Layout.strip else id
  { source := source
    mode := s.mode
    delimiter := s.delimiter
    pattern := tidy s.pattern
    replacement := tidy s.replacement
    flagsText := s.flags
    flags := parsed.1
    hasCaptures := s.hasCaptures
    hasNamedCaptures := s.hasNamedCaptures
    regex := regex
    diagnostics := found ++ parsed.2 }

section Assemble

variable (source : Text) (s : Segments) (found : Diagnostics) (regex : Regex)

theorem assemble_pattern : (assemble source s found regex).pattern =
    (if (assemble source s found regex).flags.extended then Layout.strip else id) s.pattern := rfl

theorem assemble_replacement : (assemble source s found regex).replacement =
    (if (assemble source s found regex).flags.extended then Layout.strip else id)
      s.replacement := rfl

end Assemble

/-- Nothing is held against a literal and its pattern before the engine sees it. -/
structure Passable (c : CompiledLiteral) (policy : Policy) : Prop where
  accepted : c.diagnostics.hasErrors → policy = .lenient
  featureless : Feature.usedBy? c.pattern = none

/-- What segments compile to if nothing is held against the literal's structure. -/
def finish (source : Text) (s : Segments) (found : Diagnostics) :
    Except CompileError CompiledLiteral :=
  let parsed := Flags.parse s.flags s.flagsOffset
  let pattern := (if parsed.1.extended then Layout.strip else id) s.pattern
  match Feature.usedBy? pattern with
  | some feature => .error (.unsupported pattern feature)
  | none =>
    match Regex.compile (parsed.1.enginePattern pattern) with
    | .error e => .error (.badPattern (parsed.1.enginePattern pattern) e)
    | .ok regex => .ok (assemble source s found regex)

section Finish

variable {source : Text} {s : Segments} {found : Diagnostics} {c : CompiledLiteral}

theorem finish_eq_ok_iff : finish source s found = .ok c ↔
    c = assemble source s found c.regex ∧ Feature.usedBy? c.pattern = none ∧
      Regex.compile c.enginePattern = .ok c.regex := by
  constructor
  · intro h
    unfold finish at h
    dsimp only at h
    split at h
    · cases h
    · rename_i hfeature
      split at h
      · cases h
      · rename_i regex hregex
        cases h
        exact ⟨rfl, hfeature, hregex⟩
  · rintro ⟨hc, hfeature, hregex⟩
    generalize c.regex = regex at hc hregex
    subst hc
    simp only [assemble, enginePattern] at hfeature hregex
    simp only [finish, hfeature, hregex]

theorem finish_ne_malformed (t : Text) (ds : Diagnostics) :
    finish source s found ≠ .error (.malformed t ds) := by
  intro h
  unfold finish at h
  dsimp only at h
  split at h
  · cases h
  · split at h <;> cases h

/-- Only the pattern and the flags that are on decide whether the engine can take a literal: two
literals with the same of both fail with one error, or one regex serves both. -/
theorem finish_together {source' : Text} {s' : Segments} {found' : Diagnostics}
    (hpattern : s'.pattern = s.pattern)
    (hflags : (Flags.parse s'.flags s'.flagsOffset).1 = (Flags.parse s.flags s.flagsOffset).1) :
    (∃ e, finish source s found = .error e ∧ finish source' s' found' = .error e) ∨
    ∃ regex, finish source s found = .ok (assemble source s found regex) ∧
      finish source' s' found' = .ok (assemble source' s' found' regex) := by
  unfold finish
  dsimp only
  rw [hflags, hpattern]
  split
  · exact .inl ⟨_, rfl, rfl⟩
  · split
    · exact .inl ⟨_, rfl, rfl⟩
    · exact .inr ⟨_, rfl, rfl⟩

end Finish

end CompiledLiteral

open CompiledLiteral

/-- What is found about a literal with segments is never fatal. -/
theorem hasFatal_of_split {source : Text} {s : Segments} {found : Diagnostics}
    (h : splitLiteral source = (some s, found)) : Diagnostics.hasFatal found = false := by
  cases hrest : (Opening.read source).rest with
  | nil =>
    have hnone := splitLiteral_of_nil hrest
    rw [h] at hnone
    cases hnone
  | cons d body =>
    rw [splitLiteral_of_rest hrest] at h
    cases h
    exact hasFatal_diagnostics ..

/-- Without segments there is nothing to compile, whatever the policy. -/
theorem compileLiteral_of_not_split {source : Text} {found : Diagnostics}
    (h : splitLiteral source = (none, found)) (policy : Policy) :
    compileLiteral source policy = .error (.malformed source found) := by
  unfold compileLiteral
  rw [h]
  rfl

/-- Once a literal is split, its policy decides only whether errors in its structure fail it. -/
theorem compileLiteral_of_split {source : Text} {s : Segments} {found : Diagnostics}
    (h : splitLiteral source = (some s, found)) (policy : Policy) :
    compileLiteral source policy =
      let diagnostics := found ++ (Flags.parse s.flags s.flagsOffset).2
      if Diagnostics.hasErrors diagnostics && policy = .strict then
        .error (.malformed source diagnostics)
      else finish source s found := by
  unfold compileLiteral
  simp only [h, hasFatal_of_split h, Bool.not_false, Option.filter_some, ↓reduceIte]
  rfl

/-- A literal compiles to what is assembled from its segments, provided that this is passable and
that the engine takes its pattern. -/
theorem compileLiteral_eq_ok_iff {source : Text} {policy : Policy} {c : CompiledLiteral} :
    compileLiteral source policy = .ok c ↔
      ∃ s found, splitLiteral source = (some s, found) ∧ c = assemble source s found c.regex ∧
        c.Passable policy ∧ Regex.compile c.enginePattern = .ok c.regex := by
  have hdiagnostics {s : Segments} {found : Diagnostics}
      (hc : c = assemble source s found c.regex) :
      c.diagnostics = found ++ (Flags.parse s.flags s.flagsOffset).2 := by
    rw [hc]
    rfl
  constructor
  · intro h
    cases hsplit : splitLiteral source with
    | mk s found =>
      cases s with
      | none =>
        rw [compileLiteral_of_not_split hsplit] at h
        cases h
      | some s =>
        rw [compileLiteral_of_split hsplit] at h
        dsimp only at h
        split at h
        · cases h
        · rename_i haccepted
          obtain ⟨hc, hfeature, hregex⟩ := finish_eq_ok_iff.mp h
          refine ⟨s, found, rfl, hc, ⟨fun herrors => ?_, hfeature⟩, hregex⟩
          rw [hdiagnostics hc] at herrors
          cases policy with
          | lenient => rfl
          | strict => exact absurd (by simpa using herrors) haccepted
  · rintro ⟨s, found, hsplit, hc, ⟨haccepted, hfeature⟩, hregex⟩
    rw [hdiagnostics hc] at haccepted
    rw [compileLiteral_of_split hsplit]
    dsimp only
    rw [if_neg]
    · exact finish_eq_ok_iff.mpr ⟨hc, hfeature, hregex⟩
    · intro h
      rw [Bool.and_eq_true, decide_eq_true_eq] at h
      cases (haccepted h.1).symm.trans h.2

/-- A literal without a delimiter does not compile, and any other has the segments that its tokens
say. -/
theorem exists_segments_of_compileLiteral {source : Text} {policy : Policy} {c : CompiledLiteral}
    (h : compileLiteral source policy = .ok c) :
    ∃ d body, (Opening.read source).rest = d :: body ∧
      c = assemble source
        (segments (Opening.read source).mode (Opening.read source).letters d body)
        (diagnostics (Opening.read source).mode (Opening.read source).letters d body) c.regex ∧
      Regex.compile c.enginePattern = .ok c.regex := by
  obtain ⟨s, found, hsplit, hc, -, hregex⟩ := compileLiteral_eq_ok_iff.mp h
  cases hrest : (Opening.read source).rest with
  | nil =>
    have hnone := splitLiteral_of_nil hrest
    rw [hsplit] at hnone
    cases hnone
  | cons d body =>
    rw [splitLiteral_of_rest hrest, Prod.mk.injEq, Option.some.injEq] at hsplit
    obtain ⟨rfl, rfl⟩ := hsplit
    exact ⟨d, body, rfl, hc, hregex⟩

/-- A check that passes on what a literal compiles to shows that it compiles. -/
theorem exists_of_any_compileLiteral {source : Text} {policy : Policy} {p : CompiledLiteral → Bool}
    (h : (compileLiteral source policy).toOption.any p) :
    ∃ c, compileLiteral source policy = .ok c ∧ p c := by
  cases hc : compileLiteral source policy with
  | error e =>
    rw [hc] at h
    cases h
  | ok c =>
    rw [hc] at h
    exact ⟨c, rfl, h⟩

end RegexLiteral
