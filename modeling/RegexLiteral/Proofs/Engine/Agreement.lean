import Mathlib
import RegexLiteral.Engine.Facade
import RegexLiteral.Proofs.Substituting

/-!
# What the operations of an engine tell of one literal

Six operations use a literal on a text. Each compiles it through the cache and goes on with what
came of that, so whatever the cache holds, they all start from the same compiled literal or the same
error. From there they check the mode in ways of their own, search with groups or without, for the
first match or for all, and write the result back or return it. Main statement: asked of the same
engine they never contradict each other (`operations_agree`).
-/
namespace RegexLiteral

open Pattern

namespace Engine

/-- The operations that use a literal all fail with one error, and the text stays as it is. -/
structure AllFail (e : Engine) (haystack literal : Text) (x : EngineError) : Prop where
  isMatch : (e.isMatch haystack literal).1 = .error x
  matchDetailed : (e.matchDetailed haystack literal).1 = .error x
  substitute : (e.substitute haystack literal).answer = .error x
  substituteDetailed : (e.substituteDetailed haystack literal).answer = .error x
  substituteToText : (e.substituteToText haystack literal).1 = .error x
  dispatch : (e.dispatch haystack literal).answer = .error x
  kept : (e.substitute haystack literal).buffer = haystack ∧
    (e.substituteDetailed haystack literal).buffer = haystack ∧
    (e.dispatch haystack literal).buffer = haystack

/-- The operations find a match or not, all alike, and those that replace it make the same text,
whether they return it, tell it, or put it in the place of the text. -/
structure AllReplace (e : Engine) (haystack literal : Text) (found : Bool) (after : Text) :
    Prop where
  isMatch : (e.isMatch haystack literal).1 = .ok found
  matchDetailed : (e.matchDetailed haystack literal).1.map Outcome.isMatch = .ok found
  substitute : (e.substitute haystack literal).answer = .ok found
  substituteDetailed :
    (e.substituteDetailed haystack literal).answer.map Outcome.isMatch = .ok found
  dispatch : (e.dispatch haystack literal).answer = .ok found
  returned : (e.substituteToText haystack literal).1 = .ok after
  told : (e.substituteDetailed haystack literal).answer.map Outcome.substituted = .ok (some after)
  put : (e.substitute haystack literal).buffer = after ∧
    (e.substituteDetailed haystack literal).buffer = after ∧
    (e.dispatch haystack literal).buffer = after

/-- The operations that look for a match find one or not, all alike, those that only replace fail
with one error, and the text stays as it is. -/
structure AllMatch (e : Engine) (haystack literal : Text) (found : Bool) (x : EngineError) :
    Prop where
  isMatch : (e.isMatch haystack literal).1 = .ok found
  matchDetailed : (e.matchDetailed haystack literal).1.map Outcome.isMatch = .ok found
  dispatch : (e.dispatch haystack literal).answer = .ok found
  substitute : (e.substitute haystack literal).answer = .error x
  substituteDetailed : (e.substituteDetailed haystack literal).answer = .error x
  substituteToText : (e.substituteToText haystack literal).1 = .error x
  kept : (e.substitute haystack literal).buffer = haystack ∧
    (e.substituteDetailed haystack literal).buffer = haystack ∧
    (e.dispatch haystack literal).buffer = haystack

section Using

variable {α : Type} {e : Engine} {haystack literal : Text} {c : CompiledLiteral} {x : EngineError}

theorem withCompiled_fst (e : Engine) (literal : Text)
    (f : CompiledLiteral → Except EngineError α) :
    (e.withCompiled literal f).1 = (e.compile literal).1.bind f := rfl

/-- Whether anything is replaced or not, the text after it is the one that the outcome tells. -/
theorem substituteIn_of_substitution (haystack : Text) (hmode : c.mode = .substitution) :
    (substituteIn c).run haystack =
      (.ok (c.runSubstitute haystack), (c.runSubstitute haystack).substituted.getD haystack) := by
  rw [substituteIn_of_ok (by rw [ensureSubstitution, hmode])]
  split
  · rfl
  · rename_i hmatch
    rw [CompiledLiteral.substituted_of_no_match (by simpa using hmatch)]
    rfl

theorem isMatch_fst (e : Engine) (haystack literal : Text) :
    (e.isMatch haystack literal).1 = (e.compile literal).1.bind fun c =>
      (ensureMatchable c).map fun _ => c.regex.isMatch haystack := by
  refine (e.withCompiled_fst literal _).trans (congrArg _ (funext fun c => ?_))
  cases ensureMatchable c <;> rfl

theorem matchDetailed_fst (e : Engine) (haystack literal : Text) :
    (e.matchDetailed haystack literal).1 = (e.compile literal).1.bind fun c =>
      (ensureMatchable c).map fun _ => c.runMatch haystack := by
  refine (e.withCompiled_fst literal _).trans (congrArg _ (funext fun c => ?_))
  cases ensureMatchable c <;> rfl

theorem substituteToText_fst (e : Engine) (haystack literal : Text) :
    (e.substituteToText haystack literal).1 = (e.compile literal).1.bind fun c =>
      (ensureSubstitution c).map fun _ => (c.runSubstitute haystack).substituted.getD haystack := by
  refine (e.withCompiled_fst literal _).trans (congrArg _ (funext fun c => ?_))
  cases ensureSubstitution c <;> rfl

theorem allFail_of_not_compiled (h : (e.compile literal).1 = .error x) :
    AllFail e haystack literal x where
  isMatch := by rw [isMatch_fst, h]; rfl
  matchDetailed := by rw [matchDetailed_fst, h]; rfl
  substitute := by rw [substitute, substituteDetailed, edit_of_error h]; rfl
  substituteDetailed := by rw [substituteDetailed, edit_of_error h]
  substituteToText := by rw [substituteToText_fst, h]; rfl
  dispatch := by rw [dispatch, edit_of_error h]
  kept := by
    rw [substitute, dispatch, substituteDetailed, edit_of_error h, edit_of_error h]
    exact ⟨rfl, rfl, rfl⟩

/-- Whatever is asked for of the matches, it is asked alike of a match and of a substitution. -/
theorem isMatch_of_matchable (haystack : Text) (h : (e.compile literal).1 = .ok c)
    (hc : ensureMatchable c = .ok ()) :
    (e.isMatch haystack literal).1 = .ok (c.regex.isMatch haystack) ∧
      (e.matchDetailed haystack literal).1.map Outcome.isMatch =
        .ok (c.regex.isMatch haystack) := by
  rw [isMatch_fst, matchDetailed_fst, h]
  simp only [Except.bind, hc, Except.map, c.isMatch_runMatch, and_self]

/-- A literal that is no substitution fails the replacing operations, which leave the text alone. -/
theorem replacing_of_error (haystack : Text) (h : (e.compile literal).1 = .ok c)
    (hx : ensureSubstitution c = .error x) :
    ((e.substitute haystack literal).answer = .error x ∧
      (e.substituteDetailed haystack literal).answer = .error x ∧
      (e.substituteToText haystack literal).1 = .error x) ∧
    (e.substitute haystack literal).buffer = haystack ∧
      (e.substituteDetailed haystack literal).buffer = haystack := by
  rw [substitute, substituteDetailed, edit_of_ok h, substituteToText_fst, h]
  simp only [Except.bind, substituteIn_of_error hx, hx, Except.map, and_self]

theorem allFail_of_transliteration (h : (e.compile literal).1 = .ok c)
    (hmode : c.mode = .transliteration) :
    AllFail e haystack literal (.unsupportedMode c.source c.mode) := by
  have hmatchable : ensureMatchable c = .error (.unsupportedMode c.source c.mode) := by
    rw [ensureMatchable, hmode]
  have hsubstitution : ensureSubstitution c = .error (.unsupportedMode c.source c.mode) := by
    rw [ensureSubstitution, hmode]
  obtain ⟨⟨hsubstitute, hdetailed, htext⟩, hkept, hkeptDetailed⟩ :=
    replacing_of_error haystack h hsubstitution
  refine ⟨?_, ?_, hsubstitute, hdetailed, htext, ?_, hkept, hkeptDetailed, ?_⟩
  · rw [isMatch_fst, h]
    simp only [Except.bind, hmatchable, Except.map]
  · rw [matchDetailed_fst, h]
    simp only [Except.bind, hmatchable, Except.map]
  · rw [dispatch, edit_of_ok h, hmode]
    rfl
  · rw [dispatch, edit_of_ok h, hmode]
    rfl

theorem allMatch_of_matching (h : (e.compile literal).1 = .ok c) (hmode : c.mode = .matching) :
    AllMatch e haystack literal (c.regex.isMatch haystack)
      (.modeMismatch c.source c.mode) := by
  have hmatchable : ensureMatchable c = .ok () := by rw [ensureMatchable, hmode]
  have hsubstitution : ensureSubstitution c = .error (.modeMismatch c.source c.mode) := by
    rw [ensureSubstitution, hmode]
  obtain ⟨hmatch, hmatchDetailed⟩ := isMatch_of_matchable haystack h hmatchable
  obtain ⟨⟨hsubstitute, hdetailed, htext⟩, hkept, hkeptDetailed⟩ :=
    replacing_of_error haystack h hsubstitution
  refine ⟨hmatch, hmatchDetailed, ?_, hsubstitute, hdetailed, htext, hkept, hkeptDetailed, ?_⟩
  · rw [dispatch, edit_of_ok h, hmode, ← c.isMatch_runMatch]
    rfl
  · rw [dispatch, edit_of_ok h, hmode]
    rfl

theorem allReplace_of_substitution (h : (e.compile literal).1 = .ok c)
    (hmode : c.mode = .substitution) :
    AllReplace e haystack literal (c.regex.isMatch haystack)
      ((c.runSubstitute haystack).substituted.getD haystack) := by
  have hmatchable : ensureMatchable c = .ok () := by rw [ensureMatchable, hmode]
  have hsubstitution : ensureSubstitution c = .ok () := by rw [ensureSubstitution, hmode]
  have hin := substituteIn_of_substitution haystack hmode
  obtain ⟨hmatch, hmatchDetailed⟩ := isMatch_of_matchable haystack h hmatchable
  refine ⟨hmatch, hmatchDetailed, ?_, ?_, ?_, ?_, ?_, ?_, ?_, ?_⟩
  · rw [substitute, substituteDetailed, edit_of_ok h, hin, ← c.isMatch_runSubstitute]
    rfl
  · rw [substituteDetailed, edit_of_ok h, hin, ← c.isMatch_runSubstitute]
    rfl
  · rw [dispatch, edit_of_ok h, hmode, ← c.isMatch_runSubstitute]
    dsimp only
    rw [run_bind_pure, hin]
    rfl
  · rw [substituteToText_fst, h]
    simp only [Except.bind, hsubstitution, Except.map]
  · rw [substituteDetailed, edit_of_ok h, hin]
    simp only [Except.map, c.substituted_runSubstitute, Option.getD_some]
  · rw [substitute, substituteDetailed, edit_of_ok h, hin]
  · rw [substituteDetailed, edit_of_ok h, hin]
  · rw [dispatch, edit_of_ok h, hmode]
    dsimp only
    rw [run_bind_pure, hin]

end Using

end Engine

open Engine

/-- What the operations tell of a literal, each asked of the same engine in whatever state it is. If
the literal does not compile, all fail with the same error. If it is a substitution, they agree on
whether there is a match, and the text that the editing ones leave is the one that is told and the
one that is returned. If it is a match, those that look for one agree, the text is left alone, and
the replacing ones fail. A transliteration is refused by all. -/
theorem operations_agree (e : Engine) (literal haystack : Text) :
    match (e.compile literal).1 with
    | .error x => AllFail e haystack literal x
    | .ok c =>
      match c.mode with
      | .substitution => ∃ found after, AllReplace e haystack literal found after
      | .matching => ∃ found, AllMatch e haystack literal found (.modeMismatch c.source c.mode)
      | .transliteration => AllFail e haystack literal (.unsupportedMode c.source c.mode) := by
  split
  · rename_i x h
    exact allFail_of_not_compiled h
  · rename_i c h
    split
    · rename_i hmode
      exact ⟨_, _, allReplace_of_substitution h hmode⟩
    · rename_i hmode
      exact ⟨_, allMatch_of_matching h hmode⟩
    · rename_i hmode
      exact allFail_of_transliteration h hmode

end RegexLiteral
