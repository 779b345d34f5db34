import Mathlib
import RegexLiteral.Proofs.Engine.Transparency

/-!
# What a request leaves behind

A request that names a literal compiles it and then uses it on the text. `Request.use` says what is
made of a literal that compiled, as an operation that may write the text, and nothing else happens:
the engine after the request is the engine after compiling alone (`step_of_literal`). An operation
that refuses its literal has not written the text (`ending_use`). So there are three ways in which
such a request can end, and `step_cases` tells for each what it leaves. Main statement: a request
that fails leaves the text as it is and in the cache no more than compiling does, and only a
substitution that finds a match changes a text (`failure_leaves_no_trace`).
-/
namespace RegexLiteral

open Engine

/-- Whether a literal compiled but is of a mode that the request cannot do with. -/
def EngineError.isRefusal : EngineError → Bool
  | .compile _ => false
  | _ => true

namespace Cache

variable {α ε : Type}

theorem enabled_put (c : Cache α) (key : Text) (value : α) :
    (c.put key value).enabled = c.enabled := by
  unfold put
  split <;> rfl

theorem enabled_getOrCompile (c : Cache α) (key : Text) (compile : Text → Except ε α) :
    (c.getOrCompile key compile).2.enabled = c.enabled := by
  rcases c.getOrCompile_cases key compile with ⟨_, -, h⟩ | ⟨_, -, h⟩ | ⟨_, -, h⟩
  · rw [h]
  · rw [h]
  · rw [h]
    exact enabled_put ..

end Cache

namespace Engine

theorem policy_compile (e : Engine) (literal : Text) :
    (e.compile literal).2.policy = e.policy := rfl

theorem enabled_compile (e : Engine) (literal : Text) :
    (e.compile literal).2.cache.enabled = e.cache.enabled :=
  e.cache.enabled_getOrCompile literal fun source => compileLiteral source e.policy

/-- A literal that does not compile leaves the engine as it was. -/
theorem compile_cases (e : Engine) (literal : Text) :
    (∃ x, e.compile literal = (.error (.compile x), e)) ∨
    (∃ c, (e.compile literal).1 = .ok c) := by
  unfold compile
  rcases e.cache.getOrCompile_cases literal (fun source => compileLiteral source e.policy) with
    ⟨c, -, h⟩ | ⟨x, -, h⟩ | ⟨c, -, h⟩
  · exact .inr ⟨c, by rw [h]; rfl⟩
  · exact .inl ⟨x, by rw [h]; rfl⟩
  · exact .inr ⟨c, by rw [h]; rfl⟩

/-- Checks of the mode fail by refusing the literal. -/
theorem isRefusal_of_ensureMatchable {c : CompiledLiteral} {x : EngineError}
    (h : ensureMatchable c = .error x) : x.isRefusal := by
  unfold ensureMatchable at h
  split at h
  · cases h
    rfl
  · cases h

theorem isRefusal_of_ensureSubstitution {c : CompiledLiteral} {x : EngineError}
    (h : ensureSubstitution c = .error x) : x.isRefusal := by
  unfold ensureSubstitution at h
  split at h
  · cases h
  · cases h
    rfl
  · cases h
    rfl

theorem mode_of_ensureSubstitution {c : CompiledLiteral} (h : ensureSubstitution c = .ok ()) :
    c.mode = .substitution := by
  unfold ensureSubstitution at h
  split at h
  · assumption
  · cases h
  · cases h

end Engine

namespace Request

/-- The literal that a request compiles and uses. -/
def literal? : Request → Option Text
  | .compile literal => some literal
  | .isMatch literal => some literal
  | .matchDetailed literal => some literal
  | .substitute literal => some literal
  | .substituteDetailed literal => some literal
  | .substituteToText literal => some literal
  | .dispatch literal => some literal
  | _ => none

/-- Whether a request may put another text in the place of the text. -/
def editsText : Request → Bool
  | .substitute _ => true
  | .substituteDetailed _ => true
  | .dispatch _ => true
  | _ => false

/-- What a request makes of its literal, as an operation on the text. -/
def use (r : Request) (c : CompiledLiteral) : Editing Answer :=
  match r with
  | .isMatch _ => do
    MonadExcept.ofExcept (ensureMatchable c)
    return .bool (c.regex.isMatch (← get))
  | .matchDetailed _ => do
    MonadExcept.ofExcept (ensureMatchable c)
    return .outcome (c.runMatch (← get))
  | .substitute _ => return .bool (← substituteIn c).isMatch
  | .substituteDetailed _ => return .outcome (← substituteIn c)
  | .substituteToText _ => do
    MonadExcept.ofExcept (ensureSubstitution c)
    let text ← get
    return .text ((c.runSubstitute text).substituted.getD text)
  | .dispatch _ =>
    match c.mode with
    | .substitution => return .bool (← substituteIn c).isMatch
    | .matching => return .bool (c.runMatch (← get)).isMatch
    | .transliteration => throw (.unsupportedMode c.source c.mode)
  | _ => return .literal c

/-- How using a literal on a text can end: it is refused and the text is as it was, or it is
answered and the text has changed only if a substitution that edits it found a match. -/
inductive Ending (r : Request) (buffer : Text) (c : CompiledLiteral) :
    Except EngineError Answer × Text → Prop where
  | refused {e : EngineError} (he : e.isRefusal) : Ending r buffer c (.error e, buffer)
  | answered {a : Answer} {after : Text} (ha : ∀ e, a ≠ .failed e)
      (hafter : after ≠ buffer →
        r.editsText ∧ c.mode = .substitution ∧ (c.runSubstitute buffer).isMatch) :
      Ending r buffer c (.ok a, after)

namespace Ending

variable {r : Request} {buffer : Text} {c : CompiledLiteral} {a : Answer}

/-- An answer that keeps the text. -/
theorem kept (ha : ∀ e, a ≠ .failed e) : Ending r buffer c (.ok a, buffer) :=
  .answered ha fun hne => absurd rfl hne

/-- An operation that reads the text behind a check. -/
theorem of_check {check : Except EngineError Unit} (hcheck : ∀ {x}, check = .error x → x.isRefusal)
    {f : Text → Answer} (ha : ∀ t e, f t ≠ .failed e) :
    Ending r buffer c ((do
      MonadExcept.ofExcept check
      return f (← get) : Editing Answer).run buffer) := by
  rw [run_ofExcept_bind]
  cases h : check with
  | error x => exact refused (hcheck h)
  | ok u => exact kept (ha buffer)

theorem of_substituteIn (f : Outcome → Answer) (hr : r.editsText)
    (hf : ∀ o e, f o ≠ .failed e) :
    Ending r buffer c ((substituteIn c >>= fun o => pure (f o) : Editing Answer).run buffer) := by
  rw [run_bind_pure]
  cases hcheck : ensureSubstitution c with
  | error x =>
    rw [substituteIn_of_error hcheck]
    exact refused (isRefusal_of_ensureSubstitution hcheck)
  | ok u =>
    rw [substituteIn_of_ok hcheck]
    refine answered (hf _) fun hne => ⟨hr, mode_of_ensureSubstitution hcheck, ?_⟩
    by_contra hmatch
    exact hne (if_neg hmatch)

end Ending

theorem ending_use (r : Request) (buffer : Text) (c : CompiledLiteral) :
    Ending r buffer c ((r.use c).run buffer) := by
  cases r with
  | isMatch literal => exact .of_check isRefusal_of_ensureMatchable fun _ _ => by simp
  | matchDetailed literal => exact .of_check isRefusal_of_ensureMatchable fun _ _ => by simp
  | substitute literal => exact .of_substituteIn (fun o => .bool o.isMatch) rfl fun _ _ => by simp
  | substituteDetailed literal => exact .of_substituteIn .outcome rfl fun _ _ => by simp
  | substituteToText literal =>
    exact .of_check isRefusal_of_ensureSubstitution fun _ _ => by simp
  | dispatch literal =>
    unfold use
    cases hmode : c.mode with
    | matching => exact .kept fun _ => by simp
    | substitution => exact .of_substituteIn (fun o => .bool o.isMatch) rfl fun _ _ => by simp
    | transliteration => exact .refused rfl
  | _ => exact .kept fun _ => by simp

end Request

namespace Session

variable {r : Request} {literal : Text}

/-- The answer and the session that come of compiling a literal and using it on the text. -/
def conclude (s : Session) (literal : Text) (use : CompiledLiteral → Editing Answer) :
    Answer × Session :=
  let (answer, after) :=
    (MonadExcept.ofExcept (s.engine.compile literal).1 >>= use : Editing Answer).run s.buffer
  (answerOf id answer, ⟨(s.engine.compile literal).2, after⟩)

section Conclude

variable {s : Session} {c : CompiledLiteral} {x : EngineError}
  {use : CompiledLiteral → Editing Answer}

theorem conclude_of_error (h : (s.engine.compile literal).1 = .error x) :
    s.conclude literal use = (.failed x, { s with engine := (s.engine.compile literal).2 }) := by
  unfold conclude
  rw [run_ofExcept_bind, h]
  rfl

theorem conclude_of_ok (h : (s.engine.compile literal).1 = .ok c) :
    s.conclude literal use =
      (answerOf id ((use c).run s.buffer).1,
        ⟨(s.engine.compile literal).2, ((use c).run s.buffer).2⟩) := by
  unfold conclude
  rw [run_ofExcept_bind, h]
  rfl

theorem reading_withCompiled {α : Type} {ok : α → Answer}
    {f : CompiledLiteral → Except EngineError α}
    (huse : ∀ c, (use c).run s.buffer = ((f c).map ok, s.buffer)) :
    s.reading ok (s.engine.withCompiled literal f) = s.conclude literal use := by
  have hengine : (s.engine.withCompiled literal f).2 = (s.engine.compile literal).2 := rfl
  have hanswer : (s.engine.withCompiled literal f).1 = (s.engine.compile literal).1.bind f := rfl
  unfold Session.reading
  rw [hengine, hanswer]
  cases h : (s.engine.compile literal).1 with
  | error e =>
    rw [conclude_of_error h]
    rfl
  | ok c =>
    rw [conclude_of_ok h, huse, Except.bind]
    cases f c <;> rfl

theorem editing_edit {α : Type} {ok : α → Answer} {f : CompiledLiteral → Editing α}
    (huse : ∀ c, (use c).run s.buffer =
      (((f c).run s.buffer).1.map ok, ((f c).run s.buffer).2)) :
    Session.editing ok (s.engine.edit s.buffer literal f) = s.conclude literal use := by
  unfold Session.editing
  cases h : (s.engine.compile literal).1 with
  | error e =>
    rw [edit_of_error h, conclude_of_error h]
    rfl
  | ok c =>
    rw [edit_of_ok h, conclude_of_ok h, huse]
    cases ((f c).run s.buffer).1 <;> rfl

end Conclude

/-- A request that names a literal compiles it and uses it, and does no more. -/
theorem step_of_literal (s : Session) (h : r.literal? = some literal) :
    s.step r = s.conclude literal r.use := by
  cases r with
  | compile l =>
    cases h
    cases hcompile : (s.engine.compile literal).1 with
    | error e =>
      rw [conclude_of_error hcompile, step, Session.reading, hcompile]
      rfl
    | ok c =>
      rw [conclude_of_ok hcompile, step, Session.reading, hcompile]
      rfl
  | isMatch l =>
    cases h
    refine reading_withCompiled fun c => ?_
    dsimp only [Request.use]
    rw [run_ofExcept_bind]
    cases ensureMatchable c <;> rfl
  | matchDetailed l =>
    cases h
    refine reading_withCompiled fun c => ?_
    dsimp only [Request.use]
    rw [run_ofExcept_bind]
    cases ensureMatchable c <;> rfl
  | substitute l =>
    cases h
    exact (Shadows.editing_substitute s literal).trans (editing_edit fun c => run_bind_pure ..)
  | substituteDetailed l =>
    cases h
    exact editing_edit fun c => run_bind_pure ..
  | substituteToText l =>
    cases h
    refine reading_withCompiled fun c => ?_
    dsimp only [Request.use]
    rw [run_ofExcept_bind]
    cases ensureSubstitution c <;> rfl
  | dispatch l =>
    cases h
    refine editing_edit fun c => ?_
    dsimp only [Request.use]
    cases c.mode with
    | substitution =>
      dsimp only
      rw [run_bind_pure, run_bind_pure]
      cases ((substituteIn c).run s.buffer).1 <;> rfl
    | matching => rfl
    | transliteration => rfl
  | _ => cases h

theorem engine_step (s : Session) (h : r.literal? = some literal) :
    (s.step r).2.engine = (s.engine.compile literal).2 := by
  rw [s.step_of_literal h]
  rfl

/-- The three ways in which a request that names a literal can end, and what each leaves: the
literal does not compile, it is refused, or there is an answer. -/
theorem step_cases (s : Session) (h : r.literal? = some literal) :
    (∃ x, s.step r = (.failed (.compile x), s)) ∨
    (∃ c e, (s.engine.compile literal).1 = .ok c ∧ e.isRefusal ∧
      s.step r = (.failed e, { s with engine := (s.engine.compile literal).2 })) ∨
    (∃ c a after, (s.engine.compile literal).1 = .ok c ∧ (∀ e, a ≠ .failed e) ∧
      s.step r = (a, ⟨(s.engine.compile literal).2, after⟩) ∧
      (after ≠ s.buffer →
        r.editsText ∧ c.mode = .substitution ∧ (c.runSubstitute s.buffer).isMatch)) := by
  have hstep := s.step_of_literal h
  rcases s.engine.compile_cases literal with ⟨x, hcompile⟩ | ⟨c, hcompile⟩
  · left
    rw [conclude_of_error (congrArg Prod.fst hcompile), hcompile] at hstep
    exact ⟨x, hstep⟩
  · right
    rw [conclude_of_ok hcompile] at hstep
    have hending := r.ending_use s.buffer c
    generalize (r.use c).run s.buffer = result at hstep hending
    cases hending with
    | refused he => exact .inl ⟨c, _, hcompile, he, hstep⟩
    | answered ha hafter => exact .inr ⟨c, _, _, hcompile, ha, hstep, hafter⟩

/-- A literal that does not compile leaves everything as it is. -/
theorem step_of_not_compiled (s : Session) (h : r.literal? = some literal) {x : CompileError}
    (hx : (s.step r).1 = .failed (.compile x)) : (s.step r).2 = s := by
  rcases s.step_cases h with
    ⟨y, hstep⟩ | ⟨c, e, -, he, hstep⟩ | ⟨c, a, t, -, ha, hstep, -⟩
  · rw [hstep]
  · rw [hstep] at hx
    cases hx
    cases he
  · rw [hstep] at hx
    exact absurd hx (ha _)

theorem buffer_of_failed (s : Session) (h : r.literal? = some literal) {e : EngineError}
    (he : (s.step r).1 = .failed e) : (s.step r).2.buffer = s.buffer := by
  rcases s.step_cases h with ⟨x, hstep⟩ | ⟨c, e, -, -, hstep⟩ | ⟨c, a, t, -, ha, hstep, -⟩
  · rw [hstep]
  · rw [hstep]
  · rw [hstep] at he
    exact absurd he (ha e)

/-- Only a substitution that finds a match changes the text. -/
theorem of_edited (s : Session) (h : r.literal? = some literal)
    (hne : (s.step r).2.buffer ≠ s.buffer) :
    r.editsText ∧ (∀ e, (s.step r).1 ≠ .failed e) ∧
      ∃ c, (s.engine.compile literal).1 = .ok c ∧ c.mode = .substitution ∧
        (c.runSubstitute s.buffer).isMatch := by
  have hanswered : ∀ e, (s.step r).1 ≠ .failed e := fun e he => hne (s.buffer_of_failed h he)
  rcases s.step_cases h with
    ⟨x, hstep⟩ | ⟨c, e, -, -, hstep⟩ | ⟨c, a, t, hcompile, -, hstep, hafter⟩
  · exact absurd (congrArg Prod.fst hstep) (hanswered _)
  · exact absurd (congrArg Prod.fst hstep) (hanswered _)
  · rw [hstep] at hne
    obtain ⟨hr, hmode, hmatch⟩ := hafter hne
    exact ⟨hr, hanswered, c, hcompile, hmode, hmatch⟩

end Session

/-- What a request that names a literal leaves behind, in whatever state the session is. If it
fails, the text is as it was; if the literal does not compile, so is the cache; and if the literal
is refused for its mode, the cache is as compiling alone would leave it. No such request changes
the policy or turns the cache on or off, and the text changes only by a request that edits it, is
answered, and names a substitution that finds a match. -/
theorem failure_leaves_no_trace (s : Session) {r : Request} {literal : Text}
    (h : r.literal? = some literal) :
    let a := (s.step r).1
    let after := (s.step r).2
    (∀ e, a = .failed e → after.buffer = s.buffer) ∧
    (∀ x, a = .failed (.compile x) → after.engine.cache = s.engine.cache) ∧
    (∀ e, a = .failed e → e.isRefusal →
      after.engine.cache = (s.engine.compile literal).2.cache) ∧
    after.engine.policy = s.engine.policy ∧
    after.engine.cache.enabled = s.engine.cache.enabled ∧
    (after.buffer ≠ s.buffer →
      r.editsText ∧ (∀ e, a ≠ .failed e) ∧
      ∃ c, (s.engine.compile literal).1 = .ok c ∧ c.mode = .substitution ∧
        (c.runSubstitute s.buffer).isMatch) := by
  intro a after
  have hengine : after.engine = (s.engine.compile literal).2 := s.engine_step h
  refine ⟨fun e he => ?_, fun x hx => ?_, fun e _ _ => ?_, ?_, ?_, fun hne => ?_⟩
  · exact s.buffer_of_failed h he
  · exact congrArg (fun t => t.engine.cache) (s.step_of_not_compiled h hx)
  · rw [hengine]
  · rw [hengine, s.engine.policy_compile]
  · rw [hengine, s.engine.enabled_compile]
  · exact s.of_edited h hne

/-- A match is asked to replace something. It compiles, and is refused. -/
theorem failure_leaves_no_trace_refused :
    let s : Session := { buffer := "banana".toList }
    let literal := "m/a/".toList
    let r : Request := .substitute literal
    r.literal? = some literal ∧
    (∃ e, (s.step r).1 = .failed e ∧ e.isRefusal) ∧ (s.step r).2.buffer = s.buffer ∧
    (s.step r).2.engine.cache = (s.engine.compile literal).2.cache := by
  intro s literal r
  have hrefused : (match (s.step r).1 with
      | .failed e => e.isRefusal
      | _ => false) = true := by cbv
  have hanswer : ∃ e, (s.step r).1 = .failed e ∧ e.isRefusal := by
    split at hrefused
    · rename_i e he
      exact ⟨e, he, hrefused⟩
    · cases hrefused
  have hliteral : r.literal? = some literal := rfl
  obtain ⟨hbuffer, -, hcache, -⟩ := failure_leaves_no_trace s hliteral
  obtain ⟨e, he, hrefusal⟩ := hanswer
  exact ⟨rfl, ⟨e, he, hrefusal⟩, hbuffer e he, hcache e he hrefusal⟩

end RegexLiteral
