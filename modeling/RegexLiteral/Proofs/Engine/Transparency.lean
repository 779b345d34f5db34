import Mathlib
import RegexLiteral.Engine.Session

/-!
# What the cache cannot be seen to do

An engine whose cache is filled by compiling alone answers as one without any cache does, which
compiles each literal afresh under its policy. The invariant is that each entry is what its key
compiles to under the policy that the engine has now. A switch that is off keeps the entries in
this state, so that nothing is wrong with them when it is turned on again; a change of policy would
break it and so drops them. Main statement: whole runs agree in their answers and in the texts they
leave (`run_agrees`).
-/
namespace RegexLiteral

namespace Cache

variable {α ε : Type} {compile : Text → Except ε α} {c : Cache α} {key : Text} {value : α}

/-- Compiling through a cache finds an entry, fails, or puts what was compiled into the cache. -/
theorem getOrCompile_cases (c : Cache α) (key : Text) (compile : Text → Except ε α) :
    (∃ value, c.get? key = some value ∧ c.getOrCompile key compile = (.ok value, c)) ∨
    (∃ e, compile key = .error e ∧ c.getOrCompile key compile = (.error e, c)) ∨
    (∃ value, compile key = .ok value ∧
      c.getOrCompile key compile = (.ok value, c.put key value)) := by
  unfold getOrCompile
  cases hget : c.get? key with
  | some value => exact .inl ⟨value, rfl, rfl⟩
  | none =>
    cases hcompile : compile key with
    | error e => exact .inr (.inl ⟨e, rfl, rfl⟩)
    | ok value => exact .inr (.inr ⟨value, rfl, rfl⟩)

theorem mem_entries_of_get? (h : c.get? key = some value) : (key, value) ∈ c.entries := by
  unfold Cache.get? at h
  split at h
  · obtain ⟨l₁, l₂, hentries, -⟩ := List.lookup_eq_some_iff.mp h
    simp [hentries]
  · cases h

/-- Each entry is what its key compiles to. -/
def Sound (compile : Text → Except ε α) (c : Cache α) : Prop :=
  ∀ entry ∈ c.entries, compile entry.1 = .ok entry.2

theorem sound_flush (compile : Text → Except ε α) (c : Cache α) : c.flush.Sound compile := by
  intro entry hentry
  cases hentry

theorem Sound.setEnabled (hc : c.Sound compile) (on : Bool) : (c.setEnabled on).Sound compile := hc

/-- What a cache gives is what compiling gives. -/
theorem Sound.get? (hc : c.Sound compile) (h : c.get? key = some value) :
    compile key = .ok value :=
  hc (key, value) (mem_entries_of_get? h)

theorem Sound.put (hc : c.Sound compile) (h : compile key = .ok value) :
    (c.put key value).Sound compile := by
  unfold Cache.put
  split
  · intro entry hentry
    rcases List.mem_cons.mp hentry with rfl | hentry
    · exact h
    · exact hc entry (List.mem_filter.mp hentry).1
  · exact hc

/-- Compiling through a sound cache is compiling. -/
theorem Sound.getOrCompile_fst (hc : c.Sound compile) (key : Text) :
    (c.getOrCompile key compile).1 = compile key := by
  rcases c.getOrCompile_cases key compile with ⟨value, hget, h⟩ | ⟨e, he, h⟩ | ⟨value, hv, h⟩
  · rw [h, hc.get? hget]
  · rw [h, he]
  · rw [h, hv]

theorem Sound.getOrCompile_snd (hc : c.Sound compile) (key : Text) :
    (c.getOrCompile key compile).2.Sound compile := by
  rcases c.getOrCompile_cases key compile with ⟨_, -, h⟩ | ⟨_, -, h⟩ | ⟨value, hv, h⟩
  · rwa [h]
  · rwa [h]
  · rw [h]
    exact hc.put hv

end Cache

namespace Engine

variable {α : Type} {e : Engine}

/-- Each entry of the cache is what its key compiles to under the policy of the engine. -/
def Coherent (e : Engine) : Prop := e.cache.Sound fun source => compileLiteral source e.policy

/-- What a literal compiles to under a policy, as an engine tells it. -/
def compileAfresh (policy : Policy) (literal : Text) : Except EngineError CompiledLiteral :=
  (compileLiteral literal policy).mapError .compile

theorem coherent_new : ({} : Engine).Coherent := by
  intro entry hentry
  cases hentry

theorem Coherent.setCaching (he : e.Coherent) (on : Bool) : (e.setCaching on).Coherent :=
  Cache.Sound.setEnabled he on

theorem coherent_flushCache (e : Engine) : e.flushCache.Coherent := Cache.sound_flush _ _

/-- Either the entries were compiled under the new policy too, or there are none left. -/
theorem Coherent.setPolicy (he : e.Coherent) (policy : Policy) : (e.setPolicy policy).Coherent := by
  by_cases hp : e.policy = policy
  · subst hp
    simpa only [Coherent, Engine.setPolicy, if_pos] using he
  · simp only [Coherent, Engine.setPolicy, if_neg hp]
    exact Cache.sound_flush _ _

theorem Coherent.compile_fst (he : e.Coherent) (literal : Text) :
    (e.compile literal).1 = compileAfresh e.policy literal :=
  congrArg (Except.mapError EngineError.compile) (Cache.Sound.getOrCompile_fst he literal)

theorem Coherent.compile_snd (he : e.Coherent) (literal : Text) : (e.compile literal).2.Coherent :=
  Cache.Sound.getOrCompile_snd he literal

theorem Coherent.withCompiled_fst (he : e.Coherent) (literal : Text)
    (f : CompiledLiteral → Except EngineError α) :
    (e.withCompiled literal f).1 = (compileAfresh e.policy literal).bind f :=
  congrArg (Except.bind · f) (he.compile_fst literal)

theorem Coherent.compile_eq_ok_iff (he : e.Coherent) {literal : Text} {c : CompiledLiteral} :
    (e.compile literal).1 = .ok c ↔ compileLiteral literal e.policy = .ok c := by
  rw [he.compile_fst, compileAfresh]
  cases compileLiteral literal e.policy <;> simp [Except.mapError]

/-- A literal that compiles is used as what it compiles to. -/
theorem Coherent.withCompiled_of_ok (he : e.Coherent) {literal : Text} {c : CompiledLiteral}
    (h : compileLiteral literal e.policy = .ok c) (f : CompiledLiteral → Except EngineError α) :
    (e.withCompiled literal f).1 = f c := by
  rw [he.withCompiled_fst, compileAfresh, h]
  rfl

end Engine

/-- An engine without a cache at work on a text. -/
structure Uncached where
  policy : Policy := .strict
  buffer : Text := []

namespace Uncached

open Engine Session

/-- The literal, compiled afresh. -/
def compile (u : Uncached) (literal : Text) : Except EngineError CompiledLiteral :=
  compileAfresh u.policy literal

/-- Compiles a literal and uses it on the text. -/
def reading {α : Type} (u : Uncached) (ok : α → Answer) (literal : Text)
    (f : CompiledLiteral → Except EngineError α) : Answer × Uncached :=
  (answerOf ok ((u.compile literal).bind f), u)

/-- Compiles a literal and uses it on the text, which it may change. -/
def editing {α : Type} (u : Uncached) (ok : α → Answer) (literal : Text)
    (f : CompiledLiteral → Editing α) : Answer × Uncached :=
  let (answer, after) :=
    (MonadExcept.ofExcept (u.compile literal) >>= f : Editing α).run u.buffer
  (answerOf ok answer, { u with buffer := after })

/-- The answer to a request, and the state after it. There is nothing to switch, to empty or to put
anything into; a lookup is answered by what an entry would have to be. -/
def step (u : Uncached) : Request → Answer × Uncached
  | .look => (.done, u)
  | .setCaching _ => (.done, u)
  | .setPolicy policy => (.done, { u with policy := policy })
  | .flush => (.done, u)
  | .cacheGet literal => (.found (u.compile literal).toOption, u)
  | .cachePut _ literal => u.reading (fun _ => .done) literal .ok
  | .compile literal => u.reading .literal literal .ok
  | .isMatch literal => u.reading .bool literal fun c => do
      ensureMatchable c
      .ok (c.regex.isMatch u.buffer)
  | .matchDetailed literal => u.reading .outcome literal fun c => do
      ensureMatchable c
      .ok (c.runMatch u.buffer)
  | .substitute literal => u.editing (fun o => .bool (Outcome.isMatch o)) literal substituteIn
  | .substituteDetailed literal => u.editing .outcome literal substituteIn
  | .substituteToText literal => u.reading .text literal fun c => do
      ensureSubstitution c
      .ok ((c.runSubstitute u.buffer).substituted.getD u.buffer)
  | .dispatch literal => u.editing .bool literal fun c =>
      match c.mode with
      | .substitution => return (← substituteIn c).isMatch
      | .matching => return (c.runMatch (← get)).isMatch
      | .transliteration => throw (.unsupportedMode c.source c.mode)

end Uncached

/-- A request, with a text that is put in the place of the text first if there is one. -/
structure Call where
  text : Option Text
  request : Request

/-- Whether a request puts something into the cache under a key that was not compiled. -/
def Request.fillsCache : Request → Bool
  | .cachePut .. => true
  | _ => false

def Session.call (s : Session) (c : Call) : Answer × Session :=
  { s with buffer := c.text.getD s.buffer }.step c.request

/-- The answers to calls made one after the other, each with the text after it. -/
def Session.run (s : Session) : List Call → List (Answer × Text)
  | [] => []
  | c :: calls => ((s.call c).1, (s.call c).2.buffer) :: (s.call c).2.run calls

def Uncached.call (u : Uncached) (c : Call) : Answer × Uncached :=
  { u with buffer := c.text.getD u.buffer }.step c.request

/-- The answers to calls made one after the other, each with the text after it. -/
def Uncached.run (u : Uncached) : List Call → List (Answer × Text)
  | [] => []
  | c :: calls => ((u.call c).1, (u.call c).2.buffer) :: (u.call c).2.run calls

/-- Answers are the same, except that a lookup may come back with nothing. -/
inductive Answer.Agrees : Answer → Answer → Prop where
  | same (a : Answer) : Agrees a a
  | missed (entry : Option CompiledLiteral) : Agrees (.found none) (.found entry)

/-- A session and an engine without a cache are at the same point, and the cache holds nothing that
is wrong. -/
structure Shadows (s : Session) (u : Uncached) : Prop where
  coherent : s.engine.Coherent
  policy : s.engine.policy = u.policy
  buffer : s.buffer = u.buffer

namespace Shadows

open Engine Session

variable {α : Type} {s : Session} {u : Uncached}

/-- What one step gives on both sides. -/
def Together (a : Answer × Session) (b : Answer × Uncached) : Prop :=
  a.1.Agrees b.1 ∧ Shadows a.2 b.2

theorem withCompiled (h : Shadows s u) (literal : Text)
    (f : CompiledLiteral → Except EngineError α) :
    (s.engine.withCompiled literal f).1 = (u.compile literal).bind f := by
  rw [h.coherent.withCompiled_fst, h.policy]
  rfl

theorem compile (h : Shadows s u) (literal : Text) :
    (s.engine.compile literal).1 = (u.compile literal).bind .ok := by
  rw [h.coherent.compile_fst, h.policy, Uncached.compile]
  cases compileAfresh u.policy literal <;> rfl

theorem reading (h : Shadows s u) (ok : α → Answer) (literal : Text)
    (f : CompiledLiteral → Except EngineError α) :
    Together (s.reading ok (s.engine.withCompiled literal f)) (u.reading ok literal f) := by
  refine ⟨?_, h.coherent.compile_snd literal, h.policy, h.buffer⟩
  simp only [Session.reading, Uncached.reading, h.withCompiled]
  exact .same _

theorem editing (h : Shadows s u) (ok : α → Answer) (literal : Text)
    (f : CompiledLiteral → Editing α) :
    Together (Session.editing ok (s.engine.edit s.buffer literal f))
      (u.editing ok literal f) := by
  have hcompile : (s.engine.compile literal).1 = u.compile literal := by
    rw [h.coherent.compile_fst, h.policy, Uncached.compile]
  have hafter : (s.engine.compile literal).2.Coherent := h.coherent.compile_snd literal
  unfold Together Session.editing Engine.edit Uncached.editing
  rw [← hcompile, h.buffer]
  exact ⟨.same _, hafter, h.policy, rfl⟩

theorem editing_substitute (s : Session) (literal : Text) :
    Session.editing .bool (s.engine.substitute s.buffer literal) =
      Session.editing (fun o => .bool (Outcome.isMatch o))
        (s.engine.edit s.buffer literal substituteIn) := by
  unfold Engine.substitute Engine.substituteDetailed Session.editing
  obtain ⟨answer, buffer, engine⟩ := s.engine.edit s.buffer literal substituteIn
  cases answer <;> rfl

theorem cacheGet (h : Shadows s u) (literal : Text) :
    Together (s.step (.cacheGet literal)) (u.step (.cacheGet literal)) := by
  refine ⟨?_, h⟩
  cases hget : s.engine.cache.get? literal with
  | none =>
    simp only [Session.step, hget]
    exact .missed _
  | some value =>
    have hvalue := Cache.Sound.get? h.coherent hget
    simp only [Session.step, Uncached.step, Uncached.compile, compileAfresh, hget, ← h.policy,
      hvalue]
    exact .same _

/-- One request leads to the same answer and to the same point. -/
theorem step (h : Shadows s u) {r : Request} (hr : r.fillsCache = false) :
    Together (s.step r) (u.step r) := by
  obtain ⟨engine, buffer⟩ := s
  obtain rfl : buffer = u.buffer := h.buffer
  cases r with
  | look => exact ⟨.same _, h⟩
  | setCaching on => exact ⟨.same _, h.coherent.setCaching on, h.policy, rfl⟩
  | setPolicy policy => exact ⟨.same _, h.coherent.setPolicy policy, rfl, rfl⟩
  | flush => exact ⟨.same _, coherent_flushCache _, h.policy, rfl⟩
  | cacheGet literal => exact h.cacheGet literal
  | cachePut key literal => cases hr
  | compile literal =>
    refine ⟨?_, h.coherent.compile_snd literal, h.policy, rfl⟩
    have hcompile := h.compile literal
    simp only [Session.step, Session.reading, Uncached.step, Uncached.reading, hcompile]
    exact .same _
  | isMatch literal => exact h.reading .bool literal _
  | matchDetailed literal => exact h.reading .outcome literal _
  | substitute literal =>
    have hstep := h.editing (fun o => .bool (Outcome.isMatch o)) literal substituteIn
    rw [← editing_substitute] at hstep
    exact hstep
  | substituteDetailed literal => exact h.editing .outcome literal _
  | substituteToText literal => exact h.reading .text literal _
  | dispatch literal => exact h.editing .bool literal _

theorem call (h : Shadows s u) {c : Call} (hc : c.request.fillsCache = false) :
    Together (s.call c) (u.call c) := by
  have h' : Shadows { s with buffer := c.text.getD s.buffer }
      { u with buffer := c.text.getD u.buffer } :=
    ⟨h.coherent, h.policy, congrArg c.text.getD h.buffer⟩
  exact h'.step hc

/-- Calls made one after the other lead to the same answers and texts. -/
theorem run (h : Shadows s u) {calls : List Call}
    (hcalls : ∀ c ∈ calls, c.request.fillsCache = false) :
    List.Forall₂ (fun a b => a.1.Agrees b.1 ∧ a.2 = b.2) (s.run calls) (u.run calls) := by
  induction calls generalizing s u with
  | nil => exact .nil
  | cons c calls ih =>
    obtain ⟨hanswer, hafter⟩ := h.call (hcalls c (List.mem_cons_self ..))
    refine .cons ⟨hanswer, hafter.buffer⟩ (ih hafter ?_)
    intro c' hc'
    exact hcalls c' (List.mem_cons_of_mem _ hc')

end Shadows

/-- Whatever a new engine is asked, in whatever order and on whatever texts, it answers as if it had
no cache and compiled each literal afresh, as long as nothing is put into the cache by hand. -/
theorem run_agrees (buffer : Text) (calls : List Call)
    (hcalls : ∀ c ∈ calls, c.request.fillsCache = false) :
    List.Forall₂ (fun a b => a.1.Agrees b.1 ∧ a.2 = b.2)
      (Session.run { buffer := buffer } calls) (Uncached.run { buffer := buffer } calls) :=
  Shadows.run ⟨Engine.coherent_new, rfl, rfl⟩ hcalls

/-- The policy is changed while the cache is off and holds a literal, one that is not closed. The old
policy accepted it, the new one refuses it although it was compiled before. -/
theorem run_agrees_policy_change :
    let literal := "m/a".toList
    let calls : List Call := [⟨none, .setPolicy .lenient⟩, ⟨some ['a'], .isMatch literal⟩,
      ⟨none, .setCaching false⟩, ⟨none, .setPolicy .strict⟩, ⟨none, .setCaching true⟩,
      ⟨none, .compile literal⟩]
    let found : Diagnostic := .of .unterminatedLiteral 1 3 (some "/")
    (Session.run { buffer := [] } calls)[1]? = some (.bool true, ['a']) ∧
    (Session.run { buffer := [] } calls)[5]? =
      some (.failed (.compile (.malformed literal [found])), ['a']) ∧
    List.Forall₂ (fun a b => a.1.Agrees b.1 ∧ a.2 = b.2)
      (Session.run { buffer := [] } calls) (Uncached.run { buffer := [] } calls) := by
  intro literal calls found
  refine ⟨?_, ?_, run_agrees [] _ (by decide)⟩
  · cbv
  · cbv

end RegexLiteral
