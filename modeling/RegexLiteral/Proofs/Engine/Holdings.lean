import Mathlib
import RegexLiteral.Proofs.Engine.Requests
import RegexLiteral.Proofs.Literal.Compiling

/-!
# What the cache holds

The keys in the cache of an engine are told by the requests made of it, without its cache: they are
the literals that compiled in some request while the cache was on and that no request since then has
dropped. A request drops all keys if it empties the cache or changes the policy, whether or not the
cache is on. `Kept` says this of a list of requests; each request changes it as the engine's step
changes the keys (`kept_append`, `Tracks.step`). Main statement: the keys after every run are those
that are kept, no two of them the same, and it is told what a next request can do to them
(`keys_after`).
-/
namespace RegexLiteral

namespace Cache

variable {α ε : Type} {c : Cache α} {key k : Text} {value : α}

/-- The keys of the entries, whether or not the cache is on. -/
def keys (c : Cache α) : List Text := c.entries.map Prod.fst

theorem length_keys (c : Cache α) : c.keys.length = c.size := List.length_map ..

@[simp] theorem keys_flush (c : Cache α) : c.flush.keys = [] := rfl

@[simp] theorem keys_setEnabled (c : Cache α) (on : Bool) : (c.setEnabled on).keys = c.keys := rfl

theorem keys_put (h : c.enabled) :
    (c.put key value).keys = key :: c.keys.filter (· ≠ key) := by
  simp [put, keys, h, List.filter_map, Function.comp_def]

theorem put_of_off (h : c.enabled = false) : c.put key value = c := by
  simp [put, h]

theorem mem_keys_put : k ∈ (c.put key value).keys ↔ k ∈ c.keys ∨ c.enabled ∧ k = key := by
  cases h : c.enabled with
  | false => simp [put_of_off h]
  | true =>
    rw [keys_put h, List.mem_cons, List.mem_filter]
    by_cases hk : k = key <;> simp [hk]

theorem nodup_keys_put (h : c.keys.Nodup) : (c.put key value).keys.Nodup := by
  cases hon : c.enabled with
  | false => rwa [put_of_off hon]
  | true =>
    rw [keys_put hon, List.nodup_cons]
    exact ⟨by simp, h.filter _⟩

theorem mem_keys_of_get? (h : c.get? key = some value) : key ∈ c.keys :=
  List.mem_map_of_mem (mem_entries_of_get? h)

/-- Compiling through a cache that is on adds its key if it succeeds. -/
theorem mem_keys_getOrCompile (compile : Text → Except ε α) :
    k ∈ (c.getOrCompile key compile).2.keys ↔
      k ∈ c.keys ∨ c.enabled ∧ k = key ∧ ∃ value, compile key = .ok value := by
  rcases c.getOrCompile_cases key compile with ⟨value, hget, h⟩ | ⟨e, he, h⟩ | ⟨value, hv, h⟩
  · rw [h]
    constructor
    · exact .inl
    · rintro (hk | ⟨-, rfl, -⟩)
      · exact hk
      · exact mem_keys_of_get? hget
  · simp [h, he]
  · rw [h, mem_keys_put]
    simp [hv]

theorem nodup_keys_getOrCompile (compile : Text → Except ε α) (h : c.keys.Nodup) :
    (c.getOrCompile key compile).2.keys.Nodup := by
  rcases c.getOrCompile_cases key compile with ⟨_, -, hc⟩ | ⟨_, -, hc⟩ | ⟨_, -, hc⟩
  · rwa [hc]
  · rwa [hc]
  · rw [hc]
    exact nodup_keys_put h

end Cache

namespace Engine

variable {e : Engine} {literal k : Text} {c : CompiledLiteral}

theorem mem_keys_compile : k ∈ (e.compile literal).2.cache.keys ↔
    k ∈ e.cache.keys ∨
      e.cache.enabled ∧ k = literal ∧ ∃ c, compileLiteral literal e.policy = .ok c :=
  Cache.mem_keys_getOrCompile fun source => compileLiteral source e.policy

theorem nodup_keys_compile (h : e.cache.keys.Nodup) : (e.compile literal).2.cache.keys.Nodup :=
  Cache.nodup_keys_getOrCompile (fun source => compileLiteral source e.policy) h

/-- A literal that compiled is in a cache that is on, whether it was there before or not. -/
theorem mem_keys_of_compile (h : (e.compile literal).1 = .ok c) (hon : e.cache.enabled) :
    literal ∈ (e.compile literal).2.cache.keys := by
  unfold compile at h ⊢
  rcases e.cache.getOrCompile_cases literal (fun source => compileLiteral source e.policy) with
    ⟨value, hget, heq⟩ | ⟨x, -, heq⟩ | ⟨value, -, heq⟩
  · rw [heq]
    exact Cache.mem_keys_of_get? hget
  · rw [heq] at h
    cases h
  · rw [heq]
    exact Cache.mem_keys_put.mpr (.inr ⟨hon, rfl⟩)

end Engine

namespace Request

/-- The policy that a request gives to the engine, if it gives one. -/
def policy? : Request → Option Policy
  | .setPolicy policy => some policy
  | _ => none

/-- Whether a request turns the cache on or off, and which. -/
def switch? : Request → Option Bool
  | .setCaching on => some on
  | _ => none

/-- Whether a request drops all that an engine with this policy has in its cache. -/
def clears (policy : Policy) : Request → Bool
  | .flush => true
  | .setPolicy new => new ≠ policy
  | _ => false

/-- A request that puts nothing into the cache by hand names a literal or is one of five others. -/
theorem kinds {r : Request} (hr : r.fillsCache = false) :
    (∃ literal, r.literal? = some literal) ∨ r = .look ∨ (∃ on, r = .setCaching on) ∨
      (∃ policy, r = .setPolicy policy) ∨ r = .flush ∨ ∃ literal, r = .cacheGet literal := by
  cases r <;> first | cases hr; done | simp [literal?]

theorem policy?_of_literal {r : Request} {literal : Text} (h : r.literal? = some literal) :
    r.policy? = none := by
  cases r <;> first | rfl | cases h

theorem switch?_of_literal {r : Request} {literal : Text} (h : r.literal? = some literal) :
    r.switch? = none := by
  cases r <;> first | rfl | cases h

theorem clears_of_literal {r : Request} {literal : Text} (h : r.literal? = some literal)
    (policy : Policy) : r.clears policy = false := by
  cases r <;> first | rfl | cases h

end Request

/-- The policy of a new engine after requests. -/
def policyAfter (rs : List Request) : Policy := rs.foldl (fun p r => r.policy?.getD p) .strict

/-- Whether the cache of a new engine is on after requests. -/
def cachingAfter (rs : List Request) : Bool := rs.foldl (fun on r => r.switch?.getD on) true

/-- One of the requests, made while the cache was on, compiled a literal, and none since then has
dropped it. -/
def Kept (rs : List Request) (literal : Text) : Prop :=
  ∃ before r since, rs = before ++ r :: since ∧ r.literal? = some literal ∧
    cachingAfter before = true ∧ (∃ c, compileLiteral literal (policyAfter before) = .ok c) ∧
    ∀ us x vs, since = us ++ x :: vs → x.clears (policyAfter (before ++ r :: us)) = false

section History

variable {rs : List Request} {r : Request} {literal : Text}

theorem policyAfter_append (rs : List Request) (r : Request) :
    policyAfter (rs ++ [r]) = r.policy?.getD (policyAfter rs) := by
  simp [policyAfter]

theorem cachingAfter_append (rs : List Request) (r : Request) :
    cachingAfter (rs ++ [r]) = r.switch?.getD (cachingAfter rs) := by
  simp [cachingAfter]

theorem not_kept_nil (literal : Text) : ¬Kept [] literal := by
  rintro ⟨before, r, since, h, -⟩
  simp at h

/-- One more request keeps what it does not drop, and a literal that it compiles. -/
theorem kept_append : Kept (rs ++ [r]) literal ↔
    Kept rs literal ∧ r.clears (policyAfter rs) = false ∨
    r.literal? = some literal ∧ cachingAfter rs = true ∧
      ∃ c, compileLiteral literal (policyAfter rs) = .ok c := by
  constructor
  · rintro ⟨before, x, since, heq, hliteral, hon, hcompile, hsince⟩
    rcases List.eq_nil_or_concat since with rfl | ⟨init, last, rfl⟩
    · obtain ⟨rfl, hx⟩ := List.append_inj' heq rfl
      cases hx
      exact .inr ⟨hliteral, hon, hcompile⟩
    · have hsplit : rs ++ [r] = (before ++ x :: init) ++ [last] := by simpa using heq
      obtain ⟨rfl, hlast⟩ := List.append_inj' hsplit rfl
      cases hlast
      refine .inl ⟨⟨before, x, init, rfl, hliteral, hon, hcompile, fun us y vs h => ?_⟩,
        hsince init r [] (by simp)⟩
      exact hsince us y (vs ++ [r]) (by simp [h])
  · rintro (⟨⟨before, x, since, rfl, hliteral, hon, hcompile, hsince⟩, hkeep⟩ |
      ⟨hliteral, hon, hcompile⟩)
    · refine ⟨before, x, since ++ [r], by simp, hliteral, hon, hcompile, fun us y vs h => ?_⟩
      rcases List.eq_nil_or_concat vs with rfl | ⟨init, last, rfl⟩
      · obtain ⟨rfl, hy⟩ := List.append_inj' h rfl
        cases hy
        exact hkeep
      · have hinit : since ++ [r] = (us ++ y :: init) ++ [last] := by simpa using h
        exact hsince us y init (List.append_inj' hinit rfl).1
    · refine ⟨rs, r, [], rfl, hliteral, hon, hcompile, fun us y vs h => ?_⟩
      simp at h

end History

section Step

open Request

variable {r : Request} {literal : Text}

theorem Session.policy_step (s : Session) (hr : r.fillsCache = false) :
    (s.step r).2.engine.policy = r.policy?.getD s.engine.policy := by
  rcases kinds hr with ⟨l, hl⟩ | rfl | ⟨on, rfl⟩ | ⟨policy, rfl⟩ | rfl | ⟨l, rfl⟩
  · rw [s.engine_step hl, policy?_of_literal hl]
    exact s.engine.policy_compile l
  all_goals rfl

theorem Session.enabled_step (s : Session) (hr : r.fillsCache = false) :
    (s.step r).2.engine.cache.enabled = r.switch?.getD s.engine.cache.enabled := by
  rcases kinds hr with ⟨l, hl⟩ | rfl | ⟨on, rfl⟩ | ⟨policy, rfl⟩ | rfl | ⟨l, rfl⟩
  · rw [s.engine_step hl, switch?_of_literal hl]
    exact s.engine.enabled_compile l
  · rfl
  · rfl
  · dsimp only [step, Engine.setPolicy]
    split <;> rfl
  · rfl
  · rfl

theorem Session.keys_setPolicy (s : Session) (policy : Policy) :
    (s.engine.setPolicy policy).cache.keys =
      if s.engine.policy = policy then s.engine.cache.keys else [] := by
  dsimp only [Engine.setPolicy]
  split <;> rfl

theorem Session.nodup_step (s : Session) (h : s.engine.cache.keys.Nodup)
    (hr : r.fillsCache = false) : (s.step r).2.engine.cache.keys.Nodup := by
  rcases kinds hr with ⟨l, hl⟩ | rfl | ⟨on, rfl⟩ | ⟨policy, rfl⟩ | rfl | ⟨l, rfl⟩
  · rw [s.engine_step hl]
    exact Engine.nodup_keys_compile h
  · exact h
  · exact h
  · dsimp only [step]
    rw [s.keys_setPolicy]
    split
    · exact h
    · exact List.nodup_nil
  · exact List.nodup_nil
  · exact h

/-- What one request does to the keys, in whatever state the session is: they stay unless it drops
them, and a literal that it compiles is added if the cache is on. -/
theorem Session.mem_keys_step (s : Session) (hr : r.fillsCache = false) :
    literal ∈ (s.step r).2.engine.cache.keys ↔
      literal ∈ s.engine.cache.keys ∧ r.clears s.engine.policy = false ∨
      r.literal? = some literal ∧ s.engine.cache.enabled = true ∧
        ∃ c, compileLiteral literal s.engine.policy = .ok c := by
  rcases kinds hr with ⟨l, hl⟩ | rfl | ⟨on, rfl⟩ | ⟨policy, rfl⟩ | rfl | ⟨l, rfl⟩
  · rw [s.engine_step hl, clears_of_literal hl, hl]
    refine Engine.mem_keys_compile.trans (or_congr (and_iff_left rfl).symm ?_)
    constructor
    · rintro ⟨hon, rfl, hc⟩
      exact ⟨rfl, hon, hc⟩
    · rintro ⟨heq, hon, hc⟩
      cases heq
      exact ⟨hon, rfl, hc⟩
  · simp [step, clears, literal?]
  · simp [step, clears, literal?, Engine.setCaching]
  · dsimp only [step]
    rw [s.keys_setPolicy]
    by_cases hp : s.engine.policy = policy
    · simp [hp, clears, literal?]
    · simp [hp, clears, literal?, Ne.symm hp]
  · simp [step, clears, literal?, Engine.flushCache]
  · simp [step, clears, literal?]

end Step

/-- The session after calls. -/
def Session.after (s : Session) (calls : List Call) : Session :=
  calls.foldl (fun s c => (s.call c).2) s

/-- An engine is at the point to which these requests lead a new one. -/
structure Tracks (e : Engine) (rs : List Request) : Prop where
  policy : e.policy = policyAfter rs
  enabled : e.cache.enabled = cachingAfter rs
  nodup : e.cache.keys.Nodup
  keys : ∀ literal, literal ∈ e.cache.keys ↔ Kept rs literal

namespace Tracks

theorem new : Tracks {} [] where
  policy := rfl
  enabled := rfl
  nodup := List.nodup_nil
  keys literal := iff_of_false List.not_mem_nil (not_kept_nil literal)

theorem step {s : Session} {rs : List Request} {r : Request} (h : Tracks s.engine rs)
    (hr : r.fillsCache = false) : Tracks (s.step r).2.engine (rs ++ [r]) where
  policy := by rw [s.policy_step hr, policyAfter_append, h.policy]
  enabled := by rw [s.enabled_step hr, cachingAfter_append, h.enabled]
  nodup := s.nodup_step h.nodup hr
  keys literal := by rw [s.mem_keys_step hr, kept_append, h.keys, h.policy, h.enabled]

theorem after (buffer : Text) {calls : List Call}
    (hcalls : ∀ c ∈ calls, c.request.fillsCache = false) :
    Tracks (Session.after { buffer := buffer } calls).engine (calls.map Call.request) := by
  induction calls using List.reverseRecOn with
  | nil => exact new
  | append_singleton calls c ih =>
    have hbefore := ih fun x hx => hcalls x (List.mem_append_left _ hx)
    have hc := hcalls c (List.mem_append_right _ (List.mem_singleton_self c))
    have hafter := step (s := { Session.after { buffer := buffer } calls with
      buffer := c.text.getD (Session.after { buffer := buffer } calls).buffer }) hbefore hc
    simpa [Session.after, Session.call] using hafter

/-- There are as many entries as literals that are kept. -/
theorem size {e : Engine} {rs : List Request} (h : Tracks e rs) :
    (e.cache.size : ℕ∞) = {literal | Kept rs literal}.encard := by
  have hset : {literal | Kept rs literal} = (e.cache.keys.toFinset : Set Text) := by
    ext literal
    simp [h.keys]
  rw [hset, Set.encard_coe_eq_coe_finsetCard, List.toFinset_card_of_nodup h.nodup,
    Cache.length_keys]

end Tracks

section Next

variable {r : Request} {literal : Text} {e : EngineError}

theorem Session.not_failed_of_no_literal (s : Session) (hr : r.fillsCache = false)
    (h : r.literal? = none) (e : EngineError) : (s.step r).1 ≠ .failed e := by
  rcases Request.kinds hr with ⟨l, hl⟩ | rfl | ⟨on, rfl⟩ | ⟨policy, rfl⟩ | rfl | ⟨l, rfl⟩
  · cases h.symm.trans hl
  all_goals simp [step]

/-- A literal that does not compile leaves the cache as it is. -/
theorem Session.cache_of_not_compiled (s : Session) (hr : r.fillsCache = false) {x : CompileError}
    (h : (s.step r).1 = .failed (.compile x)) :
    (s.step r).2.engine.cache = s.engine.cache := by
  cases hliteral : r.literal? with
  | none => exact absurd h (s.not_failed_of_no_literal hr hliteral _)
  | some literal => rw [s.step_of_not_compiled hliteral h]

/-- A literal that is refused has compiled, so a cache that is on has it. -/
theorem Session.mem_keys_of_refused (s : Session) (hliteral : r.literal? = some literal)
    (h : (s.step r).1 = .failed e) (he : e.isRefusal) (hon : s.engine.cache.enabled) :
    literal ∈ (s.step r).2.engine.cache.keys := by
  rw [s.engine_step hliteral]
  rcases s.step_cases hliteral with
    ⟨y, hstep⟩ | ⟨_, _, hcompile, -, -⟩ | ⟨_, _, _, hcompile, -⟩
  · rw [hstep] at h
    cases h
    cases he
  · exact Engine.mem_keys_of_compile hcompile hon
  · exact Engine.mem_keys_of_compile hcompile hon

/-- A cache that is off changes only by losing all that it has. -/
theorem Session.mem_keys_step_of_off (s : Session) (hr : r.fillsCache = false)
    (hoff : s.engine.cache.enabled = false) (hclears : r.clears s.engine.policy = false) :
    literal ∈ (s.step r).2.engine.cache.keys ↔ literal ∈ s.engine.cache.keys := by
  refine (s.mem_keys_step hr).trans ?_
  constructor
  · rintro (⟨hmem, -⟩ | ⟨-, hon, -⟩)
    · exact hmem
    · cases hoff.symm.trans hon
  · exact fun hmem => .inl ⟨hmem, hclears⟩

end Next

/-- What the cache of a new engine holds after whatever it is asked, as long as nothing is put into
it by hand. Its keys are the literals that are kept, each once. A next request that fails to
compile its literal leaves the cache as it is; a literal that is refused for its mode is in the
cache, if that is on; and while the cache is off no request changes the keys except by dropping
them all. -/
theorem keys_after (buffer : Text) (calls : List Call)
    (hcalls : ∀ c ∈ calls, c.request.fillsCache = false) :
    let s := Session.after { buffer := buffer } calls
    let kept := {literal | Kept (calls.map Call.request) literal}
    (∀ literal, literal ∈ s.engine.cache.keys ↔ literal ∈ kept) ∧
    s.engine.cache.keys.Nodup ∧
    (s.engine.cache.size : ℕ∞) = kept.encard ∧
    ∀ c : Call, c.request.fillsCache = false →
      let a := (s.call c).1
      let next := (s.call c).2.engine.cache
      (∀ x, a = .failed (.compile x) → next = s.engine.cache) ∧
      (∀ e literal, a = .failed e → e.isRefusal → c.request.literal? = some literal →
        s.engine.cache.enabled → literal ∈ next.keys) ∧
      (s.engine.cache.enabled = false → c.request.clears s.engine.policy = false →
        ∀ literal, literal ∈ next.keys ↔ literal ∈ s.engine.cache.keys) := by
  intro s kept
  have h := Tracks.after buffer hcalls
  refine ⟨h.keys, h.nodup, h.size, fun c hc => ?_⟩
  -- The call is a step of the session with the text of the call, which has the same engine.
  let t : Session := { s with buffer := c.text.getD s.buffer }
  refine ⟨fun x hx => ?_, fun e literal he hrefusal hliteral hon => ?_, fun hoff hclears l => ?_⟩
  · exact t.cache_of_not_compiled hc hx
  · exact t.mem_keys_of_refused hliteral he hrefusal hon
  · exact t.mem_keys_step_of_off hc hoff hclears

/-- The cache is off and on again, and then a match is asked to replace something. The match is
refused, and it is kept. -/
theorem keys_after_refused :
    let literal := "m/b/".toList
    let before : List Call := [⟨none, .setCaching false⟩, ⟨none, .compile "m/a/".toList⟩,
      ⟨none, .setCaching true⟩]
    let calls := before ++ [⟨some "banana".toList, .substitute literal⟩]
    (∀ c ∈ calls, c.request.fillsCache = false) ∧ Kept (calls.map Call.request) literal ∧
    literal ∈ (Session.after { buffer := [] } calls).engine.cache.keys := by
  intro literal before calls
  have hcalls : ∀ c ∈ calls, c.request.fillsCache = false := by decide
  have hok : (compileLiteral literal .strict).toOption.any fun _ => true := by cbv
  obtain ⟨c, hc, -⟩ := exists_of_any_compileLiteral hok
  have hkept : Kept (calls.map Call.request) literal :=
    ⟨before.map Call.request, .substitute literal, [], rfl, rfl, rfl, ⟨c, hc⟩,
      fun us x vs h => by simp at h⟩
  exact ⟨hcalls, hkept, ((keys_after [] calls hcalls).1 literal).mpr hkept⟩

end RegexLiteral
