import Mathlib
import RegexLiteral.Proofs.Literal.Compiling
import RegexLiteral.Proofs.Pattern.BehindFlags
import RegexLiteral.Proofs.Pattern.MeaningFaults

/-!
# The check of features

Before the engine compiles a pattern, the pattern is read without the engine's flags, only to see
whether it asks for a feature that the engine lacks. The engine then reads it behind its flags. Both
come upon the same fault first, so that the check agrees with the engine: what it turns away the
engine refuses for the same feature (`compile_of_usedBy?`), and what it lets pass the engine refuses
for no feature (`shownBy?_of_compile`). Flags have no say in it, which `feature_check_exact` also
says of literals.
-/
namespace RegexLiteral

open Pattern CompiledLiteral

namespace Feature

/-- The feature for whose sake a pattern with this fault is refused, if it is one. -/
def shownBy? (pattern : Text) (f : Fault) : Option Feature :=
  match f.cause with
  | .backreference => some backreference
  | .lookAround => some lookAround
  | .escapeUnrecognized =>
    match pattern.drop f.span.start with
    | '\\' :: 'k' :: _ => some backreference
    | '\\' :: 'g' :: _ => some backreference
    | _ => none
  | _ => none

theorem usedBy?_of_error {pattern : Text} {f : Fault} (h : parse pattern = .error f) :
    usedBy? pattern = shownBy? pattern f := by
  unfold usedBy?
  rw [h]
  rfl

/-- Behind a text a fault shows the same feature. -/
theorem shownBy?_append (u pattern : Text) (f : Fault) :
    shownBy? (u ++ pattern) (f.shift u.length) = shownBy? pattern f := by
  unfold shownBy? Fault.shift
  cases f.cause <;> simp only [Cause.shift, Span.shift, List.drop_length_add_append]

theorem shownBy?_of_isOfMeaning {pattern : Text} {f : Fault} (h : f.cause.isOfMeaning) :
    shownBy? pattern f = none := by
  unfold shownBy?
  split <;> simp_all [Cause.isOfMeaning]

/-- What is nested too deep shows no feature. -/
theorem shownBy?_of_nestLimit {pattern : Text} {f : Fault} (h : f.cause = .nestLimitExceeded) :
    shownBy? pattern f = none := by
  unfold shownBy?
  rw [h]

/-- A fault shows no feature exactly if it is none of those by which features show. -/
theorem shownBy?_eq_none_iff {pattern : Text} {f : Fault} :
    shownBy? pattern f = none ↔ f.cause ≠ .backreference ∧ f.cause ≠ .lookAround ∧
      (f.cause = .escapeUnrecognized →
        ¬['\\', 'k'] <+: pattern.drop f.span.start ∧
          ¬['\\', 'g'] <+: pattern.drop f.span.start) := by
  unfold shownBy?
  split
  · rename_i h
    simp [h]
  · rename_i h
    simp [h]
  · rename_i h
    split
    · rename_i ht
      simp [h, ht]
    · rename_i ht
      simp [h, ht]
    · rename_i hk hg
      simp only [h, true_iff]
      refine ⟨nofun, nofun, fun _ => ⟨?_, ?_⟩⟩
      · rintro ⟨t, ht⟩
        exact hk t ht.symm
      · rintro ⟨t, ht⟩
        exact hg t ht.symm
  · rename_i hb hl he
    exact iff_of_true rfl ⟨hb, hl, fun h => absurd h he⟩

end Feature

namespace Pattern

variable {t : Text} {f : Fault}

theorem parse_of_readItems (h : Reader.readItems .new ⟨0, t⟩ = .error f) : parse t = .error f := by
  unfold parse
  rw [h]
  rfl

/-- A pattern whose items can all be read can only be nested too deep. -/
theorem nestLimit_of_parse {a : Ast} (h : Reader.readItems .new ⟨0, t⟩ = .ok a)
    (hf : parse t = .error f) : f.cause = .nestLimitExceeded := by
  unfold parse at hf
  simp only [h, bind, Except.bind] at hf
  split at hf
  · cases hf
    rfl
  · cases hf

theorem Regex.compile_of_parse (h : parse t = .error f) :
    Regex.compile t = .error (.fault f) := by
  unfold Regex.compile
  rw [h]
  rfl

/-- A pattern that can be read is refused only for its meaning. -/
theorem Regex.parse_or_isOfMeaning (h : Regex.compile t = .error (.fault f)) :
    parse t = .error f ∨ f.cause.isOfMeaning := by
  cases ht : parse t with
  | error g =>
    rw [compile_of_parse ht] at h
    cases h
    exact .inl rfl
  | ok a =>
    right
    unfold Regex.compile at h
    rw [ht] at h
    cases hm : a.meaning {} with
    | error g =>
      simp only [bind, Except.bind, hm] at h
      cases h
      exact a.meaning_faults {} _ hm
    | ok p =>
      simp only [bind, Except.bind, hm] at h
      split at h <;> cases h

end Pattern

section Engine

variable {t : Text} {fault : Fault} (f : Flags)

/-- What reading the pattern refuses, reading it behind the flags refuses further on. -/
theorem readItems_enginePattern_error (h : Reader.readItems .new ⟨0, t⟩ = .error fault) :
    Reader.readItems .new ⟨0, f.enginePattern t⟩ =
      .error (fault.shift (f.engineGroup.getD []).length) := by
  have hstep := readItems_enginePattern f t
  rw [h] at hstep
  generalize Reader.readItems .new ⟨0, f.enginePattern t⟩ = x at hstep
  cases hstep
  rfl

theorem exists_readItems_enginePattern {a : Ast} (h : Reader.readItems .new ⟨0, t⟩ = .ok a) :
    ∃ b, Reader.readItems .new ⟨0, f.enginePattern t⟩ = .ok b := by
  have hstep := readItems_enginePattern f t
  rw [h] at hstep
  generalize Reader.readItems .new ⟨0, f.enginePattern t⟩ = x at hstep
  cases hstep
  exact ⟨_, rfl⟩

/-- Whatever fault the engine refuses the pattern for, the check has seen the feature it shows. -/
theorem shownBy?_of_compile
    (h : Regex.compile (f.enginePattern t) = .error (.fault fault)) :
    Feature.shownBy? (f.enginePattern t) fault = Feature.usedBy? t := by
  cases ht : Reader.readItems .new ⟨0, t⟩ with
  | error g =>
    rw [Regex.compile_of_parse (parse_of_readItems (readItems_enginePattern_error f ht))] at h
    cases h
    rw [Feature.usedBy?_of_error (parse_of_readItems ht)]
    exact Feature.shownBy?_append _ t g
  | ok a =>
    -- The pattern can be read, so neither the check nor the engine comes upon a feature.
    have hcheck : Feature.usedBy? t = none := by
      cases hp : parse t with
      | error g =>
        rw [Feature.usedBy?_of_error hp]
        exact Feature.shownBy?_of_nestLimit (nestLimit_of_parse ht hp)
      | ok a =>
        unfold Feature.usedBy?
        rw [hp]
    rw [hcheck]
    obtain ⟨b, hb⟩ := exists_readItems_enginePattern f ht
    rcases Regex.parse_or_isOfMeaning h with hp | hmeaning
    · exact Feature.shownBy?_of_nestLimit (nestLimit_of_parse hb hp)
    · exact Feature.shownBy?_of_isOfMeaning hmeaning

/-- What the check turns away the engine refuses, and for the same feature. -/
theorem compile_of_usedBy? {feature : Feature} (h : Feature.usedBy? t = some feature) :
    ∃ fault, Regex.compile (f.enginePattern t) = .error (.fault fault) ∧
      Feature.shownBy? (f.enginePattern t) fault = some feature := by
  cases ht : Reader.readItems .new ⟨0, t⟩ with
  | error g =>
    have hcompile :=
      Regex.compile_of_parse (parse_of_readItems (readItems_enginePattern_error f ht))
    exact ⟨_, hcompile, (shownBy?_of_compile f hcompile).trans h⟩
  | ok a =>
    cases hp : parse t with
    | error g =>
      rw [Feature.usedBy?_of_error hp,
        Feature.shownBy?_of_nestLimit (nestLimit_of_parse ht hp)] at h
      cases h
    | ok a =>
      unfold Feature.usedBy? at h
      rw [hp] at h
      cases h

end Engine

/-- Literals with the same pattern. Their flags may differ in anything but whether layout is taken
out of it. -/
def SamePattern (source source' : Text) : Prop :=
  ∃ s s' found found', splitLiteral source = (some s, found) ∧
    splitLiteral source' = (some s', found') ∧ s'.pattern = s.pattern ∧
    (Flags.parse s'.flags s'.flagsOffset).1.extended =
      (Flags.parse s.flags s.flagsOffset).1.extended

theorem finish_eq_unsupported_iff {source : Text} {s : Segments} {found : Diagnostics}
    {pattern : Text} {feature : Feature} :
    finish source s found = .error (.unsupported pattern feature) ↔
      (if (Flags.parse s.flags s.flagsOffset).1.extended then Layout.strip else id) s.pattern =
        pattern ∧ Feature.usedBy? pattern = some feature := by
  unfold finish
  dsimp only
  constructor
  · intro h
    split at h
    · rename_i hused
      cases h
      exact ⟨rfl, hused⟩
    · split at h <;> cases h
  · rintro ⟨rfl, hused⟩
    rw [hused]

/-- A feature fails all literals with the same pattern, unless their structure does. -/
theorem unsupported_of_samePattern {source source' : Text} (h : SamePattern source source')
    {policy : Policy} {pattern : Text} {feature : Feature}
    (hfeature : compileLiteral source policy = .error (.unsupported pattern feature))
    (policy' : Policy) :
    compileLiteral source' policy' = .error (.unsupported pattern feature) ∨
      ∃ found, compileLiteral source' policy' = .error (.malformed source' found) := by
  obtain ⟨s, s', found, found', hs, hs', hpattern, hextended⟩ := h
  rw [compileLiteral_of_split hs] at hfeature
  rw [compileLiteral_of_split hs']
  dsimp only at hfeature ⊢
  split at hfeature
  · cases hfeature
  · rw [finish_eq_unsupported_iff, ← hpattern, ← hextended] at hfeature
    split
    · exact .inr ⟨_, rfl⟩
    · exact .inl (finish_eq_unsupported_iff.mpr hfeature)

/-- The check of features agrees with the engine under any flags. A pattern that it turns away the
engine refuses as well, and for the same feature; a pattern that it lets pass is refused, if it is
refused for a fault, neither for a backreference, nor for a look-around, nor for an escape that
starts a backreference by name. So no flag of the engine decides whether a literal fails for a
feature or in the engine. -/
theorem feature_check_exact (pattern : Text) (flags : Flags) :
    (∀ feature, Feature.usedBy? pattern = some feature →
      ∃ fault, Regex.compile (flags.enginePattern pattern) = .error (.fault fault) ∧
        Feature.shownBy? (flags.enginePattern pattern) fault = some feature) ∧
    (Feature.usedBy? pattern = none → ∀ fault,
      Regex.compile (flags.enginePattern pattern) = .error (.fault fault) →
      fault.cause ≠ .backreference ∧ fault.cause ≠ .lookAround ∧
        (fault.cause = .escapeUnrecognized →
          ¬['\\', 'k'] <+: (flags.enginePattern pattern).drop fault.span.start ∧
            ¬['\\', 'g'] <+: (flags.enginePattern pattern).drop fault.span.start)) ∧
    ∀ source source' policy policy' feature, SamePattern source source' →
      compileLiteral source policy = .error (.unsupported pattern feature) →
      compileLiteral source' policy' = .error (.unsupported pattern feature) ∨
        ∃ found, compileLiteral source' policy' = .error (.malformed source' found) := by
  refine ⟨fun feature h => compile_of_usedBy? flags h, fun h fault hfault => ?_,
    fun source source' policy policy' feature hsame h => unsupported_of_samePattern hsame h policy'⟩
  rw [← Feature.shownBy?_eq_none_iff, shownBy?_of_compile flags hfault, h]

/-- A backreference is turned away under any flags, while a sign with nothing to repeat is left to
the engine, though an escape that is not known comes behind it. -/
theorem feature_check_exact_behind_flags :
    (∃ fault, Regex.compile "(?i)(a)\\1".toList = .error (.fault fault) ∧
      Feature.shownBy? "(?i)(a)\\1".toList fault = some .backreference) ∧
    (∃ fault, Regex.compile "(?i)*\\k".toList = .error (.fault fault) ∧
      fault.cause ≠ .backreference ∧ fault.cause ≠ .lookAround) ∧
    (compileLiteral "/(a)\\1/i".toList .strict =
        .error (.unsupported "(a)\\1".toList .backreference) ∨
      ∃ found, compileLiteral "/(a)\\1/i".toList .strict =
        .error (.malformed "/(a)\\1/i".toList found)) := by
  have hused : Feature.usedBy? "(a)\\1".toList = some .backreference := by cbv
  have hpassed : Feature.usedBy? "*\\k".toList = none := by cbv
  have hmissing : Regex.compile ("(?i)*\\k".toList) =
      .error (.fault ⟨.repetitionMissing, ⟨4, 4⟩⟩) := by cbv
  have hsame : SamePattern "/(a)\\1/".toList "/(a)\\1/i".toList :=
    ⟨_, _, _, _, rfl, rfl, by cbv, by cbv⟩
  have hliteral : compileLiteral "/(a)\\1/".toList .strict =
      .error (.unsupported "(a)\\1".toList .backreference) := by cbv
  obtain ⟨hturned, -, hflags⟩ := feature_check_exact "(a)\\1".toList { ignoreCase := true }
  obtain ⟨-, hleft, -⟩ := feature_check_exact "*\\k".toList { ignoreCase := true }
  obtain ⟨hbackreference, hlookAround, -⟩ := hleft hpassed _ hmissing
  exact ⟨hturned _ hused, ⟨_, hmissing, hbackreference, hlookAround⟩,
    hflags _ _ _ _ _ hsame hliteral⟩

end RegexLiteral
