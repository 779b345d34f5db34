import Mathlib
import RegexLiteral.Proofs.CaptureRows

/-!
# Taking the first match and taking all

Of two literals that differ only in whether they take all matches, the one takes the first of those
that the other takes (`CompiledLiteral.DifferInGlobal.taken`). Everything in an outcome is built
from the matches taken one after the other, so the outcome of the one is cut from that of the other
behind the first match: `single_is_first_cut` says so field by field.
-/
namespace RegexLiteral

open Pattern

namespace Recorder

variable {names : List (Option Text)}

/-- Names that are all different get one entry each. -/
theorem assign_of_nodup {given : List (Text × Text)} (h : (given.map Prod.fst).Nodup) :
    assign [] given = given := by
  induction given using List.reverseRecOn with
  | nil => rfl
  | append_singleton given p ih =>
    rw [List.map_append, List.map_singleton, List.nodup_append] at h
    obtain ⟨hgiven, -, hfresh⟩ := h
    have hnew : p.1 ∉ given.map Prod.fst := fun hmem =>
      hfresh p.1 hmem p.1 (List.mem_singleton_self _) rfl
    rw [assign_append, ih hgiven]
    show setNamed p.1 p.2 given = given ++ [p]
    exact setNamed_of_notMem hnew

theorem naming?_eq_some_iff {j : Nat} {value : Text} {p : Text × Text} :
    naming? names j value = some p ↔
      value ≠ [] ∧ names[j]? = some (some p.1) ∧ value = p.2 := by
  obtain ⟨name, text⟩ := p
  unfold naming?
  cases value with
  | nil => simp
  | cons c value =>
    rw [if_neg (by simp), Option.map_eq_some_iff]
    constructor
    · rintro ⟨other, hother, heq⟩
      cases heq
      exact ⟨List.cons_ne_nil _ _, Option.join_eq_some_iff.mp hother, rfl⟩
    · rintro ⟨-, hname, rfl⟩
      exact ⟨name, Option.join_eq_some_iff.mpr hname, rfl⟩

/-- A match gives a name the text of its group, if this is not empty. -/
theorem mem_namings {groups : Nat} {haystack : Text} {m : Match} {name text : Text} :
    (name, text) ∈ namings names groups haystack m ↔
      text ≠ [] ∧ ∃ j, 1 ≤ j ∧ j ≤ groups ∧ names[j]? = some (some name) ∧
        groupText haystack m j = text := by
  rw [namings_eq, List.mem_filterMap]
  constructor
  · rintro ⟨j, hj, hnaming⟩
    obtain ⟨hne, hname, htext⟩ := naming?_eq_some_iff.mp hnaming
    dsimp only at htext
    exact ⟨htext ▸ hne, j + 1, Nat.le_add_left 1 j, List.mem_range.mp hj, hname, htext⟩
  · rintro ⟨hne, j, hpos, hj, hname, htext⟩
    obtain ⟨k, rfl⟩ := Nat.exists_eq_add_of_le' hpos
    exact ⟨k, List.mem_range.mpr hj, naming?_eq_some_iff.mpr ⟨htext ▸ hne, hname, htext⟩⟩

/-- If the names of groups are all different, a match gives no name two texts. -/
theorem nodup_namings
    (h : ∀ {i j : Nat} {name : Text}, names[i]? = some (some name) →
      names[j]? = some (some name) → i = j)
    (groups : Nat) (haystack : Text) (m : Match) :
    ((namings names groups haystack m).map Prod.fst).Nodup := by
  rw [namings_eq, List.map_filterMap]
  refine List.Nodup.filterMap ?_ List.nodup_range
  intro i j name hi hj
  obtain ⟨p, hp, rfl⟩ := Option.map_eq_some_iff.mp hi
  obtain ⟨q, hq, hname⟩ := Option.map_eq_some_iff.mp hj
  obtain ⟨-, hi, -⟩ := naming?_eq_some_iff.mp hp
  obtain ⟨-, hj, -⟩ := naming?_eq_some_iff.mp hq
  rw [hname] at hj
  exact Nat.succ.inj (h hi hj)

/-- The names of a single match are the texts that it gives them. -/
theorem named_inOrder_singleton
    (h : ∀ {i j : Nat} {name : Text}, names[i]? = some (some name) →
      names[j]? = some (some name) → i = j)
    (haystack : Text) (m : Match) :
    (inOrder names true haystack [m]).named = namings names (names.length - 1) haystack m := by
  rw [named_inOrder, List.flatMap_singleton]
  exact assign_of_nodup (nodup_namings h _ haystack m)

end Recorder

namespace CompiledLiteral

/-- Two literals that do the same but for the matches they take: the first one or all. -/
structure DifferInGlobal (s g : CompiledLiteral) : Prop where
  single : s.flags.global = false
  all : g.flags.global = true
  regex : s.regex = g.regex
  replacement : s.replacement = g.replacement
  hasCaptures : s.hasCaptures = g.hasCaptures
  hasNamedCaptures : s.hasNamedCaptures = g.hasNamedCaptures

/-- A text with the first match replaced, if there is one. -/
def replaceFirst (c : CompiledLiteral) (haystack : Text) : Text :=
  match c.regex.findAll haystack with
  | [] => haystack
  | m :: _ =>
    haystack.take m.span.start ++ Template.expand c.replacement c.regex haystack m ++
      haystack.drop m.span.stop

/-- An outcome is the part of another that is about the first match. -/
structure FirstCut (g : CompiledLiteral) (haystack : Text) (a b : Outcome) : Prop where
  matchCount : a.matchCount = min 1 b.matchCount
  groups : a.groups = b.groups.map (List.take (g.regex.groupCount + 1))
  namedPresent : a.named.isSome = b.named.isSome
  namedApart : ∀ named, a.named = some named → (named.map Prod.fst).Nodup
  named : ∀ named, a.named = some named → ∀ name text, (name, text) ∈ named ↔
    text ≠ [] ∧ ∃ m j, (g.regex.findAll haystack).head? = some m ∧ 1 ≤ j ∧
      j ≤ g.regex.groupCount ∧ g.regex.groupNames[j]? = some (some name) ∧
      groupText haystack m j = text
  equal : b.matchCount ≤ 1 → a = b

section FirstCut

variable {s g : CompiledLiteral} {haystack : Text}

theorem DifferInGlobal.taken (h : DifferInGlobal s g) (haystack : Text) :
    s.taken haystack = (g.taken haystack).take 1 := by
  have hfirst : (g.taken haystack).head? = s.regex.findFirst haystack := by
    rw [head?_taken, h.regex]
  rw [taken_of_not_global h.single, ← hfirst]
  cases g.taken haystack <;> rfl

theorem DifferInGlobal.report (h : DifferInGlobal s g) (haystack : Text) (ms : List Match) :
    s.report haystack ms = g.report haystack ms := by
  unfold CompiledLiteral.report captureFields reportsCaptures reportsNames
  rw [h.regex, h.hasCaptures, h.hasNamedCaptures]

theorem DifferInGlobal.runSubstitute (h : DifferInGlobal s g) (haystack : Text) :
    s.runSubstitute haystack =
      { g.report haystack ((g.taken haystack).take 1) with
        substituted := some (g.replaceAll haystack ((g.taken haystack).take 1)) } := by
  rw [runSubstitute_eq_report, h.taken, h.report, replaceAll, replaceAll, h.replacement, h.regex]

theorem groups_take (ms : List Match) :
    (g.report haystack (ms.take 1)).groups =
      (g.report haystack ms).groups.map (List.take (g.regex.groupCount + 1)) := by
  rw [groups_report, groups_report]
  cases ms with
  | nil => rfl
  | cons m ms =>
    simp only [List.take_succ_cons, List.take_zero, List.isEmpty_cons, Bool.false_or]
    split
    · rfl
    · simp [length_groupTexts]

theorem isSome_named_take (ms : List Match) :
    (g.report haystack (ms.take 1)).named.isSome = (g.report haystack ms).named.isSome := by
  rw [named_report, named_report]
  cases ms with
  | nil => rfl
  | cons m ms =>
    simp only [List.take_succ_cons, List.take_zero, List.isEmpty_cons]
    cases g.reportsCaptures <;> cases g.reportsNames <;> rfl

/-- The names of the first match are the texts that it gives them. -/
theorem named_take {ms : List Match} {named : List (Text × Text)}
    (hnames : ∀ {i j : Nat} {name : Text}, g.regex.groupNames[i]? = some (some name) →
      g.regex.groupNames[j]? = some (some name) → i = j)
    (h : (g.report haystack (ms.take 1)).named = some named) :
    ∃ m, ms.head? = some m ∧
      named = Recorder.namings g.regex.groupNames g.regex.groupCount haystack m := by
  rw [named_report] at h
  split at h
  · cases h
  · rename_i hshown
    cases ms with
    | nil => simp at hshown
    | cons m ms =>
      cases h
      exact ⟨m, rfl, Recorder.named_inOrder_singleton hnames haystack m⟩

/-- Substituting only the first match reports the cut of what is reported of all. -/
theorem firstCut_runSubstitute (h : DifferInGlobal s g)
    (hnames : ∀ {i j : Nat} {name : Text}, g.regex.groupNames[i]? = some (some name) →
      g.regex.groupNames[j]? = some (some name) → i = j) (haystack : Text) :
    FirstCut g haystack (s.runSubstitute haystack) (g.runSubstitute haystack) := by
  have htaken := taken_of_global h.all haystack
  have hnamed : (s.runSubstitute haystack).named =
      (g.report haystack ((g.taken haystack).take 1)).named := by rw [h.runSubstitute]
  have hcount := g.matchCount_runSubstitute haystack
  refine ⟨?_, ?_, ?_, ?_, ?_, fun hle => ?_⟩
  · rw [h.runSubstitute, hcount]
    simp [matchCount_report]
  · rw [h.runSubstitute, g.runSubstitute_eq_report]
    exact groups_take (g.taken haystack)
  · rw [hnamed, g.runSubstitute_eq_report]
    exact isSome_named_take (g.taken haystack)
  · intro named heq
    obtain ⟨m, -, rfl⟩ := named_take hnames (hnamed.symm.trans heq)
    exact Recorder.nodup_namings hnames _ haystack m
  · intro named heq name text
    obtain ⟨m, hm, rfl⟩ := named_take hnames (hnamed.symm.trans heq)
    rw [htaken] at hm
    rw [Recorder.mem_namings]
    refine and_congr_right fun _ => ⟨?_, ?_⟩
    · rintro ⟨j, hj⟩
      exact ⟨m, j, hm, hj⟩
    · rintro ⟨m', j, hm', hj⟩
      cases hm.symm.trans hm'
      exact ⟨j, hj⟩
  · rw [hcount] at hle
    rw [h.runSubstitute, List.take_of_length_le hle, g.runSubstitute_eq_report]

/-- Matching reports what substituting does, so it reports the same cut. -/
theorem FirstCut.runMatch (h : FirstCut g haystack (s.runSubstitute haystack)
    (g.runSubstitute haystack)) :
    FirstCut g haystack (s.runMatch haystack) (g.runMatch haystack) := by
  rw [runMatch_eq, runMatch_eq]
  exact ⟨h.matchCount, h.groups, h.namedPresent, h.namedApart, h.named,
    fun hle => by rw [h.equal hle]⟩

theorem substituted_first (h : DifferInGlobal s g) (haystack : Text) :
    (s.runSubstitute haystack).substituted = some (g.replaceFirst haystack) := by
  rw [h.runSubstitute, taken_of_global h.all]
  unfold replaceFirst
  cases g.regex.findAll haystack with
  | nil => rfl
  | cons m ms => rfl

end FirstCut

end CompiledLiteral

open CompiledLiteral

/-- What a literal makes of the first match only, told by what it makes of all matches when it is
global: the count is cut at one, the row of groups behind those of the first match, and there are
names exactly if there are for all matches, those and no others whose groups have text in the first
match. Only the first match is replaced. If there is no second match, nothing differs. -/
theorem single_is_first_cut {source : Text} {policy : Policy} {s g : CompiledLiteral}
    (hg : compileLiteral source policy = .ok g) (h : DifferInGlobal s g) (haystack : Text) :
    FirstCut g haystack (s.runMatch haystack) (g.runMatch haystack) ∧
    FirstCut g haystack (s.runSubstitute haystack) (g.runSubstitute haystack) ∧
    (s.runSubstitute haystack).substituted = some (g.replaceFirst haystack) := by
  have hcut := firstCut_runSubstitute h (fun hi hj => eq_of_groupNames hg hi hj) haystack
  exact ⟨hcut.runMatch, hcut, substituted_first h haystack⟩

/-- Two groups with names, of which the first takes no part in the first match. So its name is
missing where only this match is taken, though it is there when all three are. -/
theorem single_is_first_cut_branches :
    ∃ s g, compileLiteral "s/(?<x>a)|(?<y>b)/-/".toList .strict = .ok s ∧
      compileLiteral "s/(?<x>a)|(?<y>b)/-/g".toList .strict = .ok g ∧ DifferInGlobal s g ∧
      FirstCut g "bab".toList (s.runSubstitute "bab".toList) (g.runSubstitute "bab".toList) ∧
      s.runSubstitute "bab".toList =
        { matchCount := 1
          groups := some (["", "", "b"].map String.toList)
          named := some [("y".toList, "b".toList)]
          substituted := some "-ab".toList } ∧
      g.runSubstitute "bab".toList =
        { matchCount := 3
          groups := some (["", "", "b", "a", "", "", "b"].map String.toList)
          named := some [("y".toList, "b".toList), ("x".toList, "a".toList)]
          substituted := some "---".toList } := by
  have hsingle : (compileLiteral "s/(?<x>a)|(?<y>b)/-/".toList .strict).toOption.any fun s =>
      !s.flags.global && s.hasCaptures && s.hasNamedCaptures && s.replacement = ['-'] &&
        s.enginePattern = "(?<x>a)|(?<y>b)".toList &&
        s.runSubstitute "bab".toList =
          { matchCount := 1
            groups := some (["", "", "b"].map String.toList)
            named := some [("y".toList, "b".toList)]
            substituted := some "-ab".toList } := by
    simp only [runSubstitute_eq_report, taken, Regex.findAll_eq_upTo]
    cbv
  have hall : (compileLiteral "s/(?<x>a)|(?<y>b)/-/g".toList .strict).toOption.any fun g =>
      g.flags.global && g.hasCaptures && g.hasNamedCaptures && g.replacement = ['-'] &&
        g.enginePattern = "(?<x>a)|(?<y>b)".toList &&
        g.runSubstitute "bab".toList =
          { matchCount := 3
            groups := some (["", "", "b", "a", "", "", "b"].map String.toList)
            named := some [("y".toList, "b".toList), ("x".toList, "a".toList)]
            substituted := some "---".toList } := by
    simp only [runSubstitute_eq_report, taken, Regex.findAll_eq_upTo]
    cbv
  obtain ⟨s, hs, hsingle⟩ := exists_of_any_compileLiteral hsingle
  obtain ⟨g, hg, hall⟩ := exists_of_any_compileLiteral hall
  simp only [Bool.and_eq_true, Bool.not_eq_true', decide_eq_true_eq] at hsingle hall
  obtain ⟨⟨⟨⟨⟨hsglobal, hscaptures⟩, hsnamed⟩, hsreplacement⟩, hspattern⟩, hsoutcome⟩ := hsingle
  obtain ⟨⟨⟨⟨⟨hgglobal, hgcaptures⟩, hgnamed⟩, hgreplacement⟩, hgpattern⟩, hgoutcome⟩ := hall
  obtain ⟨-, -, -, -, hsregex⟩ := exists_segments_of_compileLiteral hs
  obtain ⟨-, -, -, -, hgregex⟩ := exists_segments_of_compileLiteral hg
  have hregex : s.regex = g.regex := by
    rw [hspattern] at hsregex
    rw [hgpattern, hsregex] at hgregex
    exact Except.ok.inj hgregex
  have hdiffer : DifferInGlobal s g :=
    { single := hsglobal
      all := hgglobal
      regex := hregex
      replacement := hsreplacement.trans hgreplacement.symm
      hasCaptures := hscaptures.trans hgcaptures.symm
      hasNamedCaptures := hsnamed.trans hgnamed.symm }
  exact ⟨s, g, hs, hg, hdiffer, (single_is_first_cut hg hdiffer "bab".toList).2.1, hsoutcome,
    hgoutcome⟩

end RegexLiteral
