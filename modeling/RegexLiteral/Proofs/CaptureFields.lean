import Mathlib
import RegexLiteral.Proofs.Literal.GroupHeads
import RegexLiteral.Proofs.Pattern.Groups
import RegexLiteral.Proofs.Recording
import RegexLiteral.Proofs.Substituting

/-!
# Which capture fields are present

An outcome reports groups and names if there is a match, if the regex has such groups, and if the
literal shows them. The last is found out from the literal as it is written, before escaped
delimiters lose their backslashes and before layout is taken out. It goes wrong for named groups
whose heads are broken up by either, or by layout that the reader of the pattern passes over, and for
no others: where no such head is broken up, the fields are present exactly if there is a match and
the regex has such groups (`capture_fields`).
-/
namespace RegexLiteral

open Pattern Reading

namespace CompiledLiteral

variable {c : CompiledLiteral} {haystack : Text}

/-- The fields of an outcome are there as the literal reports them, if there is a match. -/
structure Reports (c : CompiledLiteral) (o : Outcome) : Prop where
  groups : o.groups.isSome ↔ 0 < o.matchCount ∧ c.reportsCaptures
  named : o.named.isSome ↔ 0 < o.matchCount ∧ c.reportsCaptures ∧ c.reportsNames

theorem isSome_groups_captureFields (c : CompiledLiteral) (haystack : Text) (ms : List Match) :
    (c.captureFields haystack ms).1.isSome ↔ c.reportsCaptures := by
  unfold captureFields
  split
  · rename_i h
    simp [h]
  · rename_i h
    simp [h]

theorem isSome_named_captureFields (c : CompiledLiteral) (haystack : Text) (ms : List Match) :
    (c.captureFields haystack ms).2.isSome ↔ c.reportsCaptures ∧ c.reportsNames := by
  unfold captureFields
  split
  · rename_i h
    dsimp only
    rw [Recorder.isSome_namedTexts, Recorder.collectNamed_recordAll]
    simp [Recorder.new, h]
  · rename_i h
    simp [h]

theorem reports_report (c : CompiledLiteral) (haystack : Text) (ms : List Match) :
    c.Reports (c.report haystack ms) := by
  cases ms with
  | nil => exact ⟨by simp [report], by simp [report]⟩
  | cons m ms =>
    have hpos : 0 < (m :: ms).length := Nat.succ_pos _
    constructor
    · exact (c.isSome_groups_captureFields haystack _).trans (by simp [report])
    · exact (c.isSome_named_captureFields haystack _).trans (by simp [report])

theorem reports_runMatch (c : CompiledLiteral) (haystack : Text) :
    c.Reports (c.runMatch haystack) := by
  rw [runMatch_eq_report]
  exact c.reports_report haystack _

theorem reports_runSubstitute (c : CompiledLiteral) (haystack : Text) :
    c.Reports (c.runSubstitute haystack) := by
  have h := c.reports_report haystack (c.taken haystack)
  rw [runSubstitute_eq_report]
  exact ⟨h.groups, h.named⟩

end CompiledLiteral

/-- What compiling takes from a literal: what its segments show, its pattern, tidied, and a regex
for this. -/
theorem compileLiteral_ok {source : Text} {policy : Policy} {c : CompiledLiteral}
    (h : compileLiteral source policy = .ok c) :
    ∃ d body, (Opening.read source).rest = d :: body ∧
      let s := segments (Opening.read source).mode (Opening.read source).letters d body
      c.hasCaptures = s.hasCaptures ∧ c.hasNamedCaptures = s.hasNamedCaptures ∧
        c.pattern = tidied c.flags.extended s.pattern ∧
        Regex.compile (c.flags.enginePattern c.pattern) = .ok c.regex := by
  obtain ⟨d, body, hrest, hc, hregex⟩ := exists_segments_of_compileLiteral h
  refine ⟨d, body, hrest, ?_⟩
  generalize c.regex = regex at hc hregex
  subst hc
  exact ⟨rfl, rfl, rfl, hregex⟩

section Shows

variable {body pattern : Text} {d : Char} {flags : Flags} {regex : Regex}

/-- A regex with groups comes from a literal that shows a group, if no head of a named group is
broken up behind its question mark. -/
theorem exists_opensCapture
    (hpattern : pattern =
      tidied flags.extended ((Token.cut (Token.read d body)).1.flatMap (patternText d)))
    (h : Regex.compile (flags.enginePattern pattern) = .ok regex)
    (hwhole : ∀ p ∈ parentheses [] (Token.read d body),
      Token.breaksName flags.extended d p.1 p.2 = false)
    (hcount : 0 < regex.groupCount) :
    ∃ ts ∈ heads (Token.read d body), Segments.opensCapture (Token.textAll d ts) := by
  obtain ⟨⟨index, name⟩, hshown⟩ := Regex.exists_shown h hcount
  obtain ⟨us, ts, head, hread, hus, hhead, hreveals⟩ := exists_head_of_shown hpattern hshown
  rw [hread] at hwhole ⊢
  refine ⟨ts, mem_heads hus ts, ?_⟩
  cases name with
  | none => exact opensCapture_of_unnamed hhead hreveals
  | some name =>
    exact opensCapture_of_named hhead hreveals (hwhole (us, ts) (mem_parentheses hus [] ts))

/-- A regex with named groups comes from a literal that shows a named group, if no head of a named
group is broken up. -/
theorem exists_opensNamed
    (hpattern : pattern =
      tidied flags.extended ((Token.cut (Token.read d body)).1.flatMap (patternText d)))
    (h : Regex.compile (flags.enginePattern pattern) = .ok regex)
    (hwhole : ∀ p ∈ parentheses [] (Token.read d body),
      Token.breaksHead flags.extended (asksSpacing pattern) d p.1 p.2 = false)
    (hnames : regex.groupNames.any Option.isSome) :
    ∃ ts ∈ heads (Token.read d body), Segments.opensNamed (Token.textAll d ts) := by
  obtain ⟨-, ⟨index, name⟩, name', rfl, hshown⟩ := Regex.exists_shown_name h hnames
  obtain ⟨us, ts, head, hread, hus, hhead, hreveals⟩ := exists_head_of_shown hpattern hshown
  rw [hread] at hwhole ⊢
  refine ⟨ts, mem_heads hus ts, ?_⟩
  exact opensNamed_of_named hhead hreveals (hwhole (us, ts) (mem_parentheses hus [] ts))

end Shows

/-- When the fields of an outcome of matching or substituting are present. There has to be a match,
the regex must have such groups, and the text behind some parenthesis of the pattern must show one.
The last follows from the others if no head of a named group is broken up: if wherever the engine
gets the head of a named group, since escaped delimiters have lost their backslashes and layout is
gone, what is written shows a group, or a name. -/
theorem capture_fields {source : Text} {policy : Policy} {c : CompiledLiteral}
    (h : compileLiteral source policy = .ok c) (haystack : Text) {o : Outcome}
    (ho : o = c.runMatch haystack ∨ o = c.runSubstitute haystack) :
    ∃ d body, (Opening.read source).rest = d :: body ∧
      (o.groups.isSome ↔ 0 < o.matchCount ∧ 0 < c.regex.groupCount ∧
        ∃ ts ∈ heads (Token.read d body), Segments.opensCapture (Token.textAll d ts)) ∧
      (o.named.isSome ↔ 0 < o.matchCount ∧ c.regex.groupNames.any Option.isSome ∧
        ∃ ts ∈ heads (Token.read d body), Segments.opensNamed (Token.textAll d ts)) ∧
      ((∀ p ∈ parentheses [] (Token.read d body),
          Token.breaksName c.flags.extended d p.1 p.2 = false) →
        (o.groups.isSome ↔ 0 < o.matchCount ∧ 0 < c.regex.groupCount)) ∧
      ((∀ p ∈ parentheses [] (Token.read d body),
          Token.breaksHead c.flags.extended (asksSpacing c.pattern) d p.1 p.2 = false) →
        (o.named.isSome ↔ 0 < o.matchCount ∧ c.regex.groupNames.any Option.isSome)) := by
  obtain ⟨d, body, hrest, hcaptures, hnames, hpattern, hregex⟩ := compileLiteral_ok h
  replace hpattern : c.pattern =
      tidied c.flags.extended ((Token.cut (Token.read d body)).1.flatMap (patternText d)) := by
    rw [hpattern, ← rows_pattern (Opening.read source).mode]
    rfl
  have hreports : c.Reports o := by
    rcases ho with rfl | rfl
    · exact c.reports_runMatch haystack
    · exact c.reports_runSubstitute haystack
  replace hcaptures : c.hasCaptures ↔ ∃ ts ∈ heads (Token.read d body),
      Segments.opensCapture (Token.textAll d ts) := by
    rw [hcaptures]
    simp [segments, openings_eq]
  replace hnames : c.hasNamedCaptures ↔ ∃ ts ∈ heads (Token.read d body),
      Segments.opensNamed (Token.textAll d ts) := by
    rw [hnames]
    simp [segments, openings_eq]
  have hgroups : o.groups.isSome ↔ 0 < o.matchCount ∧ 0 < c.regex.groupCount ∧
      ∃ ts ∈ heads (Token.read d body), Segments.opensCapture (Token.textAll d ts) := by
    rw [hreports.groups, ← hcaptures]
    simp [CompiledLiteral.reportsCaptures, and_comm]
  have hnamed : o.named.isSome ↔ 0 < o.matchCount ∧ c.regex.groupNames.any Option.isSome ∧
      ∃ ts ∈ heads (Token.read d body), Segments.opensNamed (Token.textAll d ts) := by
    rw [hreports.named, ← hnames, CompiledLiteral.reportsNames, Bool.and_eq_true]
    constructor
    · rintro ⟨hpos, -, hshows, hany⟩
      exact ⟨hpos, hany, hshows⟩
    · rintro ⟨hpos, hany, hshows⟩
      obtain ⟨ts, hts, hopens⟩ := hnames.mp hshows
      have hcapture := hcaptures.mpr ⟨ts, hts, opensCapture_of_opensNamed hopens⟩
      have hcount := (Regex.exists_shown_name hregex hany).1
      exact ⟨hpos, by simp [CompiledLiteral.reportsCaptures, hcapture, hcount], hshows, hany⟩
  refine ⟨d, body, hrest, hgroups, hnamed, ?_, ?_⟩
  · intro hwhole
    rw [hgroups]
    exact and_congr_right fun _ => and_iff_left_of_imp (exists_opensCapture hpattern hregex hwhole)
  · intro hwhole
    rw [hnamed]
    exact and_congr_right fun _ => and_iff_left_of_imp (exists_opensNamed hpattern hregex hwhole)

/-- There is layout in this literal, but none in the head of a group, so its fields follow the
regex. -/
theorem capture_fields_slash :
    ∃ c, compileLiteral "m/( a) (?<n>b)/x".toList .strict = .ok c ∧
      ((c.runMatch ['a', 'b']).groups.isSome ↔
        0 < (c.runMatch ['a', 'b']).matchCount ∧ 0 < c.regex.groupCount) ∧
      ((c.runMatch ['a', 'b']).named.isSome ↔
        0 < (c.runMatch ['a', 'b']).matchCount ∧ c.regex.groupNames.any Option.isSome) ∧
      (c.runMatch ['a', 'b']).groups = some [[], ['a'], ['b']] ∧
      (c.runMatch ['a', 'b']).named = some [(['n'], ['b'])] := by
  have hok : (compileLiteral "m/( a) (?<n>b)/x".toList .strict).toOption.any fun c =>
      c.flags.extended && !asksSpacing c.pattern &&
      (c.runMatch ['a', 'b']).groups = some [[], ['a'], ['b']] &&
      (c.runMatch ['a', 'b']).named = some [(['n'], ['b'])] := by cbv
  obtain ⟨c, h, hc⟩ := exists_of_any_compileLiteral hok
  simp only [Bool.and_eq_true, decide_eq_true_eq, Bool.not_eq_true'] at hc
  obtain ⟨⟨⟨hextended, hasks⟩, hrow⟩, htexts⟩ := hc
  obtain ⟨d, body, hrest, -, -, hgroups, hnamed⟩ := capture_fields h ['a', 'b'] (.inl rfl)
  have hread : (Opening.read "m/( a) (?<n>b)/x".toList).rest = '/' :: "( a) (?<n>b)/x".toList := rfl
  obtain ⟨rfl, rfl⟩ := List.cons.inj (hrest.symm.trans hread)
  rw [hextended] at hgroups hnamed
  rw [hasks] at hnamed
  exact ⟨c, h, hgroups (by decide +kernel), hnamed (by decide +kernel), hrow, htexts⟩

/-- The delimiter is an angle bracket, so the one in the head of the group is escaped. The engine
gets `(?P<n>a)`, which matches and has a named group, but both fields are missing. -/
theorem capture_fields_missing :
    ∃ c, compileLiteral "m<(?P\\<n>a)<".toList .strict = .ok c ∧
      0 < (c.runMatch ['a']).matchCount ∧ 0 < c.regex.groupCount ∧
      c.regex.groupNames.any Option.isSome ∧ (c.runMatch ['a']).groups = none ∧
      (c.runMatch ['a']).named = none := by
  have hmissing : (compileLiteral "m<(?P\\<n>a)<".toList .strict).toOption.any fun c =>
      0 < (c.runMatch ['a']).matchCount && 0 < c.regex.groupCount &&
      c.regex.groupNames.any Option.isSome && (c.runMatch ['a']).groups.isNone &&
      (c.runMatch ['a']).named.isNone := by cbv
  obtain ⟨c, h, hc⟩ := exists_of_any_compileLiteral hmissing
  simp only [Bool.and_eq_true, decide_eq_true_eq, Option.isNone_iff_eq_none] at hc
  obtain ⟨⟨⟨⟨hmatch, hcount⟩, hname⟩, hgroups⟩, hnamed⟩ := hc
  exact ⟨c, h, hmatch, hcount, hname, hgroups, hnamed⟩

end RegexLiteral
