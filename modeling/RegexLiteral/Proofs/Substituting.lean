import Mathlib
import RegexLiteral.Outcome
import RegexLiteral.Proofs.Literal.Compiling
import RegexLiteral.Proofs.Pattern.Findings

/-!
# What substituting does to a text

The spans of the matches that a literal takes stand in order in the text, so they cut it into gaps.
Substituting fills the gaps with what the template stands for in each match
(`runSubstitute_splices`): what stands outside the matches is copied once and as it is. Matching and
substituting have ways of their own for the first match, for none and for all, and matching has one
more that only counts spans. All of them come to one report of the matches taken
(`runMatch_eq_report`, `runSubstitute_eq_report`), so the two agree (`runMatch_agrees`).
-/
namespace RegexLiteral

open Pattern

/-- What a text holds from a place on outside spans that stand in order in it: the part up to the
first span, the parts between one span and the next, and the part behind the last. -/
def gaps (t : Text) (start : Nat) (spans : List Span) : List Text :=
  List.zipWith (fun i j => slice t ⟨i, j⟩) (start :: spans.map Span.stop)
    (spans.map Span.start ++ [t.length])

/-- Pieces put into the gaps of a text. There is one gap more than there are pieces. -/
def fill (gaps pieces : List Text) : Text := (List.zipWith (· ++ ·) gaps (pieces ++ [[]])).flatten

/-- The templates that stand for the whole match. -/
def wholeTemplates : List Text := ["$0".toList, "$\x7b0\x7d".toList]

section Gaps

variable {t : Text}

theorem gaps_nil (t : Text) (start : Nat) : gaps t start [] = [slice t ⟨start, t.length⟩] := rfl

theorem gaps_cons (t : Text) (start : Nat) (a : Span) (spans : List Span) :
    gaps t start (a :: spans) = slice t ⟨start, a.start⟩ :: gaps t a.stop spans := rfl

theorem fill_singleton (g : Text) : fill [g] [] = g := by simp [fill]

theorem fill_cons (g p : Text) (gs ps : List Text) :
    fill (g :: gs) (p :: ps) = g ++ p ++ fill gs ps := by simp [fill]

theorem slice_length (t : Text) (i : Nat) : slice t ⟨i, t.length⟩ = t.drop i :=
  List.take_of_length_le (by simp)

/-- A part of a text and what is behind it. -/
theorem slice_append_drop {i j : Nat} (h : i ≤ j) : slice t ⟨i, j⟩ ++ t.drop j = t.drop i := by
  have hdrop : t.drop j = (t.drop i).drop (j - i) := by
    rw [List.drop_drop, Nat.add_sub_cancel' h]
  rw [hdrop]
  exact List.take_append_drop (j - i) (t.drop i)

/-- Spans put back into the gaps between them give the text. -/
theorem fill_slices {start : Nat} {spans : List Span}
    (h : Span.InOrder start t.length spans) :
    fill (gaps t start spans) (spans.map (slice t)) = t.drop start := by
  induction spans generalizing start with
  | nil => rw [gaps_nil, List.map_nil, fill_singleton, slice_length]
  | cons a spans ih =>
    obtain ⟨hstart, hspan, hrest⟩ := h
    rw [gaps_cons, List.map_cons, fill_cons, ih hrest, List.append_assoc,
      slice_append_drop hspan, slice_append_drop hstart]

end Gaps

namespace CompiledLiteral

/-- The matches that a literal takes. -/
def taken (c : CompiledLiteral) (haystack : Text) : List Match :=
  if c.flags.global then c.regex.findAll haystack else (c.regex.findFirst haystack).toList

/-- What is told of matches, if there are any. -/
def report (c : CompiledLiteral) (haystack : Text) (ms : List Match) : Outcome :=
  if ms.isEmpty then {}
  else
    let fields := c.captureFields haystack ms
    { matchCount := ms.length, groups := fields.1, named := fields.2 }

variable {c : CompiledLiteral} {haystack : Text}

theorem taken_of_global (h : c.flags.global = true) (haystack : Text) :
    c.taken haystack = c.regex.findAll haystack := by simp [taken, h]

theorem taken_of_not_global (h : c.flags.global = false) (haystack : Text) :
    c.taken haystack = (c.regex.findFirst haystack).toList := by simp [taken, h]

/-- Where no groups are reported, no more is told of matches than their number. -/
theorem report_of_not_reported (h : c.reportsCaptures = false) (haystack : Text)
    (ms : List Match) : c.report haystack ms = { matchCount := ms.length } := by
  have hfields : c.captureFields haystack ms = (none, none) := by simp [captureFields, h]
  cases ms with
  | nil => rfl
  | cons m ms =>
    unfold report
    rw [hfields]
    rfl

/-- Whichever way matching goes, it reports the matches that the literal takes. -/
theorem runMatch_eq_report (c : CompiledLiteral) (haystack : Text) :
    c.runMatch haystack = c.report haystack (c.taken haystack) := by
  cases hglobal : c.flags.global with
  | false =>
    rw [taken_of_not_global hglobal]
    unfold runMatch
    rw [hglobal]
    cases c.regex.findFirst haystack <;> rfl
  | true =>
    rw [taken_of_global hglobal]
    cases hcaptures : c.reportsCaptures with
    | false =>
      -- The spans are counted where the report counts matches with their groups.
      have hcount : (c.regex.findSpans haystack).length = (c.regex.findAll haystack).length := by
        rw [c.regex.findSpans_eq, List.length_map]
      rw [report_of_not_reported hcaptures, ← hcount]
      simp [runMatch, hglobal, hcaptures]
    | true => simp [runMatch, report, hglobal, hcaptures]

/-- Whichever way substituting goes, it reports the matches that the literal takes and replaces
them. -/
theorem runSubstitute_eq_report (c : CompiledLiteral) (haystack : Text) :
    c.runSubstitute haystack =
      { c.report haystack (c.taken haystack) with
        substituted := some (c.replaceAll haystack (c.taken haystack)) } := by
  unfold runSubstitute
  cases hglobal : c.flags.global with
  | false =>
    rw [taken_of_not_global hglobal]
    cases c.regex.findFirst haystack <;> rfl
  | true =>
    rw [taken_of_global hglobal]
    cases c.regex.findAll haystack <;> rfl

/-- Splicing fills the gaps between the matches. -/
theorem splice_eq_fill (expand : Match → Text) {start : Nat} {ms : List Match}
    (h : Span.InOrder start haystack.length (ms.map Match.span)) :
    splice expand start (haystack.drop start) ms =
      fill (gaps haystack start (ms.map Match.span)) (ms.map expand) := by
  induction ms generalizing start with
  | nil => rw [List.map_nil, List.map_nil, gaps_nil, fill_singleton, slice_length, splice]
  | cons m ms ih =>
    obtain ⟨hstart, hspan, hrest⟩ := h
    have hle : start ≤ m.span.stop := Nat.le_trans hstart hspan
    rw [List.map_cons, List.map_cons, gaps_cons, fill_cons, ← ih hrest, splice, List.drop_drop,
      Nat.add_sub_cancel' hle]
    rfl

theorem replaceAll_eq_fill {ms : List Match}
    (h : Span.InOrder 0 haystack.length (ms.map Match.span)) :
    c.replaceAll haystack ms = fill (gaps haystack 0 (ms.map Match.span))
      (ms.map (Template.expand c.replacement c.regex haystack)) := splice_eq_fill _ h

theorem inOrder_taken (c : CompiledLiteral) (haystack : Text) :
    Span.InOrder 0 haystack.length ((c.taken haystack).map Match.span) := by
  unfold taken
  split
  · exact c.regex.inOrder_findAll haystack
  · exact c.regex.inOrder_findFirst haystack

theorem group?_zero_of_taken {m : Match} (h : m ∈ c.taken haystack) :
    m.group? 0 = some m.span := by
  unfold taken at h
  split at h
  · exact Regex.group?_zero_of_findAll h
  · exact Regex.group?_zero_of_find (Option.mem_toList.mp h)

theorem head?_taken (c : CompiledLiteral) (haystack : Text) :
    (c.taken haystack).head? = c.regex.findFirst haystack := by
  unfold taken
  split
  · exact c.regex.head?_findAll haystack
  · cases c.regex.findFirst haystack <;> rfl

theorem matchCount_report (c : CompiledLiteral) (haystack : Text) (ms : List Match) :
    (c.report haystack ms).matchCount = ms.length := by
  cases ms <;> rfl

theorem matchCount_runSubstitute (c : CompiledLiteral) (haystack : Text) :
    (c.runSubstitute haystack).matchCount = (c.taken haystack).length := by
  rw [runSubstitute_eq_report]
  exact c.matchCount_report haystack _

theorem substituted_runSubstitute (c : CompiledLiteral) (haystack : Text) :
    (c.runSubstitute haystack).substituted = some (c.replaceAll haystack (c.taken haystack)) := by
  rw [runSubstitute_eq_report]

/-- Substituting reports what matching does. -/
theorem runMatch_eq (c : CompiledLiteral) (haystack : Text) :
    c.runMatch haystack = { c.runSubstitute haystack with substituted := none } := by
  have hreport (ms : List Match) :
      c.report haystack ms = { c.report haystack ms with substituted := none } := by
    cases ms <;> rfl
  rw [runMatch_eq_report, runSubstitute_eq_report]
  exact hreport _

/-- Substituting finds a match where the search that only answers finds one. -/
theorem isMatch_runSubstitute (c : CompiledLiteral) (haystack : Text) :
    (c.runSubstitute haystack).isMatch = c.regex.isMatch haystack := by
  rw [Outcome.isMatch, matchCount_runSubstitute, Regex.isMatch_eq, ← head?_taken]
  cases c.taken haystack <;> simp

theorem isMatch_runMatch (c : CompiledLiteral) (haystack : Text) :
    (c.runMatch haystack).isMatch = c.regex.isMatch haystack := by
  rw [runMatch_eq]
  exact c.isMatch_runSubstitute haystack

/-- Without a match the text is told as it is. -/
theorem substituted_of_no_match (h : (c.runSubstitute haystack).isMatch = false) :
    (c.runSubstitute haystack).substituted = some haystack := by
  rw [isMatch_runSubstitute, Regex.isMatch_eq, ← head?_taken] at h
  cases htaken : c.taken haystack with
  | nil =>
    rw [substituted_runSubstitute, htaken]
    rfl
  | cons m ms =>
    rw [htaken] at h
    cases h

end CompiledLiteral

namespace Template

theorem expand_of_whole {template : Text} (ht : template ∈ wholeTemplates) {m : Match}
    (hm : m.group? 0 = some m.span) (r : Regex) (haystack : Text) :
    expand template r haystack m = slice haystack m.span := by
  have hread : read template = [.reference ['0']] := by
    simp only [wholeTemplates, List.mem_cons, List.not_mem_nil, or_false] at ht
    rcases ht with rfl | rfl
    · cbv
    · cbv
  have hgroup : groupOf? r ['0'] = some 0 := rfl
  simp [expand, hread, Part.expand, hgroup, hm]

end Template

open CompiledLiteral

/-- What substituting makes of a text. The matches taken, all of them or the first one, stand in
order in the text. The text after it is the gaps between the matches, filled with what the template
stands for in each; filled with the matches themselves the gaps give the text before. So the text
stays as it is if there is no match, and also if the template stands for the whole match. -/
theorem runSubstitute_splices (c : CompiledLiteral) (haystack : Text) :
    let ms :=
      if c.flags.global then c.regex.findAll haystack else (c.regex.findFirst haystack).toList
    let spans := ms.map Match.span
    let outcome := c.runSubstitute haystack
    Span.InOrder 0 haystack.length spans ∧
    outcome.matchCount = ms.length ∧
    outcome.substituted = some (fill (gaps haystack 0 spans)
      (ms.map (Template.expand c.replacement c.regex haystack))) ∧
    fill (gaps haystack 0 spans) (spans.map (slice haystack)) = haystack ∧
    (outcome.matchCount = 0 → outcome.substituted = some haystack) ∧
    (c.replacement ∈ wholeTemplates → outcome.substituted = some haystack) := by
  intro ms spans outcome
  have horder : Span.InOrder 0 haystack.length spans := c.inOrder_taken haystack
  have hcount : outcome.matchCount = ms.length := c.matchCount_runSubstitute haystack
  have hfill : outcome.substituted = some (fill (gaps haystack 0 spans)
      (ms.map (Template.expand c.replacement c.regex haystack))) :=
    (c.substituted_runSubstitute haystack).trans (congrArg some (replaceAll_eq_fill horder))
  have hback : fill (gaps haystack 0 spans) (spans.map (slice haystack)) = haystack :=
    fill_slices horder
  -- Both remaining parts put every match back as it was.
  have hsame (hpieces : ms.map (Template.expand c.replacement c.regex haystack) =
      spans.map (slice haystack)) : outcome.substituted = some haystack := by
    rw [hfill, hpieces, hback]
  refine ⟨horder, hcount, hfill, hback, fun hzero => hsame ?_, fun hwhole => hsame ?_⟩
  · have hnil : ms = [] := List.length_eq_zero_iff.mp (hcount.symm.trans hzero)
    simp [spans, hnil]
  · rw [List.map_map]
    exact List.map_congr_left fun m hm =>
      Template.expand_of_whole hwhole (group?_zero_of_taken hm) c.regex haystack

/-- Two of the three matches are empty. A template that stands for the whole match leaves the text
as it is; one that adds to it fills the gaps with three pieces. -/
theorem runSubstitute_splices_whole :
    (∃ c, compileLiteral "s/x*/$\x7b0\x7d/g".toList .strict = .ok c ∧
      (c.runSubstitute "axé".toList).matchCount = 3 ∧
      (c.runSubstitute "axé".toList).substituted = some "axé".toList) ∧
    ∃ c, compileLiteral "s/x*/<$0>/g".toList .strict = .ok c ∧
      (c.runSubstitute "axé".toList).matchCount = 3 ∧
      (c.runSubstitute "axé".toList).substituted = some "<>a<x>é<>".toList := by
  have hwhole : (compileLiteral "s/x*/$\x7b0\x7d/g".toList .strict).toOption.any fun c =>
      c.replacement ∈ wholeTemplates && (c.taken "axé".toList).length = 3 := by
    simp only [taken, Regex.findAll_eq_upTo]
    cbv
  have hpieces : (compileLiteral "s/x*/<$0>/g".toList .strict).toOption.any fun c =>
      (c.taken "axé".toList).map Match.span = [⟨0, 0⟩, ⟨1, 2⟩, ⟨3, 3⟩] &&
      (c.taken "axé".toList).map (Template.expand c.replacement c.regex "axé".toList) =
        ["<>".toList, "<x>".toList, "<>".toList] := by
    simp only [taken, Regex.findAll_eq_upTo]
    cbv
  constructor
  · obtain ⟨c, h, hc⟩ := exists_of_any_compileLiteral hwhole
    simp only [Bool.and_eq_true, decide_eq_true_eq] at hc
    obtain ⟨-, hcount, -, -, -, hsame⟩ := runSubstitute_splices c "axé".toList
    exact ⟨c, h, hcount.trans hc.2, hsame hc.1⟩
  · obtain ⟨c, h, hc⟩ := exists_of_any_compileLiteral hpieces
    simp only [Bool.and_eq_true, decide_eq_true_eq] at hc
    obtain ⟨hspans, hpieces⟩ := hc
    obtain ⟨-, hcount, hfill, -⟩ := runSubstitute_splices c "axé".toList
    have hlength : (c.taken "axé".toList).length = 3 := by
      rw [← List.length_map (f := Match.span), hspans]
      rfl
    refine ⟨c, h, hcount.trans hlength, hfill.trans ?_⟩
    show some (fill (gaps _ 0 ((c.taken "axé".toList).map Match.span))
      ((c.taken "axé".toList).map _)) = _
    rw [hspans, hpieces]
    decide +kernel

/-- Matching and substituting see the same matches: they count as many and report the same groups
and names, and the search without groups that counts them finds the spans of the search with
groups. -/
theorem runMatch_agrees (c : CompiledLiteral) (haystack : Text) :
    (c.runMatch haystack).matchCount = (c.runSubstitute haystack).matchCount ∧
    (c.runMatch haystack).groups = (c.runSubstitute haystack).groups ∧
    (c.runMatch haystack).named = (c.runSubstitute haystack).named ∧
    c.regex.findSpans haystack = (c.regex.findAll haystack).map Match.span := by
  rw [runMatch_eq]
  exact ⟨rfl, rfl, rfl, c.regex.findSpans_eq haystack⟩

end RegexLiteral
