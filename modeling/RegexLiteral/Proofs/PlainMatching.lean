import Mathlib
import RegexLiteral.Proofs.Engine.Transparency
import RegexLiteral.Proofs.Literal.Compiling
import RegexLiteral.Proofs.Pattern.Needle
import RegexLiteral.Proofs.Substituting

/-!
# Literals that match a text

A text is matched as it is once a backslash stands before each metacharacter and each delimiter in
it. The backslash is right before metacharacters, which the engine takes with one, and where it
would not be, before a delimiter that the engine gives another meaning with a backslash, the
splitter has dropped it. Main statement: such a literal compiles with nothing to be said about it,
matches where the text occurs, and counts the occurrences (`matches_quotedMatch`).
-/
namespace RegexLiteral

open Pattern Reading CompiledLiteral Engine

/-- The characters of a text that get a backslash where it is written in a pattern. -/
def isQuoted (d c : Char) : Bool := c = d || isMeta c

/-- Those of them that still have it where the engine sees the pattern. -/
def keepsQuote (d c : Char) : Bool := isQuoted d c && (c ≠ d || isEscapable c)

/-- The literal that matches a text. -/
def quotedMatch (d : Char) (text flags : Text) : Text :=
  'm' :: d :: (backslashed (isQuoted d) text ++ d :: flags)

/-- The flags of such a literal: none, or `g` behind another delimiter. -/
def PlainFlags (d : Char) (flags : Text) (all : Bool) : Prop :=
  (flags = [] ∧ all = false) ∨ (flags = ['g'] ∧ d ≠ 'g' ∧ all = true)

/-- What such a literal compiles to. -/
structure CompiledLiteral.IsPlain (c : CompiledLiteral) (text : Text) (all : Bool) : Prop where
  mode : c.mode = .matching
  global : c.flags.global = all
  captures : c.hasCaptures = false
  namedCaptures : c.hasNamedCaptures = false
  regex : c.regex = .ofText text
  diagnostics : c.diagnostics = []

section Quoting

variable {d : Char} {text flags : Text} {all : Bool}

theorem isQuoted_of_special (d : Char) : ∀ c ∈ text, c = d ∨ c = '\\' → isQuoted d c := by
  intro c _ hc
  rcases hc with rfl | rfl
  · rw [isQuoted, decide_eq_true rfl, Bool.true_or]
  · have hmeta : isMeta '\\' := by decide
    rw [isQuoted, hmeta, Bool.or_true]

/-- No backslash is left where it would not be right, and none is missing. -/
theorem neutral_keepsQuote (d : Char) : Neutral (keepsQuote d) := by
  have hmeta {c : Char} (hc : isMeta c) : isEscapable c := by rw [isEscapable, hc, Bool.true_or]
  constructor
  · intro c hc
    rw [keepsQuote, isQuoted, Bool.and_eq_true, Bool.or_eq_true, Bool.or_eq_true,
      decide_eq_true_eq, decide_eq_true_eq] at hc
    obtain ⟨hquoted, hkept⟩ := hc
    rcases hquoted with rfl | hquoted
    · exact hkept.resolve_left fun hne => hne rfl
    · exact hmeta hquoted
  · intro c hc
    by_contra hplain
    rw [Bool.not_eq_false] at hplain
    rw [keepsQuote, isQuoted, hplain, hmeta hplain, Bool.or_true, Bool.or_true] at hc
    cases hc

/-- A row without parentheses opens no group. -/
theorem openings_of_closed {ts : List Token} (h : .plain '(' ∉ ts) (rest : List Token) :
    openings d (ts ++ .delimiter :: rest) = [] := by
  induction ts with
  | nil => rfl
  | cons t ts ih =>
    have ht : t ≠ .plain '(' := fun he => h (he ▸ List.mem_cons_self ..)
    by_cases hdelimiter : t = .delimiter
    · subst hdelimiter
      rfl
    · rw [List.cons_append, openings_cons d hdelimiter, if_neg ht, List.nil_append,
        ih (List.not_mem_of_not_mem_cons h)]

/-- The parentheses of a quoted text open no group. -/
theorem openings_quoted (hd : d ≠ '\\') (text flags : Text) :
    openings d (Token.read d (backslashed (isQuoted d) text ++ d :: flags)) = [] := by
  have hspecial : ∀ c ∈ text, c = d ∨ c = '\\' → isQuoted d c := isQuoted_of_special d
  have hparenthesis : isQuoted d '(' := by
    have hmeta : isMeta '(' := by decide
    rw [isQuoted, hmeta, Bool.or_true]
  rw [Token.read_append d (Token.closable_backslashed hd hspecial).loneBackslash,
    Token.read_delimiter, Token.read_backslashed hd hspecial]
  refine openings_of_closed ?_ _
  intro hmem
  obtain ⟨c, -, hc⟩ := List.mem_map.mp hmem
  unfold Token.quote at hc
  split at hc
  · cases hc
  · rename_i hplain
    cases hc
    exact hplain hparenthesis

namespace PlainFlags

theorem notMem (h : PlainFlags d flags all) : d ∉ flags := by
  rcases h with ⟨rfl, -⟩ | ⟨rfl, hd, -⟩
  · exact List.not_mem_nil
  · rwa [List.mem_singleton]

theorem parse (h : PlainFlags d flags all) (start : Nat) :
    ∃ f : Flags, Flags.parse flags start = (f, []) ∧ f.global = all ∧ f.extended = false ∧
      f.engineGroup = none := by
  rcases h with ⟨rfl, rfl⟩ | ⟨rfl, -, rfl⟩
  · exact ⟨_, rfl, rfl, rfl, rfl⟩
  · exact ⟨_, rfl, rfl, rfl, rfl⟩

end PlainFlags

/-- The literal that matches a text compiles under each policy. -/
theorem compileLiteral_quotedMatch (hd : d ≠ '\\') (hflags : PlainFlags d flags all)
    (hsize : (Expr.ofText text).isTooBig = false) (policy : Policy) :
    ∃ c, compileLiteral (quotedMatch d text flags) policy = .ok c ∧ c.IsPlain text all := by
  have hspecial : ∀ c ∈ text, c = d ∨ c = '\\' → isQuoted d c := isQuoted_of_special d
  have hopening : Opening.read (['m'] ++ [d]) = ⟨.matching, ['m'], [d]⟩ := rfl
  have hnil : Token.Closable d [] := ⟨List.not_mem_nil, List.not_mem_nil⟩
  obtain ⟨hsplit, hpattern, -, hflagsText⟩ := splitLiteral_of_closable hopening
    (Token.closable_backslashed hd hspecial) hnil (Token.delimiter_notMem_read hflags.notMem)
  rw [Token.read_backslashed hd hspecial, flatMap_patternText_quote] at hpattern
  generalize hs : segments .matching ['m'] d _ = s at hsplit hpattern hflagsText
  have hmode : s.mode = .matching := by
    rw [← hs]
    rfl
  have hcaptures : s.hasCaptures = false := by
    rw [← hs]
    exact congrArg (List.any · _) (openings_quoted hd text flags)
  have hnamed : s.hasNamedCaptures = false := by
    rw [← hs]
    exact congrArg (List.any · _) (openings_quoted hd text flags)
  obtain ⟨f, hparse, hglobal, hextended, hgroup⟩ := hflags.parse s.flagsOffset
  rw [← hflagsText] at hparse
  let c := assemble (quotedMatch d text flags) s [] (.ofText text)
  have hc : c.flags = f := congrArg Prod.fst hparse
  have htext : c.pattern = backslashed (keepsQuote d) text := by
    rw [assemble_pattern, if_neg (by rw [hc]; simp [hextended])]
    exact hpattern
  have hdiagnostics : c.diagnostics = [] := congrArg Prod.snd hparse
  have hengine : c.enginePattern = backslashed (keepsQuote d) text := by
    rw [CompiledLiteral.enginePattern, Flags.enginePattern, hc, hgroup, htext]
    rfl
  have hpassable : c.Passable policy := by
    constructor
    · intro herrors
      rw [hdiagnostics] at herrors
      cases herrors
    · rw [htext]
      exact usedBy?_backslashed (neutral_keepsQuote d) text
  have hcompile : Regex.compile c.enginePattern = .ok c.regex := by
    rw [hengine]
    exact compile_backslashed (neutral_keepsQuote d) hsize
  refine ⟨c, compileLiteral_eq_ok_iff.mpr ⟨s, [], hsplit, rfl, hpassable, hcompile⟩, ?_⟩
  exact {
    mode := hmode
    global := hc ▸ hglobal
    captures := hcaptures
    namedCaptures := hnamed
    regex := rfl
    diagnostics := hdiagnostics }

end Quoting

section Plain

variable {c : CompiledLiteral} {e : Engine} {literal text : Text} {all : Bool}

theorem CompiledLiteral.IsPlain.ensureMatchable (h : c.IsPlain text all) :
    ensureMatchable c = .ok () := by
  rw [Engine.ensureMatchable, h.mode]

/-- Matching such a literal with an engine asks for the text. -/
theorem isMatch_of_plain (he : e.Coherent) (hcompile : compileLiteral literal e.policy = .ok c)
    (h : c.IsPlain text all) (haystack : Text) :
    (e.isMatch haystack literal).1 = .ok (decide (text <:+: haystack)) := by
  have hmatch : c.regex.isMatch haystack = decide (text <:+: haystack) := by
    rw [h.regex, Bool.eq_iff_iff, decide_eq_true_eq]
    exact Regex.isMatch_ofText text haystack
  rw [Engine.isMatch, he.withCompiled_of_ok hcompile, h.ensureMatchable, hmatch]
  rfl

/-- With all matches asked for it counts the occurrences. -/
theorem matchCount_of_plain (h : c.IsPlain text true) (htext : text ≠ []) (haystack : Text) :
    (c.runMatch haystack).matchCount = (occurrences text 0 haystack).length := by
  have hcaptures : c.reportsCaptures = false := by
    rw [reportsCaptures, h.captures, Bool.false_and]
  rw [runMatch, h.global, hcaptures, h.regex]
  simp [Regex.findSpans_ofText htext]

theorem matchDetailed_of_plain (he : e.Coherent)
    (hcompile : compileLiteral literal e.policy = .ok c) (h : c.IsPlain text all)
    (haystack : Text) : (e.matchDetailed haystack literal).1 = .ok (c.runMatch haystack) := by
  rw [Engine.matchDetailed, he.withCompiled_of_ok hcompile, h.ensureMatchable]
  rfl

end Plain

/-- A quoted text is matched as it is. The literal compiles under the policy of the engine, the
strict one too, with no diagnostics and no groups; it matches the texts in which the quoted one
occurs; and with the flag `g` it counts the occurrences that do not overlap. -/
theorem matches_quotedMatch {e : Engine} (he : e.Coherent) {d : Char} (hd : d ≠ '\\') {text : Text}
    (hsize : (Expr.ofText text).isTooBig = false) :
    (∃ c, (e.compile (quotedMatch d text [])).1 = .ok c ∧ c.diagnostics = [] ∧
      c.regex.groupCount = 0 ∧ c.hasCaptures = false ∧ c.hasNamedCaptures = false) ∧
    (∀ haystack, (e.isMatch haystack (quotedMatch d text [])).1 =
      .ok (decide (text <:+: haystack))) ∧
    (d ≠ 'g' → text ≠ [] → ∀ haystack, ∃ o,
      (e.matchDetailed haystack (quotedMatch d text ['g'])).1 = .ok o ∧
        o.matchCount = (occurrences text 0 haystack).length) := by
  have hnone : PlainFlags d [] false := .inl ⟨rfl, rfl⟩
  obtain ⟨c, hcompile, hplain⟩ := compileLiteral_quotedMatch hd hnone hsize e.policy
  refine ⟨⟨c, he.compile_eq_ok_iff.mpr hcompile, hplain.diagnostics, ?_, hplain.captures,
    hplain.namedCaptures⟩, ?_, ?_⟩
  · rw [hplain.regex]
    rfl
  · exact isMatch_of_plain he hcompile hplain
  · intro hg htext haystack
    have hall : PlainFlags d ['g'] true := .inr ⟨rfl, hg, rfl⟩
    obtain ⟨c, hcompile, hplain⟩ := compileLiteral_quotedMatch hd hall hsize e.policy
    exact ⟨c.runMatch haystack, matchDetailed_of_plain he hcompile hplain haystack,
      matchCount_of_plain hplain htext haystack⟩

/-- The delimiter is an angle bracket, which the engine takes for a boundary of words if it has a
backslash, and the text has a parenthesis. -/
theorem matches_quotedMatch_bracket :
    quotedMatch '<' "a<(".toList ['g'] = "m<a\\<\\(<g".toList ∧
    (∃ c, (({} : Engine).compile (quotedMatch '<' "a<(".toList [])).1 = .ok c ∧
      c.diagnostics = [] ∧ c.regex.groupCount = 0) ∧
    (({} : Engine).isMatch "xa<(".toList (quotedMatch '<' "a<(".toList [])).1 = .ok true ∧
    (({} : Engine).isMatch "a(<".toList (quotedMatch '<' "a<(".toList [])).1 = .ok false ∧
    ∃ o, (({} : Engine).matchDetailed "a<(a<((".toList (quotedMatch '<' "a<(".toList ['g'])).1 =
      .ok o ∧ o.matchCount = 2 := by
  have hsize : (Expr.ofText "a<(".toList).isTooBig = false := isTooBig_ofText (by decide +kernel)
  obtain ⟨⟨c, hcompile, hdiagnostics, hgroups, -, -⟩, hmatch, hcount⟩ :=
    matches_quotedMatch coherent_new (show '<' ≠ '\\' by decide) hsize
  obtain ⟨o, ho, hlength⟩ := hcount (by decide) (by decide +kernel) "a<(a<((".toList
  have htwo : (occurrences "a<(".toList 0 "a<(a<((".toList).length = 2 := by cbv
  refine ⟨by decide +kernel, ⟨c, hcompile, hdiagnostics, hgroups⟩, ?_, ?_, o, ho, ?_⟩
  · rw [hmatch]
    decide +kernel
  · rw [hmatch]
    decide +kernel
  · rw [hlength, htwo]

end RegexLiteral
