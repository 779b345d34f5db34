import Mathlib
import RegexLiteral.Proofs.Engine.Transparency
import RegexLiteral.Proofs.Literal.Compiling
import RegexLiteral.Proofs.Literal.Quoting
import RegexLiteral.Proofs.Substituting

/-!
# Replacement texts that stand for themselves

A text stands for itself in a template once its dollar signs are doubled (`expand_doubled`), and a
template stands in a literal once its delimiters are escaped. The two ways of quoting do not meet:
the backslashes are gone before the template is read, whichever character the delimiter is, also
one that means something in templates. Main statement: a substitution with a quoted text puts that
text in the place of each match that it takes (`substituteToText_verbatim`).
-/
namespace RegexLiteral

open Pattern Reading

namespace Template

/-- A text with its dollar signs doubled. -/
def doubled (t : Text) : Text := t.flatMap fun c => if c = '$' then ['$', '$'] else [c]

theorem read_dollars (t : Text) : read ('$' :: '$' :: t) = .char '$' :: read t := by
  rw [read]
  rfl

theorem read_char {c : Char} (hc : c ≠ '$') (t : Text) : read (c :: t) = .char c :: read t := by
  rw [read.eq_def]
  simp only [if_pos hc]

/-- No references are read in a doubled text. -/
theorem read_doubled (t : Text) : read (doubled t) = t.map .char := by
  induction t with
  | nil => rw [doubled, List.flatMap_nil, read, List.map_nil]
  | cons c t ih =>
    rw [doubled, List.flatMap_cons, List.map_cons, ← ih]
    by_cases hc : c = '$'
    · subst hc
      exact read_dollars _
    · rw [if_neg hc]
      exact read_char hc _

/-- A doubled text stands for the text in every match. -/
theorem expand_doubled (t : Text) (r : Regex) (haystack : Text) (m : Match) :
    expand (doubled t) r haystack m = t := by
  rw [expand, read_doubled, List.flatMap_map]
  exact List.flatMap_singleton' t

theorem backslash_notMem_doubled {t : Text} (ht : '\\' ∉ t) : '\\' ∉ doubled t := by
  intro hmem
  obtain ⟨c, hc, hbackslash⟩ := List.mem_flatMap.mp hmem
  split at hbackslash
  · simp at hbackslash
  · rw [List.mem_singleton] at hbackslash
    exact ht (hbackslash ▸ hc)

end Template

open CompiledLiteral Engine

/-- The literal that substitutes a text for what a pattern matches. The pattern is given as it
stands in the literal. -/
def verbatimSubstitution (d : Char) (pattern text flags : Text) : Text :=
  's' :: d :: (pattern ++ d :: (backslashed (· = d) (Template.doubled text) ++ d :: flags))

section Verbatim

variable {e : Engine} {d : Char} {pattern text flags : Text} {c : CompiledLiteral}

/-- What the engine sees of such a literal: a substitution whose template is the doubled text. -/
theorem replacement_of_compile {policy : Policy} (hd : d ≠ '\\')
    (hpattern : Token.Closable d pattern) (htext : '\\' ∉ text) (hflags : d ∉ flags)
    (h : compileLiteral (verbatimSubstitution d pattern text flags) policy = .ok c)
    (hextended : c.flags.extended = false) :
    c.mode = .substitution ∧ c.replacement = Template.doubled text := by
  have hspecial : ∀ x ∈ Template.doubled text, x = d ∨ x = '\\' → decide (x = d) := by
    intro x hx hcase
    rcases hcase with hcase | rfl
    · exact decide_eq_true hcase
    · exact absurd hx (Template.backslash_notMem_doubled htext)
  have hnone : ∀ x ∈ Template.doubled text, (decide (x = d) && decide (x ≠ d)) = false := by
    intro x _
    rw [decide_not, Bool.and_not_self]
  have hopening : Opening.read (['s'] ++ [d]) = ⟨.substitution, ['s'], [d]⟩ := rfl
  obtain ⟨hsplit, -, hreplacement, -⟩ := splitLiteral_of_closable hopening hpattern
    (Token.closable_backslashed hd hspecial) (Token.delimiter_notMem_read hflags)
  rw [Token.read_backslashed hd hspecial, flatMap_replacementText_quote,
    backslashed_of_not_special hnone] at hreplacement
  obtain ⟨s, found, hsplit', hc, -⟩ := compileLiteral_eq_ok_iff.mp h
  have hs := congrArg Prod.fst (hsplit.symm.trans hsplit')
  rw [Option.some.injEq] at hs
  subst hs
  generalize c.regex = regex at hc
  subst hc
  refine ⟨rfl, ?_⟩
  rw [assemble_replacement, if_neg (by simp [hextended]), id]
  exact hreplacement

/-- A quoted text is inserted as it is. The matches that the literal takes, all of them or the first
one, stand in order in the text, which is the gaps between them filled with what they cover;
substituting fills every gap with the quoted text instead. -/
theorem substituteToText_verbatim (he : e.Coherent) (hd : d ≠ '\\')
    (hpattern : Token.Closable d pattern) (htext : '\\' ∉ text) (hflags : d ∉ flags)
    (h : (e.compile (verbatimSubstitution d pattern text flags)).1 = .ok c)
    (hextended : c.flags.extended = false) (haystack : Text) :
    let ms :=
      if c.flags.global then c.regex.findAll haystack else (c.regex.findFirst haystack).toList
    let spans := ms.map Match.span
    Span.InOrder 0 haystack.length spans ∧
      fill (gaps haystack 0 spans) (spans.map (slice haystack)) = haystack ∧
      (e.substituteToText haystack (verbatimSubstitution d pattern text flags)).1 =
        .ok (fill (gaps haystack 0 spans) (spans.map fun _ => text)) := by
  intro ms spans
  have horder : Span.InOrder 0 haystack.length spans := c.inOrder_taken haystack
  have hcompile := he.compile_eq_ok_iff.mp h
  obtain ⟨hmode, hreplacement⟩ :=
    replacement_of_compile hd hpattern htext hflags hcompile hextended
  have hexpand : Template.expand c.replacement c.regex haystack = fun _ => text := by
    rw [hreplacement]
    exact funext (Template.expand_doubled text c.regex haystack)
  have hreplaced : (c.runSubstitute haystack).substituted =
      some (fill (gaps haystack 0 spans) (spans.map fun _ => text)) := by
    rw [substituted_runSubstitute, replaceAll_eq_fill (c.inOrder_taken haystack), hexpand,
      List.map_map]
    rfl
  refine ⟨horder, fill_slices horder, ?_⟩
  rw [substituteToText, he.withCompiled_of_ok hcompile, ensureSubstitution, hmode, hreplaced]
  rfl

end Verbatim

/-- The delimiter is the dollar sign, the pattern has a group, and the text reads like a reference
to it. All matches are replaced. -/
theorem substituteToText_verbatim_dollar :
    verbatimSubstitution '$' "(a)".toList "$1".toList ['g'] = "s$(a)$\\$\\$1$g".toList ∧
      (({} : Engine).substituteToText "xaya".toList
        (verbatimSubstitution '$' "(a)".toList "$1".toList ['g'])).1 = .ok "x$1y$1".toList := by
  have hwritten : verbatimSubstitution '$' "(a)".toList "$1".toList ['g'] =
      "s$(a)$\\$\\$1$g".toList := by decide +kernel
  have hspans : (compileLiteral "s$(a)$\\$\\$1$g".toList .strict).toOption.any fun c =>
      !c.flags.extended && (c.taken "xaya".toList).map Match.span = [⟨1, 2⟩, ⟨3, 4⟩] := by
    simp only [taken, Regex.findAll_eq_upTo]
    cbv
  refine ⟨hwritten, ?_⟩
  obtain ⟨c, hok, hc⟩ := exists_of_any_compileLiteral hspans
  rw [Bool.and_eq_true, Bool.not_eq_true', decide_eq_true_eq] at hc
  obtain ⟨hextended, hspans⟩ := hc
  obtain ⟨-, -, hanswer⟩ := substituteToText_verbatim coherent_new (by decide)
    ⟨by decide +kernel, by decide +kernel⟩ (by decide) (by decide)
    (coherent_new.compile_eq_ok_iff.mpr (hwritten ▸ hok)) hextended "xaya".toList
  refine hanswer.trans (congrArg Except.ok ?_)
  show fill (gaps _ 0 ((c.taken "xaya".toList).map Match.span))
    (((c.taken "xaya".toList).map Match.span).map _) = _
  rw [hspans]
  decide +kernel

end RegexLiteral
