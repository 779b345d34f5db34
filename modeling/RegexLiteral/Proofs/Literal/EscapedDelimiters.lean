import Mathlib
import RegexLiteral.Proofs.Literal.Compiling
import RegexLiteral.Proofs.Literal.Tidying
import RegexLiteral.Proofs.Literal.Writing

/-!
# Escaped delimiters in free spacing

An escaped delimiter stands for itself, so free spacing should keep it and go on behind it as if it
were any other character. In the pattern it does: a delimiter that means something in free spacing
keeps its backslash there. In the replacement the backslash is dropped before layout is taken out,
so a delimiter that is a number sign or white space is taken for layout, and one that is an opening
bracket starts a class. Main statement: what becomes of an escaped delimiter in either segment
(`escaped_delimiter_in_free_spacing`); `escaped_delimiter_starts_comment` is a literal whose
replacement loses all that follows one.
-/
namespace RegexLiteral

open Reading

namespace Layout

/-- Whether a character means something in free spacing. -/
def isSign (c : Char) : Bool := c ∈ ['#', '[', ']', '^', '\\'] || isSpace c

variable {p : Place} {c d : Char}

theorem ne_of_not_isSign {x : Char} (hc : isSign c = false) (hx : isSign x) : c ≠ x := by
  rintro rfl
  rw [hc] at hx
  cases hx

/-- Only a backslash escapes what follows. -/
theorem Place.isEscaped_next_of_ne (hc : c ≠ '\\') (p : Place) : (p.next c).isEscaped = false := by
  cases p with
  | outside =>
    simp only [next, if_neg hc]
    repeat' split
    all_goals rfl
  | comment =>
    simp only [next]
    split <;> rfl
  | classHead =>
    simp only [next]
    repeat' split
    all_goals simp [hc]
  | classCaret =>
    simp only [next]
    split <;> simp [hc]
  | inClass n => simp [next, hc]
  | escaped => rfl
  | escapedInClass n => rfl

/-- Behind a backslash and a character nothing is escaped. -/
theorem Place.isEscaped_next_next (hp : p.isEscaped = false) (c : Char) :
    ((p.next '\\').next c).isEscaped = false := by
  cases p with
  | comment =>
    have hcomment : Place.comment.next '\\' = .comment := by decide
    rw [hcomment]
    simp only [next]
    split <;> rfl
  | escaped | escapedInClass n => cases hp
  | _ => rfl

/-- A character that means nothing in free spacing leads on as it does behind a backslash. -/
theorem Place.next_next_eq (hp : p.isEscaped = false) (hd : isSign d = false) :
    (p.next '\\').next d = p.next d := by
  have hb := ne_of_not_isSign hd (x := '\\') rfl
  have hnumber := ne_of_not_isSign hd (x := '#') rfl
  have hopening := ne_of_not_isSign hd (x := '[') rfl
  have hclosing := ne_of_not_isSign hd (x := ']') rfl
  have hcaret := ne_of_not_isSign hd (x := '^') rfl
  have hline := ne_of_not_isSign hd (x := '\n') rfl
  cases p with
  | escaped | escapedInClass n => cases hp
  | _ => simp [next, afterClassChar, hb, hnumber, hopening, hclosing, hcaret, hline]

theorem isEscaped_placeAfter_text {t : Token} (ht : Token.Inner d t) (hp : p.isEscaped = false) :
    (placeAfter p (t.text d)).isEscaped = false := by
  cases t with
  | delimiter => exact ht.elim
  | loneBackslash => exact ht.elim
  | escape c => exact Place.isEscaped_next_next hp c
  | plain c => exact Place.isEscaped_next_of_ne ht.2 p

/-- A row whose escaped delimiters have lost their backslashes leads on as it does with them, if the
delimiter means nothing in free spacing. -/
theorem placeAfter_flatMap {f : Token → Text} {ts : List Token} (hts : ∀ t ∈ ts, Token.Inner d t)
    (hf : ∀ t, f t = t.text d ∨ t = .escape d ∧ f t = [d] ∧ isSign d = false)
    (hp : p.isEscaped = false) :
    placeAfter p (ts.flatMap f) = placeAfter p (Token.textAll d ts) := by
  induction ts generalizing p with
  | nil => rfl
  | cons t ts ih =>
    have ht := hts t (List.mem_cons_self ..)
    have hstep : placeAfter p (f t) = placeAfter p (t.text d) := by
      rcases hf t with hft | ⟨rfl, hft, hsign⟩
      · rw [hft]
      · rw [hft]
        exact (Place.next_next_eq hp hsign).symm
    rw [List.flatMap_cons, Token.textAll_cons, placeAfter_append, placeAfter_append, hstep]
    exact ih (fun u hu => hts u (List.mem_cons_of_mem _ hu)) (isEscaped_placeAfter_text ht hp)

/-- A backslash outside classes and comments is kept, and so is what it escapes. -/
theorem strip_escape (c : Char) (rest : Text) :
    strip ('\\' :: c :: rest) = '\\' :: c :: strip rest := by
  have hbackslash : Place.outside.keeps '\\' = true := by decide
  have hnext : Place.outside.next '\\' = .escaped := by decide
  have hkeeps : Place.escaped.keeps c = true := rfl
  simp only [strip, stripFrom, hbackslash, hnext, hkeeps, ↓reduceIte]
  rfl

/-- What becomes of a character outside classes and comments, and of what follows it. -/
theorem strip_cons (hd : d ≠ '\\') (rest : Text) :
    strip (d :: rest) = (if d = '#' ∨ isSpace d then [] else [d]) ++
      stripFrom (if d = '#' then .comment else if d = '[' then .classHead else .outside) rest := by
  by_cases hnumber : d = '#'
  · subst hnumber
    rfl
  by_cases hopening : d = '['
  · subst hopening
    rfl
  have hnext : Place.outside.next d = .outside := by
    simp only [Place.next, if_neg hd, if_neg hopening, if_neg hnumber]
  cases hspace : isSpace d <;>
    simp [strip, stripFrom, Place.keeps, hnumber, hopening, hspace, hnext]

theorem strip_cons_of_not_isSign (hd : isSign d = false) (rest : Text) :
    strip (d :: rest) = d :: strip rest := by
  have hnumber := ne_of_not_isSign hd (x := '#') rfl
  have hopening := ne_of_not_isSign hd (x := '[') rfl
  have hspace : isSpace d = false := by
    rw [isSign, Bool.or_eq_false_iff] at hd
    exact hd.2
  rw [strip_cons (ne_of_not_isSign hd rfl)]
  simp [hnumber, hopening, hspace, strip]

/-- A row with an escape outside classes and comments: what stands on either side of it is stripped
as it is alone, if the tokens are written as they are read, escaped delimiters apart that mean
nothing in free spacing. -/
theorem strip_row {f : Token → Text} {us vs : List Token} (hinner : ∀ t ∈ us, Token.Inner d t)
    (hf : ∀ t, f t = t.text d ∨ t = .escape d ∧ f t = [d] ∧ isSign d = false)
    (hus : placeAfter .outside (Token.textAll d us) = .outside) :
    strip ((us ++ .escape d :: vs).flatMap f) =
      strip (us.flatMap f) ++ f (.escape d) ++ strip (vs.flatMap f) := by
  have hplace := placeAfter_flatMap (p := .outside) hinner hf rfl
  rw [hus] at hplace
  rw [List.flatMap_append, strip_append_of_outside hplace, List.flatMap_cons, List.append_assoc]
  congr 1
  rcases hf (.escape d) with htext | ⟨-, htext, hsign⟩
  · rw [htext]
    exact strip_escape d _
  · rw [htext]
    exact strip_cons_of_not_isSign hsign _

end Layout

open Layout

section Rows

variable {d : Char} {body : Text} {mode : Mode} {us vs : List Token}

/-- A delimiter that the engine does not take with a backslash means nothing in free spacing. -/
theorem not_isSign_of_not_isEscapable (hd : Pattern.isEscapable d = false) : isSign d = false := by
  have hsigns : (['#', '[', ']', '^', '\\'] ++ ['\t', '\n', '\x0b', '\x0c', '\r', ' ']).all
      Pattern.isEscapable := by decide
  by_contra hsign
  have hmem : d ∈ ['#', '[', ']', '^', '\\'] ++ ['\t', '\n', '\x0b', '\x0c', '\r', ' '] := by
    rw [Bool.not_eq_false, isSign, Bool.or_eq_true, isSpace] at hsign
    rw [List.mem_append]
    exact hsign.imp of_decide_eq_true of_decide_eq_true
  rw [List.all_eq_true.mp hsigns d hmem] at hd
  cases hd

theorem exists_replacement_append (mode : Mode) (tokens : List Token) :
    ∃ before after, tokens = before ++ (rows mode tokens).replacement ++ after := by
  unfold rows
  cases hcut : Token.cut tokens with
  | mk row rest =>
    cases rest with
    | none => exact ⟨tokens, [], by simp⟩
    | some rest =>
      cases mode.hasReplacement with
      | false => exact ⟨tokens, [], by simp⟩
      | true =>
        obtain ⟨tail, htail⟩ := exists_cut_append rest
        refine ⟨row ++ [.delimiter], tail, ?_⟩
        simp only [↓reduceIte, List.append_assoc, ← htail]
        simpa using eq_of_cut hcut

theorem inner_of_pattern
    (h : (rows mode (Token.read d body)).pattern = us ++ .escape d :: vs) :
    ∀ t ∈ us, Token.Inner d t := by
  intro t ht
  obtain ⟨tail, htail⟩ := exists_cut_append (Token.read d body)
  have hmem : t ∈ (rows mode (Token.read d body)).pattern := by
    rw [h]
    exact List.mem_append_left _ ht
  rw [← rows_pattern mode, h, List.append_assoc] at htail
  refine Token.inner_of_read htail ht ?_
  rintro rfl
  exact delimiter_notMem_pattern mode _ hmem

theorem inner_of_replacement
    (h : (rows mode (Token.read d body)).replacement = us ++ .escape d :: vs) :
    ∀ t ∈ us, Token.Inner d t := by
  intro t ht
  obtain ⟨before, after, htokens⟩ := exists_replacement_append mode (Token.read d body)
  have hmem : t ∈ (rows mode (Token.read d body)).replacement := by
    rw [h]
    exact List.mem_append_left _ ht
  have hsplit : Token.read d body = (before ++ us) ++ .escape d :: (vs ++ after) := by
    rw [htokens, h]
    simp
  refine Token.inner_of_read hsplit (List.mem_append_right _ ht) ?_
  rintro rfl
  exact delimiter_notMem_replacement mode _ hmem

/-- In the pattern an escaped delimiter is kept, and what stands on either side of it is stripped as
it is alone. -/
theorem strip_pattern (h : (rows mode (Token.read d body)).pattern = us ++ .escape d :: vs)
    (hus : placeAfter .outside (Token.textAll d us) = .outside) :
    strip ((rows mode (Token.read d body)).pattern.flatMap (patternText d)) =
      strip (us.flatMap (patternText d)) ++
        (if Pattern.isEscapable d then ['\\', d] else [d]) ++
        strip (vs.flatMap (patternText d)) := by
  have hf (t : Token) : patternText d t = t.text d ∨
      t = .escape d ∧ patternText d t = [d] ∧ isSign d = false := by
    rcases patternText_cases d t with ht | ⟨rfl, ht⟩
    · exact .inl ht
    · by_cases he : Pattern.isEscapable d
      · exact .inl (by simp [patternText, he, Token.text])
      · exact .inr ⟨rfl, ht, not_isSign_of_not_isEscapable (by simpa using he)⟩
  have htext : patternText d (.escape d) = if Pattern.isEscapable d then ['\\', d] else [d] := by
    cases he : Pattern.isEscapable d <;> simp [patternText, he]
  rw [h, strip_row (inner_of_pattern h) hf hus, htext]

/-- In the replacement an escaped delimiter is treated as a bare one. -/
theorem strip_replacement (hd : d ≠ '\\')
    (h : (rows mode (Token.read d body)).replacement = us ++ .escape d :: vs)
    (hus : placeAfter .outside (us.flatMap (replacementText d)) = .outside) :
    strip ((rows mode (Token.read d body)).replacement.flatMap (replacementText d)) =
      strip (us.flatMap (replacementText d)) ++ (if d = '#' ∨ isSpace d then [] else [d]) ++
        stripFrom (if d = '#' then .comment else if d = '[' then .classHead else .outside)
          (vs.flatMap (replacementText d)) := by
  have htext : replacementText d (.escape d) = [d] := by simp [replacementText]
  rw [h, List.flatMap_append, strip_append_of_outside hus, List.flatMap_cons, htext,
    List.singleton_append, strip_cons hd, List.append_assoc]

/-- In the replacement an escaped delimiter is kept if it means nothing in free spacing. -/
theorem strip_replacement_of_not_isSign (hd : isSign d = false)
    (h : (rows mode (Token.read d body)).replacement = us ++ .escape d :: vs)
    (hus : placeAfter .outside (Token.textAll d us) = .outside) :
    strip ((rows mode (Token.read d body)).replacement.flatMap (replacementText d)) =
      strip (us.flatMap (replacementText d)) ++ [d] ++ strip (vs.flatMap (replacementText d)) := by
  have hf (t : Token) : replacementText d t = t.text d ∨
      t = .escape d ∧ replacementText d t = [d] ∧ isSign d = false := by
    rcases replacementText_cases d t with ht | ⟨rfl, ht⟩
    · exact .inl ht
    · exact .inr ⟨rfl, ht, hd⟩
  have htext : replacementText d (.escape d) = [d] := by simp [replacementText]
  rw [h, strip_row (inner_of_replacement h) hf hus, htext]

end Rows

/-- What becomes of an escaped delimiter under free spacing, where it does not stand in a class or a
comment. In the pattern it is kept, and so it is in the replacement if it means nothing in free
spacing; the texts before and behind it are then stripped as they are alone. Any delimiter in the
replacement is treated as if it had not been escaped: white space is dropped, a number sign is
dropped with the comment it starts, and an opening bracket makes what follows it a class. -/
theorem escaped_delimiter_in_free_spacing {source : Text} {policy : Policy} {c : CompiledLiteral}
    (h : compileLiteral source policy = .ok c) (hextended : c.flags.extended) {d : Char}
    {body : Text} (hrest : (Opening.read source).rest = d :: body) (hd : d ≠ '\\')
    (us vs : List Token) :
    ((rows c.mode (Token.read d body)).pattern = us ++ .escape d :: vs →
      placeAfter .outside (Token.textAll d us) = .outside →
      c.pattern = strip (us.flatMap (patternText d)) ++
        (if Pattern.isEscapable d then ['\\', d] else [d]) ++
        strip (vs.flatMap (patternText d))) ∧
    ((rows c.mode (Token.read d body)).replacement = us ++ .escape d :: vs →
      placeAfter .outside (Token.textAll d us) = .outside → isSign d = false →
      c.replacement = strip (us.flatMap (replacementText d)) ++ [d] ++
        strip (vs.flatMap (replacementText d))) ∧
    ((rows c.mode (Token.read d body)).replacement = us ++ .escape d :: vs →
      placeAfter .outside (us.flatMap (replacementText d)) = .outside →
      c.replacement = strip (us.flatMap (replacementText d)) ++
        (if d = '#' ∨ isSpace d then [] else [d]) ++
        stripFrom (if d = '#' then .comment else if d = '[' then .classHead else .outside)
          (vs.flatMap (replacementText d))) := by
  obtain ⟨d', body', hrest', hc, -⟩ := exists_segments_of_compileLiteral h
  rw [hrest, List.cons.injEq] at hrest'
  obtain ⟨rfl, rfl⟩ := hrest'
  generalize c.regex = regex at hc
  subst hc
  refine ⟨fun hrow hus => ?_, fun hrow hus hsign => ?_, fun hrow hus => ?_⟩
  · rw [CompiledLiteral.assemble_pattern, if_pos hextended]
    exact strip_pattern hrow hus
  · rw [CompiledLiteral.assemble_replacement, if_pos hextended]
    exact strip_replacement_of_not_isSign hsign hrow hus
  · rw [CompiledLiteral.assemble_replacement, if_pos hextended]
    exact strip_replacement hd hrow hus

/-- A comma means nothing in free spacing, so it is kept in both segments. -/
theorem escaped_delimiter_in_free_spacing_comma :
    ∃ c, compileLiteral "s,a \\, b,c \\, d,x".toList .strict = .ok c ∧
      c.pattern = "a\\,b".toList ∧ c.replacement = "c,d".toList := by
  have hok : (compileLiteral "s,a \\, b,c \\, d,x".toList .strict).toOption.any fun c =>
      c.flags.extended && c.mode = .substitution := by cbv
  obtain ⟨c, h, hc⟩ := exists_of_any_compileLiteral hok
  rw [Bool.and_eq_true, decide_eq_true_eq] at hc
  obtain ⟨hextended, hmode⟩ := hc
  have hread : (Opening.read "s,a \\, b,c \\, d,x".toList).rest =
    ',' :: "a \\, b,c \\, d,x".toList := rfl
  obtain ⟨hpattern, -, -⟩ := escaped_delimiter_in_free_spacing h hextended hread (by decide)
    [.plain 'a', .plain ' '] [.plain ' ', .plain 'b']
  obtain ⟨-, hreplacement, -⟩ := escaped_delimiter_in_free_spacing h hextended hread (by decide)
    [.plain 'c', .plain ' '] [.plain ' ', .plain 'd']
  rw [hmode] at hpattern hreplacement
  refine ⟨c, h, ?_, ?_⟩
  · rw [hpattern (by decide +kernel) (by decide +kernel)]
    decide +kernel
  · rw [hreplacement (by decide +kernel) (by decide +kernel) (by decide +kernel)]
    decide +kernel

/-- The delimiter is a number sign. Escaped in the replacement it should be kept between the two
letters, but it starts a comment that takes the second with it. -/
theorem escaped_delimiter_starts_comment :
    ∃ c, compileLiteral "s#a#b\\#c#x".toList .strict = .ok c ∧ c.flags.extended ∧
      (rows c.mode (Token.read '#' "a#b\\#c#x".toList)).replacement =
        [.plain 'b'] ++ .escape '#' :: [.plain 'c'] ∧
      placeAfter .outside (Token.textAll '#' [.plain 'b']) = .outside ∧
      strip ['b'] ++ ['#'] ++ strip ['c'] = ['b', '#', 'c'] ∧ c.replacement = ['b'] := by
  have hlost : (compileLiteral "s#a#b\\#c#x".toList .strict).toOption.any fun c =>
      c.flags.extended && c.mode = .substitution && c.replacement = ['b'] := by cbv
  obtain ⟨c, h, hc⟩ := exists_of_any_compileLiteral hlost
  simp only [Bool.and_eq_true, decide_eq_true_eq] at hc
  obtain ⟨⟨hextended, hmode⟩, hreplacement⟩ := hc
  refine ⟨c, h, hextended, ?_, by decide, by decide +kernel, hreplacement⟩
  rw [hmode]
  decide +kernel

end RegexLiteral
