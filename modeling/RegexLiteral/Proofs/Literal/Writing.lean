import Mathlib.Data.List.Basic
import RegexLiteral.Proofs.Literal.Reading

/-!
# Writing literals

A literal is written from its parts by putting a backslash before each delimiter that stands in a
segment outside a backslash pair. Main statement: writing the parts of a literal that is in order
gives the literal back, and splitting what was written gives the parts back
(`write_segments_and_split_write`). Both directions rest on one fact about rows of tokens, that
guarding a delimiter turns it into an escape and leaves all pairs as they are.
-/
namespace RegexLiteral

open Reading

namespace Token

/-- A text as it stands in a segment: a delimiter outside the backslash pairs gets a backslash. -/
def guarded (d : Char) : Text → Text
  | '\\' :: c :: rest => '\\' :: c :: guarded d rest
  | c :: rest => if c = d then '\\' :: c :: guarded d rest else c :: guarded d rest
  | [] => []

/-- A token behind the guarding of delimiters. -/
def guard (d : Char) : Token → Token
  | delimiter => escape d
  | t => t

theorem guarded_delimiter {d : Char} (hd : d ≠ '\\') (t : Text) :
    guarded d (d :: t) = '\\' :: d :: guarded d t := by
  rw [guarded.eq_def]
  split
  · simp_all
  · simp_all
  · simp_all

theorem guarded_plain {d c : Char} (hd : c ≠ d) (hb : c ≠ '\\') (t : Text) :
    guarded d (c :: t) = c :: guarded d t := by
  rw [guarded.eq_def]
  split <;> simp_all

/-- Guarding a text guards its tokens. -/
theorem read_guarded {d : Char} (hd : d ≠ '\\') (t : Text) :
    read d (guarded d t) = (read d t).map (guard d) := by
  fun_induction guarded d t with
  | case1 c rest ih => rw [read_escape hd, read_escape hd, ih]; rfl
  | case2 rest hpair ih => rw [read_escape hd, read_delimiter, ih]; rfl
  | case3 c rest hpair hc ih =>
    by_cases hb : c = '\\'
    · subst hb
      cases rest with
      | nil => rw [guarded, read_lone hd]; rfl
      | cons e more => exact absurd rfl (hpair e more rfl)
    · rw [read_plain hc hb, read_plain hc hb, ih]; rfl
  | case4 => rfl

/-- What can be said of a token that is no delimiter and has something behind it. -/
def Inner (d : Char) : Token → Prop
  | plain c => c ≠ d ∧ c ≠ '\\'
  | escape _ => d ≠ '\\'
  | _ => False

theorem eq_or_mem_of_cons {t u v : Token} {ts us vs : List Token} (h : u :: ts = us ++ v :: vs)
    (ht : t ∈ us) : t = u ∨ ∃ us', ts = us' ++ v :: vs ∧ t ∈ us' := by
  cases us with
  | nil => cases ht
  | cons w us =>
    obtain ⟨rfl, hrest⟩ := List.cons.inj h
    rcases List.mem_cons.mp ht with hu | ht
    · exact .inl hu
    · exact .inr ⟨us, hrest, ht⟩

theorem inner_of_read {d : Char} {body : Text} {us vs : List Token} {v : Token}
    (h : read d body = us ++ v :: vs) {t : Token} (ht : t ∈ us) (hne : t ≠ delimiter) :
    Inner d t := by
  fun_induction read d body generalizing us with
  | case1 => simp at h
  | case2 rest ih =>
    rcases eq_or_mem_of_cons h ht with rfl | ⟨us', hrest, ht⟩
    · exact absurd rfl hne
    · exact ih hrest ht
  | case3 hd =>
    -- A lone backslash stands last, so nothing is before it.
    rcases eq_or_mem_of_cons h ht with rfl | ⟨us', hrest, -⟩
    · cases us with
      | nil => cases ht
      | cons u us => simp at h
    · simp at hrest
  | case4 e rest hd ih =>
    rcases eq_or_mem_of_cons h ht with rfl | ⟨us', hrest, ht⟩
    · exact Ne.symm hd
    · exact ih hrest ht
  | case5 c rest hd hb ih =>
    rcases eq_or_mem_of_cons h ht with rfl | ⟨us', hrest, ht⟩
    · exact ⟨hd, hb⟩
    · exact ih hrest ht

/-- A row whose escaped delimiters have lost their backslashes, all or none, is guarded back into
what it was: a backslash that was dropped never stood beside one that was kept. -/
theorem guarded_flatMap {d : Char} {f : Token → Text} {ts : List Token}
    (hts : ∀ t ∈ ts, Inner d t) (hf : ∀ t ∈ ts, f t = t.text d ∨ t = escape d ∧ f t = [d]) :
    guarded d (ts.flatMap f) = textAll d ts := by
  induction ts with
  | nil => rfl
  | cons t ts ih =>
    have ht := hts t (List.mem_cons_self ..)
    have hrest := ih (fun u hu => hts u (List.mem_cons_of_mem _ hu))
      (fun u hu => hf u (List.mem_cons_of_mem _ hu))
    rw [List.flatMap_cons, textAll_cons, ← hrest]
    rcases hf t (List.mem_cons_self ..) with hft | ⟨rfl, hft⟩
    · rw [hft]
      cases t with
      | delimiter => exact ht.elim
      | loneBackslash => exact ht.elim
      | escape c => rfl
      | plain c => exact guarded_plain ht.1 ht.2 _
    · rw [hft]
      exact guarded_delimiter ht _

end Token

theorem patternText_cases (d : Char) (t : Token) :
    patternText d t = t.text d ∨ t = .escape d ∧ patternText d t = [d] := by
  cases t with
  | escape c =>
    by_cases hc : c = d && !Pattern.isEscapable c
    · simp only [Bool.and_eq_true, decide_eq_true_eq, Bool.not_eq_true'] at hc
      obtain ⟨rfl, he⟩ := hc
      exact .inr ⟨rfl, by simp [patternText, he]⟩
    · exact .inl (by simp [patternText, hc, Token.text])
  | _ => exact .inl rfl

theorem replacementText_cases (d : Char) (t : Token) :
    replacementText d t = t.text d ∨ t = .escape d ∧ replacementText d t = [d] := by
  cases t with
  | escape c =>
    by_cases hc : c = d
    · exact .inr ⟨hc ▸ rfl, by simp [replacementText, hc]⟩
    · exact .inl (by simp [replacementText, hc, Token.text])
  | _ => exact .inl rfl

/-- Flags without delimiters stand as they are written. -/
theorem flatMap_flagsText {d : Char} {ts : List Token} (h : .delimiter ∉ ts) :
    ts.flatMap (flagsText d) = Token.textAll d ts := by
  refine List.flatMap_congr fun t ht => ?_
  cases t with
  | delimiter => exact absurd ht h
  | _ => rfl

theorem strayDelimiters_eq_nil_iff {d : Char} {start : Nat} {ts : List Token} :
    strayDelimiters d start ts = [] ↔ .delimiter ∉ ts := by
  induction ts generalizing start with
  | nil => simp [strayDelimiters]
  | cons t ts ih => cases t <;> simp [strayDelimiters, ih]

/-- A literal with the given parts. -/
def write (letters : Text) (mode : Mode) (d : Char) (pattern replacement flags : Text) : Text :=
  letters ++ d :: (Token.guarded d pattern ++ d ::
    if mode.hasReplacement then Token.guarded d replacement ++ d :: flags else flags)

/-- A literal reaches its flags if the scan of it ends there. -/
def ReachesFlags (source : Text) : Prop :=
  let opening := Opening.read source
  ∃ d body, opening.rest = d :: body ∧
    (Scan.run opening.mode d (.new (byteLength source))
      (byteLength opening.letters + d.utf8Size) body).segment = .flags

/-- A body whose scan ends in its flags has them as its last row. -/
theorem exists_rows_flags {source : Text} (h : ReachesFlags source) :
    ∃ d body tail, (Opening.read source).rest = d :: body ∧
      (rows (Opening.read source).mode (Token.read d body)).flags = some tail := by
  obtain ⟨d, body, hrest, hsegment⟩ := h
  rw [Scan.run_new _ d (byteLength_of_rest hrest)] at hsegment
  have hsome : (rows (Opening.read source).mode (Token.read d body)).flags.isSome := by
    by_contra hnone
    simp only [lastSegment, if_neg hnone] at hsegment
    split at hsegment <;> cases hsegment
  obtain ⟨tail, htail⟩ := Option.isSome_iff_exists.mp hsome
  exact ⟨d, body, tail, hrest, htail⟩

theorem cut_append {ts : List Token} (h : .delimiter ∉ ts) (rest : List Token) :
    Token.cut (ts ++ .delimiter :: rest) = (ts, some rest) := by
  induction ts with
  | nil => rfl
  | cons t ts ih =>
    have ht : t ≠ .delimiter := fun he => h (he ▸ List.mem_cons_self ..)
    rw [List.cons_append, cut_cons ht, ih (List.not_mem_of_not_mem_cons h)]

theorem delimiter_notMem_pattern (mode : Mode) (ts : List Token) :
    .delimiter ∉ (rows mode ts).pattern := rows_pattern mode ts ▸ delimiter_notMem_cut ts

theorem delimiter_notMem_replacement (mode : Mode) (ts : List Token) :
    .delimiter ∉ (rows mode ts).replacement := by
  unfold rows
  split
  · exact List.not_mem_nil
  · split
    · exact delimiter_notMem_cut _
    · exact List.not_mem_nil

/-- The segments of a body that reaches its flags and has no delimiter there are written as the
body. -/
theorem write_segments {mode : Mode} {letters body : Text} {d : Char} {tail : List Token}
    (htail : (rows mode (Token.read d body)).flags = some tail) (hstray : .delimiter ∉ tail) :
    let s := segments mode letters d body
    write letters mode d s.pattern s.replacement s.flags = letters ++ d :: body := by
  have hrows := eq_of_rows htail
  have hpattern : Token.guarded d ((rows mode (Token.read d body)).pattern.flatMap
      (patternText d)) = Token.textAll d (rows mode (Token.read d body)).pattern := by
    refine Token.guarded_flatMap (fun t ht => Token.inner_of_read hrows ht ?_)
      fun t _ => patternText_cases d t
    exact fun he => delimiter_notMem_pattern mode _ (he ▸ ht)
  have hreplacement (hm : mode.hasReplacement) :
      Token.guarded d ((rows mode (Token.read d body)).replacement.flatMap (replacementText d)) =
        Token.textAll d (rows mode (Token.read d body)).replacement := by
    rw [if_pos hm, ← List.cons_append, ← List.append_assoc] at hrows
    refine Token.guarded_flatMap (fun t ht => Token.inner_of_read hrows ?_ ?_)
      fun t _ => replacementText_cases d t
    · exact List.mem_append_right _ (List.mem_cons_of_mem _ ht)
    · exact fun he => delimiter_notMem_replacement mode _ (he ▸ ht)
  have hbody := congrArg (Token.textAll d) hrows
  rw [Token.text_read] at hbody
  simp only [write, segments, htail, Option.getD_some, flatMap_flagsText hstray, hpattern]
  congr 2
  refine Eq.trans ?_ hbody.symm
  cases hm : mode.hasReplacement with
  | false => simp [Token.text]
  | true => simp [Token.text, hreplacement hm]

/-- Writing the parts of a literal that is in order gives the literal back. -/
theorem write_of_splitLiteral {source : Text} {s : Segments}
    (hs : splitLiteral source = (some s, [])) (hflags : ReachesFlags source) :
    write (Opening.read source).letters s.mode s.delimiter s.pattern s.replacement s.flags =
      source := by
  obtain ⟨d, body, tail, hrest, htail⟩ := exists_rows_flags hflags
  rw [splitLiteral_of_rest hrest, Prod.mk.injEq, Option.some.injEq] at hs
  obtain ⟨rfl, hfound⟩ := hs
  have hstray : .delimiter ∉ tail := by
    simp only [diagnostics, htail] at hfound
    exact strayDelimiters_eq_nil_iff.mp hfound
  have hsource := letters_append_rest source
  rw [hrest] at hsource
  exact (write_segments htail hstray).trans hsource

/-- The texts that the segments of a literal can be under a delimiter. -/
structure Writable (d : Char) (pattern replacement flags : Text) : Prop where
  pattern_end : .loneBackslash ∉ Token.read d pattern
  replacement_end : .loneBackslash ∉ Token.read d replacement
  /-- A delimiter that the engine takes with a backslash has one in the pattern, and any other has
  none. -/
  pattern_delimiter :
    if Pattern.isEscapable d then .delimiter ∉ Token.read d pattern
    else .escape d ∉ Token.read d pattern
  replacement_delimiter : .escape d ∉ Token.read d replacement
  flags_delimiter : .delimiter ∉ Token.read d flags

/-- What follows the delimiter has no say in how a literal opens. -/
theorem Opening.read_of_rest {source body : Text} {d : Char}
    (h : (Opening.read source).rest = d :: body) (t : Text) :
    Opening.read ((Opening.read source).letters ++ d :: t) =
      ⟨(Opening.read source).mode, (Opening.read source).letters, d :: t⟩ := by
  unfold Opening.read at h ⊢
  split at h
  · rfl
  · rfl
  · rfl
  · rename_i rest hr
    cases h
    have hd : d ≠ 'r' := fun he => hr body (he ▸ rfl)
    simp [hd]
  · rename_i hm hs htr ht
    subst h
    have hdm : d ≠ 'm' := fun he => hm body (he ▸ rfl)
    have hds : d ≠ 's' := fun he => hs body (he ▸ rfl)
    have hdt : d ≠ 't' := fun he => ht body (he ▸ rfl)
    simp [hdm, hds, hdt]

/-- A text behind a literal with a delimiter goes to its body. -/
theorem Opening.read_append {s : Text} (h : (Opening.read s).rest ≠ []) (t : Text) :
    Opening.read (s ++ t) =
      ⟨(Opening.read s).mode, (Opening.read s).letters, (Opening.read s).rest ++ t⟩ := by
  obtain ⟨d, body, hrest⟩ := List.exists_cons_of_ne_nil h
  have hsource := letters_append_rest s
  rw [hrest] at hsource
  have hread := Opening.read_of_rest hrest (body ++ t)
  rw [← List.cons_append, ← List.append_assoc, hsource] at hread
  rw [hread, hrest]

namespace Token

/-- A text that a delimiter behind it closes: it has none of its own, and it ends in no backslash
that would escape that one. -/
structure Closable (d : Char) (t : Text) : Prop where
  delimiter : .delimiter ∉ read d t
  loneBackslash : .loneBackslash ∉ read d t

theorem Closable.cut {d : Char} {t : Text} (h : Closable d t) (rest : Text) :
    cut (read d (t ++ d :: rest)) = (read d t, some (read d rest)) := by
  rw [read_append d h.loneBackslash, read_delimiter, cut_append h.delimiter]

/-- A guarded text has no delimiter left. -/
theorem closable_guarded {d : Char} (hd : d ≠ '\\') {t : Text} (h : .loneBackslash ∉ read d t) :
    Closable d (guarded d t) := by
  constructor
  all_goals
    rw [read_guarded hd, List.mem_map, not_exists]
    rintro u ⟨hu, he⟩
    cases u <;> first | exact h hu | cases he

end Token

/-- The rows of a body whose segments are closed by delimiters. -/
theorem rows_of_closable (mode : Mode) {d : Char} {pattern replacement : Text}
    (hpattern : Token.Closable d pattern) (hreplacement : Token.Closable d replacement)
    (flags : Text) :
    rows mode (Token.read d (pattern ++ d ::
      if mode.hasReplacement then replacement ++ d :: flags else flags)) =
      ⟨Token.read d pattern, if mode.hasReplacement then Token.read d replacement else [],
        some (Token.read d flags)⟩ := by
  rw [rows, hpattern.cut]
  cases mode.hasReplacement with
  | false => rfl
  | true => simp only [↓reduceIte, hreplacement.cut]

/-- A text is its guarded row again where each guarded delimiter loses its backslash and each
escape that stood in the text keeps it. -/
theorem flatMap_guard {d : Char} {f : Token → Text} {t : Text}
    (hf : ∀ u ∈ Token.read d t, f (u.guard d) = u.text d) :
    ((Token.read d t).map (Token.guard d)).flatMap f = t := by
  rw [List.flatMap_map]
  exact (List.flatMap_congr hf).trans (Token.text_read d t)

theorem flatMap_patternText {d : Char} {t : Text}
    (h : if Pattern.isEscapable d then .delimiter ∉ Token.read d t
      else .escape d ∉ Token.read d t) :
    ((Token.read d t).map (Token.guard d)).flatMap (patternText d) = t := by
  refine flatMap_guard fun u hu => ?_
  cases u with
  | delimiter =>
    have he : Pattern.isEscapable d = false := by
      by_contra he
      rw [if_pos (by simpa using he)] at h
      exact h hu
    simp [Token.guard, patternText, he, Token.text]
  | escape c =>
    have hkeep : (c = d && !Pattern.isEscapable c) = false := by
      by_contra hlose
      simp only [Bool.not_eq_false, Bool.and_eq_true,
        decide_eq_true_eq, Bool.not_eq_true'] at hlose
      obtain ⟨rfl, he⟩ := hlose
      rw [if_neg (by simp [he])] at h
      exact h hu
    simp only [Token.guard, patternText, hkeep, Token.text]
    rfl
  | _ => rfl

theorem flatMap_replacementText {d : Char} {t : Text} (h : .escape d ∉ Token.read d t) :
    ((Token.read d t).map (Token.guard d)).flatMap (replacementText d) = t := by
  refine flatMap_guard fun u hu => ?_
  cases u with
  | delimiter => simp [Token.guard, replacementText, Token.text]
  | escape c =>
    have hc : c ≠ d := fun hc => h (hc ▸ hu)
    simp [Token.guard, replacementText, hc, Token.text]
  | _ => rfl

/-- A literal whose segments are closed by delimiters is split at these, and nothing is found wrong
with it. -/
theorem splitLiteral_of_closable {letters : Text} {mode : Mode} {d : Char}
    {pattern replacement flags : Text}
    (hopening : Opening.read (letters ++ [d]) = ⟨mode, letters, [d]⟩)
    (hpattern : Token.Closable d pattern) (hreplacement : Token.Closable d replacement)
    (hflags : .delimiter ∉ Token.read d flags) :
    let body := pattern ++ d :: if mode.hasReplacement then replacement ++ d :: flags else flags
    let s := segments mode letters d body
    splitLiteral (letters ++ d :: body) = (some s, []) ∧
      s.pattern = (Token.read d pattern).flatMap (patternText d) ∧
      s.replacement = (if mode.hasReplacement then
        (Token.read d replacement).flatMap (replacementText d) else []) ∧
      s.flags = flags := by
  intro body s
  have hread := Opening.read_append (s := letters ++ [d]) (by simp [hopening]) body
  rw [hopening, List.append_assoc, List.singleton_append] at hread
  have hsplit := splitLiteral_of_rest (congrArg Opening.rest hread)
  rw [hread] at hsplit
  have hrows := rows_of_closable mode hpattern hreplacement flags
  have hstray : strayDelimiters d s.flagsOffset (Token.read d flags) = [] :=
    strayDelimiters_eq_nil_iff.mpr hflags
  refine ⟨hsplit.trans (Prod.ext rfl ?_), ?_, ?_, ?_⟩
  · simp only [diagnostics, hrows, body]
    exact hstray
  · simp only [s, body, segments, hrows]
  · simp only [s, body, segments, hrows]
    cases mode.hasReplacement <;> rfl
  · simp only [s, body, segments, hrows, Option.getD_some, flatMap_flagsText hflags,
      Token.text_read]

/-- A written literal is split into its parts, and nothing is found wrong with it. -/
theorem splitLiteral_write {letters : Text} {mode : Mode} {d : Char}
    {pattern replacement flags : Text} (hd : d ≠ '\\')
    (hopening : Opening.read (letters ++ [d]) = ⟨mode, letters, [d]⟩)
    (h : Writable d pattern replacement flags) :
    ∃ s, splitLiteral (write letters mode d pattern replacement flags) = (some s, []) ∧
      s.mode = mode ∧ s.delimiter = d ∧ s.pattern = pattern ∧
      s.replacement = (if mode.hasReplacement then replacement else []) ∧ s.flags = flags := by
  obtain ⟨hsplit, hpattern, hreplacement, hflags⟩ := splitLiteral_of_closable hopening
    (Token.closable_guarded hd h.pattern_end) (Token.closable_guarded hd h.replacement_end)
    h.flags_delimiter
  rw [Token.read_guarded hd, flatMap_patternText h.pattern_delimiter] at hpattern
  rw [Token.read_guarded hd, flatMap_replacementText h.replacement_delimiter] at hreplacement
  exact ⟨_, hsplit, rfl, rfl, hpattern, hreplacement, hflags⟩

/-- Splitting a literal and writing it are inverse to each other. A literal that is in order and
reaches its flags is written back from its parts, so it is the only one with these letters that has
them; and parts that were written are what splitting gives. -/
theorem write_segments_and_split_write :
    (∀ source s, splitLiteral source = (some s, []) → ReachesFlags source →
      write (Opening.read source).letters s.mode s.delimiter s.pattern s.replacement s.flags =
        source) ∧
    (∀ source source' s s', splitLiteral source = (some s, []) → ReachesFlags source →
      splitLiteral source' = (some s', []) → ReachesFlags source' →
      (Opening.read source).letters = (Opening.read source').letters → s.mode = s'.mode →
      s.delimiter = s'.delimiter → s.pattern = s'.pattern → s.replacement = s'.replacement →
      s.flags = s'.flags → source = source') ∧
    (∀ letters mode d pattern replacement flags, d ≠ '\\' →
      Opening.read (letters ++ [d]) = ⟨mode, letters, [d]⟩ →
      Writable d pattern replacement flags →
      ∃ s, splitLiteral (write letters mode d pattern replacement flags) = (some s, []) ∧
        s.mode = mode ∧ s.delimiter = d ∧ s.pattern = pattern ∧
        s.replacement = (if mode.hasReplacement then replacement else []) ∧ s.flags = flags) := by
  refine ⟨fun source s hs hflags => write_of_splitLiteral hs hflags, ?_, ?_⟩
  · intro source source' s s' hs hflags hs' hflags' hletters hmode hd hpattern hreplacement hend
    have hwritten := write_of_splitLiteral hs hflags
    rw [hletters, hmode, hd, hpattern, hreplacement, hend] at hwritten
    exact hwritten.symm.trans (write_of_splitLiteral hs' hflags')
  · intro letters mode d pattern replacement flags hd hopening h
    exact splitLiteral_write hd hopening h

/-- A slash is escaped in both segments of the first literal and keeps its backslash in the pattern
only; the angle bracket of the second loses it there too. -/
theorem write_segments_and_split_write_slash_bracket :
    (write ['s'] .substitution '/' ['a', '\\', '/', 'b'] ['c', '/'] ['g'] =
      "s/a\\/b/c\\//g".toList) ∧
    ∃ s, splitLiteral "m<a\\<\\\\<i".toList = (some s, []) ∧ s.mode = .matching ∧
      s.delimiter = '<' ∧ s.pattern = ['a', '<', '\\', '\\'] ∧ s.replacement = [] ∧
      s.flags = ['i'] := by
  constructor
  · exact write_segments_and_split_write.1 "s/a\\/b/c\\//g".toList
      { mode := .substitution, delimiter := '/', pattern := ['a', '\\', '/', 'b']
        replacement := ['c', '/'], flags := ['g'], flagsOffset := 11
        hasCaptures := false, hasNamedCaptures := false }
      (by decide +kernel) ⟨'/', "a\\/b/c\\//g".toList, by decide +kernel, by decide +kernel⟩
  · exact write_segments_and_split_write.2.2 ['m'] .matching '<' ['a', '<', '\\', '\\'] [] ['i']
      (by decide +kernel) (by decide +kernel)
      { pattern_end := by decide +kernel
        replacement_end := by decide +kernel
        pattern_delimiter := by decide +kernel
        replacement_delimiter := by decide +kernel
        flags_delimiter := by decide +kernel }

end RegexLiteral
