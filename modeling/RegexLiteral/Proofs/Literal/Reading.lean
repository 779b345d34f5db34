import RegexLiteral.Literal.Segments
import RegexLiteral.Proofs.Literal.Token

/-!
# Literals read token by token

`segments?` says what the segments of a literal are without scanning it: the letters at its start
are the first in a list of five that it starts with, the body is a row of tokens, the delimiters
cut the row, and each segment is its tokens written by the rule of that segment. Main statement:
the scan comes to the same segments for every text (`splitLiteral_segments`). It rests on what a
scan does with a row of tokens from each of the three segments on.
-/
namespace RegexLiteral

namespace Reading

/-- The letters that literals start with and what they say, in the order in which they are
tried. -/
def prefixes : List (Text × Mode) := [
  (['m'], .matching), (['s'], .substitution), (['t', 'r'], .transliteration),
  (['t'], .transliteration), ([], .matching)]

/-- A token of the pattern as the engine gets it. An escaped delimiter that the engine would not
take with a backslash loses it. -/
def patternText (d : Char) : Token → Text
  | .escape c => if c = d && !Pattern.isEscapable c then [c] else ['\\', c]
  | t => t.text d

/-- A token of the replacement as the template has it. An escaped delimiter loses its
backslash. -/
def replacementText (d : Char) : Token → Text
  | .escape c => if c = d then [c] else ['\\', c]
  | t => t.text d

/-- A token of the flags. A delimiter has no place there and is dropped. -/
def flagsText (d : Char) : Token → Text
  | .delimiter => []
  | t => t.text d

/-- The rows of tokens into which the delimiters cut a body. -/
structure Rows where
  pattern : List Token
  replacement : List Token
  /-- What stands behind the closing delimiter, if there is one. -/
  flags : Option (List Token)

/-- Cuts a body. -/
def rows (mode : Mode) (tokens : List Token) : Rows :=
  match Token.cut tokens with
  | (pattern, none) => ⟨pattern, [], none⟩
  | (pattern, some rest) =>
    if mode.hasReplacement then ⟨pattern, (Token.cut rest).1, (Token.cut rest).2⟩
    else ⟨pattern, [], some rest⟩

/-- The texts that follow the opening parentheses of the pattern, each up to the end of the
literal. -/
def openings (d : Char) : List Token → List Text
  | [] => []
  | .delimiter :: _ => []
  | .plain '(' :: rest => Token.textAll d rest :: openings d rest
  | _ :: rest => openings d rest

/-- The segments of a body behind letters and a delimiter. -/
def segments (mode : Mode) (letters : Text) (d : Char) (body : Text) : Segments :=
  let tokens := Token.read d body
  let row := rows mode tokens
  let tail := row.flags.getD []
  let before := tokens.take (tokens.length - tail.length)
  { mode := mode
    delimiter := d
    pattern := row.pattern.flatMap (patternText d)
    replacement := row.replacement.flatMap (replacementText d)
    flags := tail.flatMap (flagsText d)
    flagsOffset := byteLength (letters ++ d :: Token.textAll d before)
    hasCaptures := (openings d tokens).any Segments.opensCapture
    hasNamedCaptures := (openings d tokens).any Segments.opensNamed }

/-- The segments of a literal, if it has a delimiter. -/
def segments? (source : Text) : Option Segments :=
  (prefixes.find? fun p => p.1.isPrefixOf source).bind fun (letters, mode) =>
    match source.drop letters.length with
    | [] => none
    | d :: body => some (segments mode letters d body)

/-- The delimiters in the flags, each reported where it stands; `start` is the byte of the first
token. -/
def strayDelimiters (d : Char) (start : Nat) : List Token → Diagnostics
  | [] => []
  | .delimiter :: rest =>
    .ofChar .delimiterAfterFlags start d :: strayDelimiters d (start + d.utf8Size) rest
  | t :: rest => strayDelimiters d (start + byteLength (t.text d)) rest

/-- What is found about a body behind letters and a delimiter: the delimiters in its flags or, if it
does not reach them and ends in no delimiter, that it ends too early. -/
def diagnostics (mode : Mode) (letters : Text) (d : Char) (body : Text) : Diagnostics :=
  let tokens := Token.read d body
  match (rows mode tokens).flags with
  | some tail => strayDelimiters d (segments mode letters d body).flagsOffset tail
  | none =>
    if tokens.getLast? = some .delimiter then []
    else
      [.of .unterminatedLiteral (byteLength letters) (byteLength (letters ++ d :: body))
        (some d.toString)]

/-- Whether the last token is a delimiter, where `closed` says so of the one before the row. -/
def lastCloses (closed : Bool) (ts : List Token) : Bool :=
  ts.foldl (fun _ t => t = .delimiter) closed

theorem append_assoc_text (a : Array Char) (t u : Text) : a ++ t ++ u = a ++ (t ++ u) :=
  Array.ext' (by simp)

theorem openings_cons (d : Char) {t : Token} (ht : t ≠ .delimiter) (rest : List Token) :
    openings d (t :: rest) =
      (if t = .plain '(' then [Token.textAll d rest] else []) ++ openings d rest := by
  rw [openings.eq_def]
  cases t with
  | delimiter => exact absurd rfl ht
  | escape c => rfl
  | loneBackslash => rfl
  | plain c =>
    by_cases hc : c = '('
    · subst hc
      rfl
    · simp [hc]

theorem cut_cons {t : Token} (ht : t ≠ .delimiter) (rest : List Token) :
    Token.cut (t :: rest) = (t :: (Token.cut rest).1, (Token.cut rest).2) := by
  cases t <;> first | rfl | exact absurd rfl ht

theorem strayDelimiters_cons (d : Char) (start : Nat) {t : Token} (ht : t ≠ .delimiter)
    (rest : List Token) :
    strayDelimiters d start (t :: rest) =
      strayDelimiters d (start + byteLength (t.text d)) rest := by
  cases t <;> first | rfl | exact absurd rfl ht

theorem eq_of_cut {ts row tail : List Token} (h : Token.cut ts = (row, some tail)) :
    ts = row ++ .delimiter :: tail := by
  induction ts generalizing row with
  | nil => cases h
  | cons t rest ih =>
    by_cases ht : t = .delimiter
    · subst ht
      cases h
      rfl
    · rw [cut_cons ht, Prod.mk.injEq] at h
      rw [ih (Prod.ext rfl h.2), ← h.1, List.cons_append]

theorem rows_pattern (mode : Mode) (ts : List Token) :
    (rows mode ts).pattern = (Token.cut ts).1 := by
  unfold rows
  split
  · rename_i hcut
    rw [hcut]
  · rename_i hcut
    rw [hcut]
    split <;> rfl

theorem delimiter_notMem_cut (ts : List Token) : .delimiter ∉ (Token.cut ts).1 := by
  induction ts with
  | nil => exact List.not_mem_nil
  | cons t ts ih =>
    by_cases ht : t = .delimiter
    · subst ht
      exact List.not_mem_nil
    · rw [cut_cons ht, List.mem_cons, not_or]
      exact ⟨Ne.symm ht, ih⟩

theorem exists_cut_append (ts : List Token) : ∃ tail, ts = (Token.cut ts).1 ++ tail := by
  induction ts with
  | nil => exact ⟨[], rfl⟩
  | cons t ts ih =>
    by_cases ht : t = .delimiter
    · exact ⟨t :: ts, by rw [ht]; rfl⟩
    · obtain ⟨tail, htail⟩ := ih
      refine ⟨tail, ?_⟩
      rw [cut_cons ht, List.cons_append, ← htail]

/-- A body that reaches its flags is its rows with the delimiters between them. -/
theorem eq_of_rows {mode : Mode} {tokens tail : List Token}
    (h : (rows mode tokens).flags = some tail) :
    tokens = (rows mode tokens).pattern ++ .delimiter ::
      if mode.hasReplacement then (rows mode tokens).replacement ++ .delimiter :: tail
      else tail := by
  unfold rows at h ⊢
  cases hcut : Token.cut tokens with
  | mk row rest =>
    cases rest with
    | none => simp [hcut] at h
    | some rest =>
      rw [hcut] at h
      cases hm : mode.hasReplacement with
      | false =>
        simp only [hm, Bool.false_eq_true, ↓reduceIte, Option.some.injEq] at h ⊢
        rw [← h]
        exact eq_of_cut hcut
      | true =>
        simp only [hm, ↓reduceIte] at h ⊢
        rw [← eq_of_cut (Prod.ext rfl h)]
        exact eq_of_cut hcut

/-- The flags stand at the end of a body. -/
theorem take_append_flags (mode : Mode) (tokens : List Token) :
    tokens.take (tokens.length - ((rows mode tokens).flags.getD []).length) ++
      (rows mode tokens).flags.getD [] = tokens := by
  cases h : (rows mode tokens).flags with
  | none => simp
  | some tail =>
    have hsuffix : tail <:+ tokens := by
      rw [eq_of_rows h]
      split
      · exact ⟨(rows mode tokens).pattern ++ .delimiter ::
          (rows mode tokens).replacement ++ [.delimiter], by simp⟩
      · exact ⟨(rows mode tokens).pattern ++ [.delimiter], by simp⟩
    exact List.suffix_iff_eq_append.mp hsuffix

theorem lastCloses_append (b : Bool) (row tail : List Token) :
    lastCloses b (row ++ .delimiter :: tail) = lastCloses true tail := by
  simp [lastCloses]

theorem lastCloses_false (ts : List Token) :
    lastCloses false ts = decide (ts.getLast? = some .delimiter) := by
  rcases List.eq_nil_or_concat ts with rfl | ⟨init, last, rfl⟩
  · rfl
  · simp [lastCloses]

/-- The segment in which a body ends. -/
def lastSegment (mode : Mode) (tokens : List Token) : Segment :=
  if (rows mode tokens).flags.isSome then .flags
  else if (Token.cut tokens).2.isSome then .replacement
  else .pattern

end Reading

open Reading

namespace Scan

variable {mode : Mode} {d : Char} {s : Scan} {pos : Nat}

/-- What a scan does with a token before the tokens `rest`. -/
def step (mode : Mode) (d : Char) (s : Scan) (pos : Nat) (rest : List Token) : Token → Scan
  | .delimiter => s.delimiter mode d pos
  | .escape c => s.escape d c
  | .loneBackslash => s.add ['\\']
  | .plain c => s.plain c (Token.textAll d rest)

/-- What a scan does with a row of tokens. -/
def steps (mode : Mode) (d : Char) (s : Scan) (pos : Nat) : List Token → Scan
  | [] => s
  | t :: rest => steps mode d (s.step mode d pos rest t) (pos + byteLength (t.text d)) rest

/-- A scan takes a body token by token. -/
theorem run_eq_steps (mode : Mode) (d : Char) (s : Scan) (pos : Nat) (body : Text) :
    s.run mode d pos body = s.steps mode d pos (Token.read d body) := by
  fun_induction run mode d s pos body with
  | case1 => rfl
  | case2 s pos rest ih =>
    rw [Token.read_delimiter, ih]
    simp [steps, step, Token.text]
  | case3 s pos hd => rw [Token.read_lone (Ne.symm hd)]; rfl
  | case4 s pos e more hd ih =>
    rw [Token.read_escape (Ne.symm hd), ih]
    simp [steps, step, Token.text, Nat.add_assoc]
  | case5 s pos c rest hd hb ih =>
    rw [Token.read_plain hd hb, ih]
    simp [steps, step, Token.text]

theorem step_pattern (hs : s.segment = .pattern) {t : Token} (ht : t ≠ .delimiter)
    (rest : List Token) :
    s.step mode d pos rest t =
      { s with
        pattern := s.pattern ++ patternText d t
        hasCaptures := s.hasCaptures ||
          (t = .plain '(' && Segments.opensCapture (Token.textAll d rest))
        hasNamedCaptures := s.hasNamedCaptures ||
          (t = .plain '(' && Segments.opensNamed (Token.textAll d rest))
        closed := false } := by
  cases t with
  | delimiter => exact absurd rfl ht
  | escape c =>
    have hk : (if keepsBackslash d .pattern c then ['\\', c] else [c]) =
        patternText d (.escape c) := by
      by_cases hc : c = d
      · subst hc
        by_cases he : Pattern.isEscapable c <;> simp [keepsBackslash, patternText, he]
      · simp [keepsBackslash, patternText, hc]
    simp [step, escape, add, hs, hk]
  | loneBackslash => simp [step, add, hs, patternText, Token.text]
  | plain c =>
    by_cases hc : c = '('
    · simp [step, plain, noteGroup, add, hs, patternText, Token.text, hc]
    · simp [step, plain, add, hs, patternText, Token.text, hc]

theorem step_replacement (hs : s.segment = .replacement) {t : Token} (ht : t ≠ .delimiter)
    (rest : List Token) :
    s.step mode d pos rest t =
      { s with replacement := s.replacement ++ replacementText d t, closed := false } := by
  cases t with
  | delimiter => exact absurd rfl ht
  | escape c =>
    have hk : (if keepsBackslash d .replacement c then ['\\', c] else [c]) =
        replacementText d (.escape c) := by
      by_cases hc : c = d <;> simp [keepsBackslash, replacementText, hc]
    simp [step, escape, add, hs, hk]
  | loneBackslash => simp [step, add, hs, replacementText, Token.text]
  | plain c => simp [step, plain, add, hs, replacementText, Token.text]

theorem step_flags (hs : s.segment = .flags) {t : Token} (ht : t ≠ .delimiter)
    (rest : List Token) :
    s.step mode d pos rest t = { s with flags := s.flags ++ flagsText d t, closed := false } := by
  cases t with
  | delimiter => exact absurd rfl ht
  | escape c => simp [step, escape, add, hs, keepsBackslash, flagsText, Token.text]
  | loneBackslash => simp [step, add, hs, flagsText, Token.text]
  | plain c => simp [step, plain, add, hs, flagsText, Token.text]

/-- From the flags on a scan takes all tokens but the delimiters, which it reports. -/
theorem steps_flags (hs : s.segment = .flags) (ts : List Token) :
    s.steps mode d pos ts =
      { s with
        flags := s.flags ++ ts.flatMap (flagsText d)
        closed := lastCloses s.closed ts
        found := s.found ++ strayDelimiters d pos ts } := by
  induction ts generalizing s pos with
  | nil => simp [steps, strayDelimiters, lastCloses]
  | cons t rest ih =>
    by_cases ht : t = .delimiter
    · subst ht
      rw [steps, step, delimiter, hs, ih rfl]
      simp [strayDelimiters, lastCloses, flagsText, Token.text]
    · rw [steps, step_flags hs ht, ih, strayDelimiters_cons d pos ht]
      · simp [lastCloses, ht, append_assoc_text]
      · exact hs

/-- In the replacement a scan takes all tokens up to the first delimiter. -/
theorem steps_replacement (hs : s.segment = .replacement) (ts : List Token) :
    s.steps mode d pos ts =
      match Token.cut ts with
      | (row, none) =>
        { s with
          replacement := s.replacement ++ row.flatMap (replacementText d)
          closed := lastCloses s.closed ts }
      | (row, some tail) =>
        let stop := pos + byteLength (Token.textAll d row) + d.utf8Size
        steps mode d
          { s with
            segment := .flags
            replacement := s.replacement ++ row.flatMap (replacementText d)
            flagsOffset := stop
            closed := true }
          stop tail := by
  induction ts generalizing s pos with
  | nil => simp [steps, Token.cut, lastCloses]
  | cons t rest ih =>
    by_cases ht : t = .delimiter
    · subst ht
      simp [steps, step, delimiter, hs, Token.cut, Token.text]
    · rw [steps, step_replacement hs ht, ih, cut_cons ht]
      · obtain ⟨row, tail⟩ := Token.cut rest
        cases tail with
        | none => simp [lastCloses, ht, append_assoc_text]
        | some tail => simp [Nat.add_assoc, append_assoc_text]
      · exact hs

/-- In the pattern a scan takes all tokens up to the first delimiter and takes note of what the
parentheses among them open. -/
theorem steps_pattern (hs : s.segment = .pattern) (ts : List Token) :
    s.steps mode d pos ts =
      match Token.cut ts with
      | (row, none) =>
        { s with
          pattern := s.pattern ++ row.flatMap (patternText d)
          hasCaptures := s.hasCaptures || (openings d ts).any Segments.opensCapture
          hasNamedCaptures := s.hasNamedCaptures || (openings d ts).any Segments.opensNamed
          closed := lastCloses s.closed ts }
      | (row, some tail) =>
        let stop := pos + byteLength (Token.textAll d row)
        steps mode d
          (delimiter
            { s with
              pattern := s.pattern ++ row.flatMap (patternText d)
              hasCaptures := s.hasCaptures || (openings d ts).any Segments.opensCapture
              hasNamedCaptures := s.hasNamedCaptures || (openings d ts).any Segments.opensNamed }
            mode d stop)
          (stop + d.utf8Size) tail := by
  induction ts generalizing s pos with
  | nil => simp [steps, Token.cut, lastCloses, openings]
  | cons t rest ih =>
    by_cases ht : t = .delimiter
    · subst ht
      simp [steps, step, delimiter, hs, Token.cut, Token.text, openings]
    · have hany (p : Text → Bool) : (openings d (t :: rest)).any p =
          (t = .plain '(' && p (Token.textAll d rest) || (openings d rest).any p) := by
        rw [openings_cons d ht, List.any_append]
        split <;> simp_all
      rw [steps, step_pattern hs ht, ih, cut_cons ht]
      · obtain ⟨row, tail⟩ := Token.cut rest
        cases tail with
        | none => simp [lastCloses, ht, hany, Bool.or_assoc, append_assoc_text]
        | some tail => simp [delimiter, hs, hany, Bool.or_assoc, Nat.add_assoc, append_assoc_text]
      · exact hs

/-- Where a scan of a whole body ends. -/
theorem run_new (mode : Mode) (d : Char) {start size : Nat} {body : Text}
    (hsize : size = start + byteLength body) :
    (new size).run mode d start body =
      let tokens := Token.read d body
      let row := rows mode tokens
      let tail := row.flags.getD []
      let before := tokens.take (tokens.length - tail.length)
      let flagsOffset := start + byteLength (Token.textAll d before)
      { segment := lastSegment mode tokens
        pattern := (row.pattern.flatMap (patternText d)).toArray
        replacement := (row.replacement.flatMap (replacementText d)).toArray
        flags := (tail.flatMap (flagsText d)).toArray
        flagsOffset := flagsOffset
        hasCaptures := (openings d tokens).any Segments.opensCapture
        hasNamedCaptures := (openings d tokens).any Segments.opensNamed
        closed := lastCloses false tokens
        found := (strayDelimiters d flagsOffset tail).toArray } := by
  have hbytes : size = start + byteLength (Token.textAll d (Token.read d body)) := by
    rw [Token.text_read]
    exact hsize
  rw [run_eq_steps, steps_pattern rfl]
  generalize Token.read d body = tokens at hbytes
  have hbefore := congrArg (fun ts => byteLength (Token.textAll d ts))
    (take_append_flags mode tokens)
  simp only [Token.textAll_append, byteLength_append] at hbefore
  cases hcut : Token.cut tokens with
  | mk row rest =>
    cases rest with
    | none => simp [rows, lastSegment, hcut, new, strayDelimiters, hbytes]
    | some rest =>
      have htokens := eq_of_cut hcut
      have hlast := lastCloses_append false row rest
      rw [← htokens] at hlast
      cases hm : mode.hasReplacement with
      | false =>
        have hrows : rows mode tokens = ⟨row, [], some rest⟩ := by simp [rows, hcut, hm]
        have hoffset : start + byteLength (Token.textAll d row) + d.utf8Size =
            start + byteLength (Token.textAll d (tokens.take (tokens.length - rest.length))) := by
          rw [hrows] at hbefore
          have hsum := congrArg (fun ts => byteLength (Token.textAll d ts)) htokens
          simp [Token.text] at hsum hbefore
          omega
        simp only [delimiter, new, hm]
        rw [steps_flags rfl]
        simp [hrows, lastSegment, hoffset, hlast]
      | true =>
        simp only [delimiter, new, hm, ↓reduceIte]
        rw [steps_replacement rfl]
        cases hcut' : Token.cut rest with
        | mk row' tail =>
          have hrows : rows mode tokens = ⟨row, row', tail⟩ := by simp [rows, hcut, hcut', hm]
          cases tail with
          | none => simp [hrows, lastSegment, hcut, hlast, strayDelimiters, hbytes]
          | some tail =>
            have hrest := eq_of_cut hcut'
            have hlast' := lastCloses_append true row' tail
            rw [← hrest, ← hlast] at hlast'
            have hoffset : start + byteLength (Token.textAll d row) + d.utf8Size +
                byteLength (Token.textAll d row') + d.utf8Size =
                start +
                  byteLength (Token.textAll d (tokens.take (tokens.length - tail.length))) := by
              rw [hrows] at hbefore
              have hsum := congrArg (fun ts => byteLength (Token.textAll d ts)) htokens
              simp [hrest, Token.text] at hsum hbefore
              omega
            dsimp only
            rw [steps_flags rfl]
            simp [hrows, lastSegment, hoffset, hlast']

end Scan

/-- The letters that are read at the start of a literal are the first that it starts with. -/
theorem find?_prefixes (source : Text) :
    prefixes.find? (fun p => p.1.isPrefixOf source) =
      some ((Opening.read source).letters, (Opening.read source).mode) := by
  unfold Opening.read
  split
  · simp [prefixes]
  · simp [prefixes]
  · simp [prefixes]
  · rename_i rest hr
    cases rest with
    | nil => simp [prefixes]
    | cons c t =>
      have hc : ¬ 'r' = c := fun h => hr t (h ▸ rfl)
      simp [prefixes, hc]
  · rename_i hm hs _ ht
    cases source with
    | nil => simp [prefixes]
    | cons c t =>
      have hcm : ¬ 'm' = c := fun h => hm t (h ▸ rfl)
      have hcs : ¬ 's' = c := fun h => hs t (h ▸ rfl)
      have hct : ¬ 't' = c := fun h => ht t (h ▸ rfl)
      simp [prefixes, hcm, hcs, hct]

theorem letters_append_rest (source : Text) :
    (Opening.read source).letters ++ (Opening.read source).rest = source := by
  unfold Opening.read
  split <;> rfl

/-- The bytes of a literal with a delimiter. -/
theorem byteLength_of_rest {source body : Text} {d : Char}
    (h : (Opening.read source).rest = d :: body) :
    byteLength source =
      byteLength (Opening.read source).letters + d.utf8Size + byteLength body := by
  have hbytes := congrArg byteLength (letters_append_rest source)
  rw [h, byteLength_append, byteLength_cons] at hbytes
  omega

/-- What splitting makes of a literal with a delimiter. -/
theorem splitLiteral_of_rest {source body : Text} {d : Char}
    (h : (Opening.read source).rest = d :: body) :
    splitLiteral source =
      (some (segments (Opening.read source).mode (Opening.read source).letters d body),
        diagnostics (Opening.read source).mode (Opening.read source).letters d body) := by
  have hsource := letters_append_rest source
  rw [h] at hsource
  have hne : source.isEmpty = false := by
    rw [← hsource]
    simp
  have hsize := byteLength_of_rest h
  have hrun := Scan.run_new (Opening.read source).mode d hsize
  unfold splitLiteral
  simp only [hne, h, Bool.false_eq_true, ↓reduceIte]
  rw [hrun]
  refine Prod.ext ?_ ?_
  · simp [Scan.segments, segments, Nat.add_assoc]
  · cases hflags : (rows (Opening.read source).mode (Token.read d body)).flags with
    | some tail =>
      simp [Scan.diagnostics, Scan.isUnterminated, diagnostics, lastSegment, segments, hflags,
        Nat.add_assoc]
    | none =>
      have hsegment : lastSegment (Opening.read source).mode (Token.read d body) ≠ .flags := by
        rw [lastSegment, hflags, if_neg (by simp)]
        split <;> simp
      by_cases hlast : (Token.read d body).getLast? = some .delimiter <;>
        simp [Scan.diagnostics, Scan.isUnterminated, diagnostics, lastCloses_false, hflags,
          hsegment, hlast, hsize, strayDelimiters, Nat.add_assoc]

/-- There is nothing to split in a literal without a delimiter. -/
theorem splitLiteral_of_nil {source : Text} (h : (Opening.read source).rest = []) :
    (splitLiteral source).1 = none := by
  unfold splitLiteral
  simp only [h]
  split <;> rfl

/-- A literal is split into the segments that its tokens say, whatever the text. -/
theorem splitLiteral_segments (source : Text) :
    (splitLiteral source).1 = segments? source := by
  have hdrop : source.drop (Opening.read source).letters.length = (Opening.read source).rest := by
    have hsource := congrArg (List.drop (Opening.read source).letters.length)
      (letters_append_rest source)
    rw [← hsource, List.drop_left]
  rw [segments?, find?_prefixes, Option.bind_some]
  simp only [hdrop]
  cases h : (Opening.read source).rest with
  | nil => exact splitLiteral_of_nil h
  | cons d body => rw [splitLiteral_of_rest h]

end RegexLiteral
