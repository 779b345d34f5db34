import RegexLiteral.Proofs.Literal.Policies
import RegexLiteral.Proofs.Literal.Writing

/-!
# Mending literals

A literal that ends too early is mended by the delimiters that it lacks, and one with delimiters in
its flags by taking these out; no other literal needs it. Both are done from the outside: a literal
that ends too early gets the delimiters behind its last character, and what is taken out are the
ranges of the diagnostics. A literal and the mended one have the same segments, because both are
read as the same rows of tokens up to the delimiters in the flags. Main statement: nothing is odd
about a mended literal, and the strict policy compiles it as the lenient one compiles the literal
itself (`lenient_eq_strict_mended`). A backslash at the end of a literal that ends too early would
escape the delimiter put behind it, so it is left out.
-/
namespace RegexLiteral

open CompiledLiteral (assemble finish finish_together)
open Reading

/-- A text without the characters that stand in the range of a diagnostic; `start` is the byte of
its first character. -/
def withoutRanges (ds : Diagnostics) (start : Nat) : Text → Text
  | [] => []
  | c :: rest =>
    if ds.any fun x => x.start ≤ start && start < x.stop then
      withoutRanges ds (start + c.utf8Size) rest
    else c :: withoutRanges ds (start + c.utf8Size) rest

/-- The number of delimiters that a body has too few. -/
def lacking (mode : Mode) (tokens : List Token) : Nat :=
  delimitersTaken mode - tokens.count .delimiter

/-- A literal without what is odd about its structure, as far as this can be mended. -/
def mended (source : Text) : Text :=
  let opening := Opening.read source
  let found := (splitLiteral source).2
  match opening.rest with
  | [] => source
  | d :: body =>
    if .unterminatedLiteral ∈ found.kinds then
      source ++ List.replicate (lacking opening.mode (Token.read d body)) d
    else withoutRanges (found.filter fun x => x.kind = .delimiterAfterFlags) 0 source

/-- Whether the last token of a literal is a backslash with nothing behind it. -/
def endsInBackslash (source : Text) : Bool :=
  match (Opening.read source).rest with
  | [] => false
  | d :: body => (Token.read d body).contains .loneBackslash

/-- Two literals differ at most in their texts, in what was odd about them, and in the groups that
they seem to show. -/
structure CompiledLiteral.Alike (a b : CompiledLiteral) : Prop where
  mode : a.mode = b.mode
  delimiter : a.delimiter = b.delimiter
  pattern : a.pattern = b.pattern
  replacement : a.replacement = b.replacement
  flagsText : a.flagsText = b.flagsText
  flags : a.flags = b.flags
  enginePattern : a.enginePattern = b.enginePattern
  regex : a.regex = b.regex
  groupCount : a.regex.groupCount = b.regex.groupCount
  groupNames : a.regex.groupNames = b.regex.groupNames

/-- Two literals fail with the same error or compile to literals that are alike. -/
inductive CompilesAlike :
    Except CompileError CompiledLiteral → Except CompileError CompiledLiteral → Prop where
  | failed (e : CompileError) : CompilesAlike (.error e) (.error e)
  | compiled {a b : CompiledLiteral} (h : a.Alike b) : CompilesAlike (.ok a) (.ok b)

/-- Two literals are split into the same parts. -/
structure Segments.Agree (s t : Segments) : Prop where
  mode : s.mode = t.mode
  delimiter : s.delimiter = t.delimiter
  pattern : s.pattern = t.pattern
  replacement : s.replacement = t.replacement
  flags : s.flags = t.flags

namespace Token

variable {d : Char}

/-- Where some tokens are taken out, the others are read as before. -/
theorem read_textAll_of_sublist {body : Text} {ts : List Token} (h : ts.Sublist (read d body)) :
    read d (textAll d ts) = ts := by
  fun_induction read d body generalizing ts with
  | case1 =>
    rw [List.sublist_nil.mp h]
    rfl
  | case2 rest ih =>
    rcases List.sublist_cons_iff.mp h with hrest | ⟨us, rfl, hrest⟩
    · exact ih hrest
    · rw [textAll_cons, text, List.singleton_append, read_delimiter, ih hrest]
  | case3 hd =>
    -- A lone backslash stands last, so it is read alone or it is gone.
    rcases List.sublist_cons_iff.mp h with hrest | ⟨us, rfl, hrest⟩
    · rw [List.sublist_nil.mp hrest]
      rfl
    · rw [List.sublist_nil.mp hrest]
      exact read_lone (Ne.symm hd)
  | case4 e rest hd ih =>
    rcases List.sublist_cons_iff.mp h with hrest | ⟨us, rfl, hrest⟩
    · exact ih hrest
    · rw [textAll_cons, text, List.cons_append, List.singleton_append, read_escape (Ne.symm hd),
        ih hrest]
  | case5 c rest hd hb ih =>
    rcases List.sublist_cons_iff.mp h with hrest | ⟨us, rfl, hrest⟩
    · exact ih hrest
    · rw [textAll_cons, text, List.singleton_append, read_plain hd hb, ih hrest]

theorem read_replicate (d : Char) (n : Nat) :
    read d (List.replicate n d) = List.replicate n .delimiter := by
  induction n with
  | zero => rfl
  | succ n ih => rw [List.replicate_succ, read_delimiter, ih, List.replicate_succ]

end Token

namespace Reading

section Rows

variable {mode : Mode} {tokens tail : List Token}

/-- The segments before the flags, each with the delimiter that closes it. -/
def Rows.closed (mode : Mode) (row : Rows) : List Token :=
  row.pattern ++ .delimiter ::
    if mode.hasReplacement then row.replacement ++ [.delimiter] else []

theorem eq_closed_append (h : (rows mode tokens).flags = some tail) :
    tokens = (rows mode tokens).closed mode ++ tail := by
  have htokens := eq_of_rows h
  rw [Rows.closed]
  cases hm : mode.hasReplacement with
  | false => simpa [hm] using htokens
  | true => simpa [hm] using htokens

/-- Behind the delimiters that close the segments everything is flags. -/
theorem rows_closed_append {row : Rows} (hpattern : .delimiter ∉ row.pattern)
    (hreplacement : .delimiter ∉ row.replacement) (mode : Mode) (tail : List Token) :
    rows mode (row.closed mode ++ tail) =
      ⟨row.pattern, if mode.hasReplacement then row.replacement else [], some tail⟩ := by
  rw [Rows.closed, List.append_assoc, List.cons_append, rows, cut_append hpattern]
  cases mode.hasReplacement with
  | false => rfl
  | true => simp [cut_append hreplacement]

theorem rows_replacement (mode : Mode) (tokens : List Token) :
    (if mode.hasReplacement then (rows mode tokens).replacement else []) =
      (rows mode tokens).replacement := by
  unfold rows
  cases mode.hasReplacement with
  | false =>
    rw [if_neg (by simp)]
    split <;> rfl
  | true => rfl

/-- The rows of a body do not change where their flags are exchanged. -/
theorem rows_closed_rows (mode : Mode) (tokens tail : List Token) :
    rows mode ((rows mode tokens).closed mode ++ tail) =
      { rows mode tokens with flags := some tail } := by
  rw [rows_closed_append (delimiter_notMem_pattern mode tokens)
    (delimiter_notMem_replacement mode tokens), rows_replacement]

/-- A body that does not reach its flags is closed by the delimiters that it lacks. -/
theorem append_lacking (h : (rows mode tokens).flags = none) :
    tokens ++ List.replicate (lacking mode tokens) .delimiter =
      (rows mode tokens).closed mode := by
  -- Either no delimiter cuts the body, or one of two does, which stands behind the pattern.
  have hrow := count_cut tokens
  cases hcut : Token.cut tokens with
  | mk row rest =>
    rw [hcut] at hrow
    cases rest with
    | none =>
      have hrows : rows mode tokens = ⟨row, [], none⟩ := by rw [rows, hcut]
      have htokens : tokens = row := eq_of_cut_none hcut
      have hcount : tokens.count .delimiter = 0 := htokens ▸ hrow
      rw [hrows, Rows.closed, lacking, hcount, htokens, delimitersTaken]
      cases mode.hasReplacement <;> rfl
    | some rest =>
      cases hm : mode.hasReplacement with
      | false => simp [rows, hcut, hm] at h
      | true =>
        have hnone : (Token.cut rest).2 = none := by simpa [rows, hcut, hm] using h
        have hrest : rest = (Token.cut rest).1 := eq_of_cut_none (Prod.ext rfl hnone)
        have hrows : rows mode tokens = ⟨row, rest, none⟩ := by
          simp [rows, hcut, hm, hnone, ← hrest]
        have htokens : tokens = row ++ .delimiter :: rest := eq_of_cut hcut
        have hcount : tokens.count .delimiter = 1 := by
          rw [htokens, List.count_append, List.count_cons_self, hrow, hrest, count_cut]
        rw [hrows, Rows.closed, lacking, hcount, delimitersTaken, if_pos hm, if_pos hm, htokens]
        simp

theorem flatMap_flagsText_filter (d : Char) (ts : List Token) :
    (ts.filter (· ≠ .delimiter)).flatMap (flagsText d) = ts.flatMap (flagsText d) := by
  induction ts with
  | nil => rfl
  | cons t ts ih => cases t <;> simp [flagsText, ← ih]

end Rows

section Body

variable {mode : Mode} {letters body body' : Text} {d : Char} {tail : List Token}

/-- Two bodies whose rows differ at most in the delimiters in the flags have the same segments. -/
theorem segments_agree
    (hrows : rows mode (Token.read d body') =
      { rows mode (Token.read d body) with flags := some tail })
    (hflags : tail.flatMap (flagsText d) =
      ((rows mode (Token.read d body)).flags.getD []).flatMap (flagsText d)) :
    (segments mode letters d body).Agree (segments mode letters d body') where
  mode := rfl
  delimiter := rfl
  pattern := by simp only [segments, hrows]
  replacement := by simp only [segments, hrows]
  flags := by simp only [segments, hrows, Option.getD_some, hflags]

/-- Nothing is odd about a body that reaches its flags and has no delimiter there. -/
theorem diagnostics_eq_nil (h : (rows mode (Token.read d body)).flags = some tail)
    (htail : .delimiter ∉ tail) : diagnostics mode letters d body = [] := by
  rw [diagnostics]
  simp only [h]
  exact strayDelimiters_eq_nil_iff.mpr htail

end Body

section Ranges

variable {ds : Diagnostics} {start : Nat} {d : Char}

theorem withoutRanges_append (ds : Diagnostics) (start : Nat) (t u : Text) :
    withoutRanges ds start (t ++ u) =
      withoutRanges ds start t ++ withoutRanges ds (start + byteLength t) u := by
  induction t generalizing start with
  | nil => rfl
  | cons c t ih =>
    rw [List.cons_append, withoutRanges, withoutRanges, ih, byteLength_cons, Nat.add_assoc]
    split
    · rfl
    · rw [List.cons_append]

/-- A text that all ranges stand before or behind is left alone. -/
theorem withoutRanges_of_apart {t : Text}
    (h : ∀ x ∈ ds, x.stop ≤ start ∨ start + byteLength t ≤ x.start) :
    withoutRanges ds start t = t := by
  induction t generalizing start with
  | nil => rfl
  | cons c t ih =>
    have hpos := c.utf8Size_pos
    have hkept : ds.any (fun x => x.start ≤ start && start < x.stop) = false := by
      rw [List.any_eq_false]
      intro x hx
      have hapart := h x hx
      rw [byteLength_cons] at hapart
      simp only [Bool.and_eq_true, decide_eq_true_eq]
      omega
    have hrest : ∀ x ∈ ds, x.stop ≤ start + c.utf8Size ∨
        start + c.utf8Size + byteLength t ≤ x.start := by
      intro x hx
      have hapart := h x hx
      rw [byteLength_cons] at hapart
      omega
    rw [withoutRanges, hkept, if_neg (by simp), ih hrest]

/-- The delimiters of a row stand from its first byte on. -/
theorem start_of_mem_strayDelimiters {ts : List Token} {x : Diagnostic}
    (h : x ∈ strayDelimiters d start ts) : start ≤ x.start := by
  obtain ⟨us, vs, -, rfl⟩ := mem_strayDelimiters h
  exact Nat.le_add_right _ _

/-- Without the delimiters reported in it, a row of flags is its other tokens. The ranges in `past`
stand before it. -/
theorem withoutRanges_flags {past : Diagnostics} (hpast : ∀ x ∈ past, x.stop ≤ start)
    (tail : List Token) :
    withoutRanges (past ++ strayDelimiters d start tail) start (Token.textAll d tail) =
      Token.textAll d (tail.filter (· ≠ .delimiter)) := by
  -- Each range that was passed goes to `past`, so that the ranges stay all that are reported.
  induction tail generalizing start past with
  | nil => rfl
  | cons t rest ih =>
    by_cases ht : t = .delimiter
    · subst ht
      have hgone : (past ++ strayDelimiters d start (.delimiter :: rest)).any
          (fun x => x.start ≤ start && start < x.stop) = true := by
        rw [List.any_append, Bool.or_eq_true]
        right
        simp [strayDelimiters, Diagnostic.ofChar, Diagnostic.of, d.utf8Size_pos]
      have hnext : ∀ x ∈ past ++ [Diagnostic.ofChar .delimiterAfterFlags start d],
          x.stop ≤ start + d.utf8Size := by
        intro x hx
        rcases List.mem_append.mp hx with hx | hx
        · exact Nat.le_add_right_of_le (hpast x hx)
        · rw [List.mem_singleton.mp hx]
          exact Nat.le_refl _
      have hds : past ++ strayDelimiters d start (.delimiter :: rest) =
          past ++ [.ofChar .delimiterAfterFlags start d] ++
            strayDelimiters d (start + d.utf8Size) rest := by
        simp [strayDelimiters]
      rw [Token.textAll_cons, Token.text, List.singleton_append, withoutRanges, if_pos hgone, hds,
        ih hnext]
      rfl
    · have hapart : ∀ x ∈ past ++ strayDelimiters d (start + byteLength (t.text d)) rest,
          x.stop ≤ start ∨ start + byteLength (t.text d) ≤ x.start := by
        intro x hx
        rcases List.mem_append.mp hx with hx | hx
        · exact .inl (hpast x hx)
        · exact .inr (start_of_mem_strayDelimiters hx)
      have hnext : ∀ x ∈ past, x.stop ≤ start + byteLength (t.text d) :=
        fun x hx => Nat.le_add_right_of_le (hpast x hx)
      have hfilter : (t :: rest).filter (· ≠ .delimiter) =
          t :: rest.filter (· ≠ .delimiter) := by
        rw [List.filter_cons, if_pos (by simpa using ht)]
      rw [Token.textAll_cons, strayDelimiters_cons d start ht, withoutRanges_append,
        withoutRanges_of_apart hapart, ih hnext, hfilter, Token.textAll_cons]

end Ranges

section Body

variable {mode : Mode} {letters body body' : Text} {d : Char} {tail : List Token}

/-- A body that reaches its flags loses the delimiters there. -/
theorem withoutRanges_of_flags (letters : Text)
    (h : (rows mode (Token.read d body)).flags = some tail) :
    withoutRanges (diagnostics mode letters d body) 0 (letters ++ d :: body) =
      letters ++ d :: Token.textAll d
        ((rows mode (Token.read d body)).closed mode ++ tail.filter (· ≠ .delimiter)) := by
  obtain ⟨before, hbody, hoffset⟩ := exists_before_flags mode letters d body
  rw [h, Option.getD_some, Token.textAll_append] at hbody
  have htokens := congrArg (Token.textAll d) (eq_closed_append h)
  rw [Token.text_read, Token.textAll_append] at htokens
  have hclosed : Token.textAll d before =
      Token.textAll d ((rows mode (Token.read d body)).closed mode) :=
    List.append_cancel_right (hbody.symm.trans htokens)
  rw [hclosed] at hoffset
  generalize hhead : letters ++ d :: Token.textAll d ((rows mode (Token.read d body)).closed mode) =
    head at hoffset
  have hsource : letters ++ d :: body = head ++ Token.textAll d tail := by
    rw [← hhead, List.append_assoc, List.cons_append, ← htokens]
  have hfound : diagnostics mode letters d body = strayDelimiters d (byteLength head) tail := by
    rw [diagnostics, ← hoffset]
    simp only [h]
  have hapart : ∀ x ∈ strayDelimiters d (byteLength head) tail,
      x.stop ≤ 0 ∨ 0 + byteLength head ≤ x.start := by
    intro x hx
    rw [Nat.zero_add]
    exact .inr (start_of_mem_strayDelimiters hx)
  have hflags := @withoutRanges_flags (byteLength head) d [] (List.forall_mem_nil _) tail
  rw [List.nil_append] at hflags
  rw [hfound, hsource, withoutRanges_append, withoutRanges_of_apart hapart, Nat.zero_add, hflags,
    ← hhead, Token.textAll_append, List.append_assoc, List.cons_append]

/-- The mended body of a literal: nothing is odd about it, and it has the segments of the body. -/
structure Mends (mode : Mode) (letters : Text) (d : Char) (body body' : Text) : Prop where
  diagnostics : diagnostics mode letters d body' = []
  agree : (segments mode letters d body).Agree (segments mode letters d body')

theorem mends_append_lacking (letters : Text) (h : (rows mode (Token.read d body)).flags = none)
    (hend : .loneBackslash ∉ Token.read d body) :
    Mends mode letters d body
      (body ++ List.replicate (lacking mode (Token.read d body)) d) := by
  have hread : Token.read d (body ++ List.replicate (lacking mode (Token.read d body)) d) =
      (rows mode (Token.read d body)).closed mode ++ [] := by
    rw [Token.read_append d hend, Token.read_replicate, append_lacking h, List.append_nil]
  have hrows := rows_closed_rows mode (Token.read d body) []
  rw [← hread] at hrows
  exact ⟨diagnostics_eq_nil (congrArg Rows.flags hrows) List.not_mem_nil,
    segments_agree hrows (by rw [h]; rfl)⟩

theorem mends_filter_flags (letters : Text)
    (h : (rows mode (Token.read d body)).flags = some tail) :
    Mends mode letters d body (Token.textAll d
      ((rows mode (Token.read d body)).closed mode ++ tail.filter (· ≠ .delimiter))) := by
  have hsublist : ((rows mode (Token.read d body)).closed mode ++
      tail.filter (· ≠ .delimiter)).Sublist (Token.read d body) := by
    conv_rhs => rw [eq_closed_append h]
    exact List.Sublist.append_left List.filter_sublist _
  have hrows := rows_closed_rows mode (Token.read d body) (tail.filter (· ≠ .delimiter))
  rw [← Token.read_textAll_of_sublist hsublist] at hrows
  exact ⟨diagnostics_eq_nil (congrArg Rows.flags hrows) (by simp),
    segments_agree hrows (by rw [h, flatMap_flagsText_filter]; rfl)⟩

end Body

end Reading

section Mended

variable {source body : Text} {d : Char}

theorem mended_of_nil (h : (splitLiteral source).2 = []) :
    mended source = source := by
  have hnone : withoutRanges [] 0 source = source :=
    withoutRanges_of_apart (List.forall_mem_nil _)
  unfold mended
  rw [h]
  dsimp only
  split
  · rfl
  · exact hnone

theorem loneBackslash_notMem (hrest : (Opening.read source).rest = d :: body)
    (hend : endsInBackslash source = false) : .loneBackslash ∉ Token.read d body := by
  simpa [endsInBackslash, hrest] using hend

/-- A literal that ends too early gets the delimiters that its body lacks. -/
theorem mended_of_unterminated (hrest : (Opening.read source).rest = d :: body)
    (h : .unterminatedLiteral ∈ (splitLiteral source).2.kinds) :
    mended source =
      source ++ List.replicate (lacking (Opening.read source).mode (Token.read d body)) d := by
  simp only [mended, hrest, if_pos h]

/-- All that is odd about the structure of a literal is of one kind. -/
theorem eq_of_mem_kinds {kind : DiagnosticKind} (hrest : (Opening.read source).rest = d :: body)
    (h : kind ∈ (splitLiteral source).2.kinds) :
    kind = if endsEarly (Opening.read source).mode (Token.read d body) then .unterminatedLiteral
      else .delimiterAfterFlags := by
  obtain ⟨x, hx, rfl⟩ := List.mem_map.mp h
  rw [splitLiteral_of_rest hrest, diagnostics_eq_anomalies] at hx
  exact kind_of_mem_anomalies hx

theorem unterminated_notMem_of_strays (hrest : (Opening.read source).rest = d :: body)
    (h : .delimiterAfterFlags ∈ (splitLiteral source).2.kinds) :
    .unterminatedLiteral ∉ (splitLiteral source).2.kinds := by
  intro hmem
  cases (eq_of_mem_kinds hrest hmem).trans (eq_of_mem_kinds hrest h).symm

/-- A literal that does not end too early loses the delimiters reported in its flags. -/
theorem mended_of_terminated (hrest : (Opening.read source).rest = d :: body)
    (h : .unterminatedLiteral ∉ (splitLiteral source).2.kinds) :
    mended source =
      withoutRanges ((splitLiteral source).2.filter fun x => x.kind = .delimiterAfterFlags) 0
        source := by
  simp only [mended, hrest, if_neg h]

/-- A literal that reaches its flags loses all that is reported. -/
theorem mended_of_flags {tail : List Token} (hrest : (Opening.read source).rest = d :: body)
    (h : (rows (Opening.read source).mode (Token.read d body)).flags = some tail) :
    mended source = withoutRanges (splitLiteral source).2 0 source := by
  have hkind {kind : DiagnosticKind} (hmem : kind ∈ (splitLiteral source).2.kinds) :
      kind = .delimiterAfterFlags := by
    have heq := eq_of_mem_kinds hrest hmem
    rwa [endsEarly_of_rows h] at heq
  have hterminated : .unterminatedLiteral ∉ (splitLiteral source).2.kinds := by
    intro hmem
    cases hkind hmem
  have hall : (splitLiteral source).2.filter (fun x => x.kind = .delimiterAfterFlags) =
      (splitLiteral source).2 :=
    List.filter_eq_self.mpr fun x hx => decide_eq_true (hkind (List.mem_map_of_mem hx))
  rw [mended_of_terminated hrest hterminated, hall]

/-- Mending a literal leaves what it opens with and mends its body. -/
theorem exists_mended (hrest : (Opening.read source).rest = d :: body)
    (hend : .unterminatedLiteral ∈ (splitLiteral source).2.kinds → endsInBackslash source = false) :
    ∃ body', mended source = (Opening.read source).letters ++ d :: body' ∧
      Mends (Opening.read source).mode (Opening.read source).letters d body body' := by
  have hsource := letters_append_rest source
  rw [hrest] at hsource
  have hfound : (splitLiteral source).2 =
      diagnostics (Opening.read source).mode (Opening.read source).letters d body := by
    rw [splitLiteral_of_rest hrest]
  cases hflags : (rows (Opening.read source).mode (Token.read d body)).flags with
  | some tail =>
    refine ⟨_, ?_, mends_filter_flags _ hflags⟩
    rw [mended_of_flags hrest hflags, hfound, ← withoutRanges_of_flags _ hflags, hsource]
  | none =>
    by_cases hlast : (Token.read d body).getLast? = some .delimiter
    · have hnone : diagnostics (Opening.read source).mode (Opening.read source).letters d body =
          [] := by
        simp only [diagnostics, hflags, if_pos hlast]
      refine ⟨body, ?_, hnone, ⟨rfl, rfl, rfl, rfl, rfl⟩⟩
      rw [mended_of_nil (hfound.trans hnone), hsource]
    · have hunterminated : .unterminatedLiteral ∈ (splitLiteral source).2.kinds := by
        rw [hfound, diagnostics]
        simp only [hflags, if_neg hlast]
        exact List.mem_singleton_self _
      have hlone := loneBackslash_notMem hrest (hend hunterminated)
      refine ⟨_, ?_, mends_append_lacking _ hflags hlone⟩
      rw [mended_of_unterminated hrest hunterminated]
      have hcopies := congrArg
        (· ++ List.replicate (lacking (Opening.read source).mode (Token.read d body)) d) hsource
      rw [← hcopies, List.append_assoc, List.cons_append]

/-- A literal reaches its flags if and only if its body has the delimiters that it takes. -/
theorem reachesFlags_iff (hrest : (Opening.read source).rest = d :: body) :
    ReachesFlags source ↔
      delimitersTaken (Opening.read source).mode ≤ (Token.read d body).count .delimiter := by
  constructor
  · intro h
    obtain ⟨d', body', tail, hrest', htail⟩ := exists_rows_flags h
    cases hrest.symm.trans hrest'
    rw [count_of_rows htail]
    exact Nat.le_add_right _ _
  · intro henough
    cases hflags : (rows (Opening.read source).mode (Token.read d body)).flags with
    | none => exact absurd henough (Nat.not_le.mpr (count_lt_of_rows_none hflags))
    | some tail =>
      refine ⟨d, body, hrest, ?_⟩
      rw [Scan.run_new _ d (byteLength_of_rest hrest)]
      simp only [lastSegment, hflags, Option.isSome_some, if_true]

/-- How many delimiters behind a literal lead to its flags. -/
theorem reachesFlags_append_iff
    (hrest : (Opening.read source).rest = d :: body) (hend : endsInBackslash source = false)
    (n : Nat) :
    ReachesFlags (source ++ List.replicate n d) ↔
      lacking (Opening.read source).mode (Token.read d body) ≤ n := by
  have hlone := loneBackslash_notMem hrest hend
  have hopening := Opening.read_append (s := source) (by simp [hrest]) (List.replicate n d)
  have hrest' : (Opening.read (source ++ List.replicate n d)).rest =
      d :: (body ++ List.replicate n d) := by
    rw [hopening, hrest, List.cons_append]
  rw [reachesFlags_iff hrest', hopening, Token.read_append d hlone, Token.read_replicate,
    List.count_append, List.count_replicate_self, lacking]
  exact Nat.sub_le_iff_le_add'.symm

end Mended

section Compiling

variable {source source' : Text} {s s' : Segments} {found found' : Diagnostics}

theorem Flags.map_live_snd (start start' : Nat) (inComment : Bool) (t : Text) :
    (live start inComment t).map Prod.snd = (live start' inComment t).map Prod.snd := by
  induction t generalizing start start' inComment with
  | nil => rfl
  | cons c t ih =>
    rw [live, live]
    split
    · exact ih _ _ _
    · split
      · exact ih _ _ _
      · rw [List.map_cons, List.map_cons, ih]

/-- Flags say what their live characters say, wherever these stand. -/
theorem Flags.parse_congr {t u : Text} {start start' : Nat}
    (h : (live start false t).map Prod.snd = (live start' false u).map Prod.snd) :
    (parse t start).1 = (parse u start').1 ∧
      (parse t start).2.kinds = (parse u start').2.kinds := by
  have hany (letter : Char) :
      (live start false t).any (fun p => p.2 = letter) =
        (live start' false u).any (fun p => p.2 = letter) := by
    have hmap := congrArg (List.any · (· = letter)) h
    simpa [List.any_map, Function.comp_def] using hmap
  have hkinds (t : Text) (start : Nat) : (parse t start).2.kinds =
      (((live start false t).map Prod.snd).filter isUnknown).map fun _ => .unknownFlag := by
    simp [parse, Diagnostics.kinds, Diagnostic.ofChar, Diagnostic.of, List.filter_map,
      Function.comp_def]
  constructor
  · simp only [parse, hany]
  · rw [hkinds, hkinds, h]

/-- Which flags are on does not depend on where they stand. -/
theorem Flags.parse_fst (t : Text) (start start' : Nat) :
    (parse t start).1 = (parse t start').1 :=
  (parse_congr (map_live_snd start start' false t)).1

/-- Literals that are split into the same parts compile alike if nothing is held against them. -/
theorem finish_alike (h : s.Agree s') :
    CompilesAlike (finish source s found) (finish source' s' found') := by
  have hparsed : (Flags.parse s'.flags s'.flagsOffset).1 =
      (Flags.parse s.flags s.flagsOffset).1 := by
    rw [h.flags]
    exact Flags.parse_fst _ _ _
  rcases finish_together h.pattern.symm hparsed with ⟨e, hfails, hfails'⟩ | ⟨regex, hok, hok'⟩
  · rw [hfails, hfails']
    exact .failed e
  · rw [hok, hok']
    apply CompilesAlike.compiled
    exact {
      mode := h.mode
      delimiter := h.delimiter
      pattern := by simp only [assemble, hparsed, h.pattern]
      replacement := by simp only [assemble, hparsed, h.replacement]
      flagsText := h.flags
      flags := hparsed.symm
      enginePattern := by simp only [CompiledLiteral.enginePattern, assemble, hparsed, h.pattern]
      regex := rfl
      groupCount := rfl
      groupNames := rfl }

/-- Where nothing is odd about the structure neither policy holds anything against a literal. -/
theorem compileLiteral_of_no_diagnostics (h : splitLiteral source = (some s, []))
    (policy : Policy) : compileLiteral source policy = finish source s [] := by
  have hwarnings : (Flags.parse s.flags s.flagsOffset).2.hasErrors = false := by
    rw [Diagnostics.hasErrors, List.any_eq_false]
    intro x hx
    obtain ⟨c, u, v, -, rfl⟩ := Flags.exists_of_mem_parse hx
    exact Bool.false_ne_true
  have hfindings := findings_of_split h
  rw [List.nil_append] at hfindings
  rw [compileLiteral_of_findings h, hfindings, hwarnings]
  rfl

end Compiling

/-- Mending a literal makes up for what is odd about its structure and for nothing else. A literal
that ends too early gets just the delimiters that it takes to reach its flags, any other one loses
the delimiters reported in its flags, and a literal that is in order is left as it is. Then nothing
is odd about the mended literal, and the strict policy makes of it what the lenient policy makes of
the literal itself: they fail with the same error, or they compile to literals with the same mode,
delimiter, segments, flags and regex. -/
theorem lenient_eq_strict_mended (source : Text) (hopen : ¬(source = [] ∨ source ∈ bareLetters))
    (hend : .unterminatedLiteral ∈ (splitLiteral source).2.kinds →
      endsInBackslash source = false) :
    (.unterminatedLiteral ∈ (splitLiteral source).2.kinds →
      ∃ d ∈ (Opening.read source).rest.head?, ∃ n, mended source = source ++ List.replicate n d ∧
        ∀ k, ReachesFlags (source ++ List.replicate k d) ↔ n ≤ k) ∧
    (.delimiterAfterFlags ∈ (splitLiteral source).2.kinds →
      mended source =
        withoutRanges ((splitLiteral source).2.filter fun x => x.kind = .delimiterAfterFlags) 0
          source) ∧
    ((splitLiteral source).2 = [] → mended source = source) ∧
    (splitLiteral (mended source)).1.isSome ∧ (splitLiteral (mended source)).2 = [] ∧
    CompilesAlike (compileLiteral source .lenient) (compileLiteral (mended source) .strict) := by
  cases hrest : (Opening.read source).rest with
  | nil => exact absurd (rest_eq_nil_iff.mp hrest) hopen
  | cons d body =>
    obtain ⟨body', hmended, hmends⟩ := exists_mended hrest hend
    have hread := Opening.read_of_rest hrest body'
    rw [← hmended] at hread
    have hsplit := splitLiteral_of_rest (congrArg Opening.rest hread)
    rw [hread, hmends.diagnostics] at hsplit
    refine ⟨fun h => ?_, fun h => ?_, mended_of_nil, ?_, ?_, ?_⟩
    · refine ⟨d, rfl, _, mended_of_unterminated hrest h, fun k => ?_⟩
      exact reachesFlags_append_iff hrest (hend h) k
    · exact mended_of_terminated hrest (unterminated_notMem_of_strays hrest h)
    · rw [hsplit]
      rfl
    · rw [hsplit]
    · rw [compileLiteral_lenient (splitLiteral_of_rest hrest),
        compileLiteral_of_no_diagnostics hsplit]
      exact finish_alike hmends.agree

/-- The first literal is cut off in its pattern, behind an escaped delimiter, and lacks two. The
second has two too many, one before and one behind an escape in its flags. -/
theorem lenient_eq_strict_mended_slashes :
    mended "s/a\\/b".toList = "s/a\\/b//".toList ∧
    mended "m/a/g/\\//i".toList = "m/a/g\\/i".toList ∧
    (splitLiteral "s/a\\/b//".toList).2 = [] ∧ (splitLiteral "m/a/g\\/i".toList).2 = [] ∧
    CompilesAlike (compileLiteral "s/a\\/b".toList .lenient)
      (compileLiteral "s/a\\/b//".toList .strict) ∧
    CompilesAlike (compileLiteral "m/a/g/\\//i".toList .lenient)
      (compileLiteral "m/a/g\\/i".toList .strict) ∧
    ∃ c, compileLiteral "s/a\\/b".toList .lenient = .ok c := by
  have hlacking : mended "s/a\\/b".toList = "s/a\\/b//".toList := by decide +kernel
  have hstrays : mended "m/a/g/\\//i".toList = "m/a/g\\/i".toList := by decide +kernel
  have hok : (compileLiteral "s/a\\/b".toList .lenient).toOption.any fun _ => true := by cbv
  obtain ⟨c, hc, -⟩ := exists_of_any_compileLiteral hok
  obtain ⟨-, -, -, -, hfound, halike⟩ := lenient_eq_strict_mended "s/a\\/b".toList
    (by decide +kernel) (by decide +kernel)
  obtain ⟨-, -, -, -, hfound', halike'⟩ := lenient_eq_strict_mended "m/a/g/\\//i".toList
    (by decide +kernel) (by decide +kernel)
  rw [hlacking] at hfound halike
  rw [hstrays] at hfound' halike'
  exact ⟨hlacking, hstrays, hfound, hfound', halike, halike', c, hc⟩

end RegexLiteral
