import RegexLiteral.Proofs.Literal.Mending
import RegexLiteral.Proofs.Literal.Policies

/-!
# Comments behind the flags

A `#` behind the closing delimiter comments out the rest of its line. Comments are known to the
reader of flags only. The splitter goes through the same text before, and a bare delimiter behind
the closing one is an anomaly to it wherever it stands, so a comment has to escape the delimiter.
Main statement: this is all that a comment does (`comment_inert_but_for_delimiters`). Each delimiter
outside the backslash pairs of a comment is reported once, so the strict policy fails the literal
and the lenient one keeps the reports; in every other regard any two comments are worth the same. A
backslash at the end of a comment pairs with the line feed behind it, which ends the comment
nevertheless.
-/
namespace RegexLiteral

open CompiledLiteral (assemble finish_ne_malformed finish_together)
open Pattern Reading

/-- Whether a comment is open at the end of a text; `inComment` says so of its start. -/
def Flags.endsInComment (inComment : Bool) (t : Text) : Bool :=
  t.foldl (fun inside c => if inside then c ≠ '\n' else c = '#') inComment

/-- The flags of a literal whose text behind the closing delimiter is `t`. -/
def flagsBehind (d : Char) (t : Text) : Text := (Token.read d t).flatMap (flagsText d)

/-- The number of delimiters outside the backslash pairs of a text. -/
def strays (d : Char) (t : Text) : Nat := (Token.read d t).count .delimiter

/-- What comes of compiling a literal, without the literal's own text, the places in it, and the
groups that it seems to show. -/
inductive Upshot where
  | malformed (kinds : List DiagnosticKind)
  | badPattern (pattern : Text) (error : PatternError)
  | unsupported (pattern : Text) (feature : Feature)
  | compiled (flags : Flags) (pattern replacement enginePattern : Text)
      (kinds : List DiagnosticKind)
  deriving DecidableEq

namespace Upshot

/-- The upshot of a result. -/
def of : Except CompileError CompiledLiteral → Upshot
  | .error (.malformed _ found) => malformed found.kinds
  | .error (.badPattern pattern error) => badPattern pattern error
  | .error (.unsupported pattern feature) => unsupported pattern feature
  | .ok c => compiled c.flags c.pattern c.replacement c.enginePattern c.diagnostics.kinds

/-- The upshot with further kinds before those that are reported. -/
def behind (kinds : List DiagnosticKind) : Upshot → Upshot
  | malformed ks => malformed (kinds ++ ks)
  | compiled flags pattern replacement enginePattern ks =>
    compiled flags pattern replacement enginePattern (kinds ++ ks)
  | u => u

theorem behind_nil (u : Upshot) : u.behind [] = u := by
  cases u <;> rfl

end Upshot

/-- The upshot of compiling a literal. -/
def upshot (source : Text) (policy : Policy) : Upshot := .of (compileLiteral source policy)

namespace Flags

variable {t : Text}

theorem endsInComment_append (inComment : Bool) (t u : Text) :
    endsInComment inComment (t ++ u) = endsInComment (endsInComment inComment t) u :=
  List.foldl_append

theorem live_append (start : Nat) (inComment : Bool) (t u : Text) :
    live start inComment (t ++ u) =
      live start inComment t ++ live (start + byteLength t) (endsInComment inComment t) u := by
  induction t generalizing start inComment with
  | nil => rfl
  | cons c t ih =>
    rw [List.cons_append, live, live, endsInComment, List.foldl_cons, byteLength_cons,
      ← Nat.add_assoc]
    cases inComment with
    | true => exact ih _ _
    | false =>
      by_cases hc : c = '#'
      · simp only [hc, if_true]
        exact ih _ _
      · simp only [hc, if_false, Bool.false_eq_true, decide_false]
        exact congrArg _ (ih _ _)

/-- A comment goes on through the rest of its line, and nothing of it is live. -/
theorem live_line (start : Nat) (ht : '\n' ∉ t) :
    live start true t = [] ∧ endsInComment true t = true := by
  induction t generalizing start with
  | nil => exact ⟨rfl, rfl⟩
  | cons c t ih =>
    have hc : c ≠ '\n' := (List.ne_of_not_mem_cons ht).symm
    obtain ⟨hlive, hends⟩ := ih (start + c.utf8Size) (List.not_mem_of_not_mem_cons ht)
    rw [live, endsInComment, List.foldl_cons]
    simp only [hc, ne_eq, not_false_eq_true, decide_true, if_true]
    exact ⟨hlive, hends⟩

end Flags

section Tail

variable {d : Char} {c rest : Text}

/-- What stands on either side of a line's end is read apart, up to the pair of a backslash and the
line feed. -/
theorem read_append_line (hd : d ≠ '\n') (hrest : rest = [] ∨ ∃ more, rest = '\n' :: more) :
    flagsBehind d (c ++ rest) = flagsBehind d c ++ flagsBehind d rest ∧
      strays d (c ++ rest) = strays d c + strays d rest := by
  by_cases hlone : .loneBackslash ∈ Token.read d c
  · obtain ⟨ts, -, hc, hbehind⟩ := Token.read_append_of_lone hlone
    rcases hrest with rfl | ⟨more, rfl⟩
    · simp [flagsBehind, strays]
    · have hline : Token.read d ('\n' :: more) = .plain '\n' :: Token.read d more :=
        Token.read_plain (Ne.symm hd) (by decide) more
      simp [flagsBehind, strays, hc, hbehind, hline, flagsText, Token.text]
  · have happend := Token.read_append d hlone rest
    simp [flagsBehind, strays, happend]

theorem flagsBehind_subset (d : Char) (t : Text) : flagsBehind d t ⊆ t := by
  intro x hx
  obtain ⟨token, hmem, hx⟩ := List.mem_flatMap.mp hx
  have htext : x ∈ token.text d := by
    cases token with
    | delimiter => cases hx
    | escape | loneBackslash | plain => exact hx
  rw [← Token.text_read d t]
  exact List.mem_flatMap.mpr ⟨token, hmem, htext⟩

/-- A delimiter that is dropped from the flags neither opens a comment nor ends one. -/
theorem endsInComment_flagsBehind (hhash : d ≠ '#') (hline : d ≠ '\n') (inComment : Bool)
    (t : Text) :
    Flags.endsInComment inComment (flagsBehind d t) = Flags.endsInComment inComment t := by
  have hrow (ts : List Token) : Flags.endsInComment inComment (ts.flatMap (flagsText d)) =
      Flags.endsInComment inComment (Token.textAll d ts) := by
    induction ts generalizing inComment with
    | nil => rfl
    | cons t ts ih =>
      rw [List.flatMap_cons, Token.textAll_cons, Flags.endsInComment_append,
        Flags.endsInComment_append, ih]
      cases t with
      | delimiter =>
        have hkeep : Flags.endsInComment inComment [d] = inComment := by
          cases inComment <;> simp [Flags.endsInComment, hhash, hline]
        rw [Token.text, hkeep]
        rfl
      | escape | loneBackslash | plain => rfl
  rw [flagsBehind, hrow, Token.text_read]

/-- The tail of a literal falls apart at a `#` and at the end of its line. -/
theorem flagsBehind_comment (hline : d ≠ '\n') (a : Text)
    (hrest : rest = [] ∨ ∃ more, rest = '\n' :: more) :
    flagsBehind d (a ++ '#' :: (c ++ rest)) =
        flagsBehind d (a ++ ['#']) ++ flagsBehind d c ++ flagsBehind d rest ∧
      strays d (a ++ '#' :: (c ++ rest)) =
        strays d (a ++ ['#']) + strays d c + strays d rest := by
  obtain ⟨hflags, hstrays⟩ := read_append_line (c := c) hline hrest
  have hmark : .loneBackslash ∉ Token.read d (a ++ ['#']) :=
    Token.loneBackslash_notMem_concat (by decide) a
  have hread := Token.read_append d hmark (c ++ rest)
  rw [List.append_assoc, List.singleton_append] at hread
  constructor
  · rw [List.append_assoc, ← hflags, flagsBehind, hread, List.flatMap_append]
    rfl
  · rw [Nat.add_assoc, ← hstrays, strays, hread, List.count_append]
    rfl

/-- What is live in a tail with a comment stands before its `#` and behind its line. -/
theorem live_comment {a : Text} (hhash : d ≠ '#') (hline : d ≠ '\n')
    (hopen : Flags.endsInComment false a = false) (hc : '\n' ∉ c)
    (hrest : rest = [] ∨ ∃ more, rest = '\n' :: more) (start : Nat) :
    (Flags.live start false (flagsBehind d (a ++ '#' :: (c ++ rest)))).map Prod.snd =
      (Flags.live 0 false (flagsBehind d (a ++ ['#']))).map Prod.snd ++
        (Flags.live 0 true (flagsBehind d rest)).map Prod.snd := by
  have hmark : Flags.endsInComment false (flagsBehind d (a ++ ['#'])) = true := by
    rw [endsInComment_flagsBehind hhash hline, Flags.endsInComment_append, hopen]
    rfl
  have hcomment : '\n' ∉ flagsBehind d c := fun hmem => hc (flagsBehind_subset d c hmem)
  obtain ⟨hlive, hends⟩ :=
    Flags.live_line (start + byteLength (flagsBehind d (a ++ ['#']))) hcomment
  rw [(flagsBehind_comment hline a hrest).1, List.append_assoc, Flags.live_append, hmark,
    Flags.live_append, hlive, hends, List.nil_append, List.map_append]
  exact congrArg₂ (· ++ ·) (Flags.map_live_snd _ _ _ _) (Flags.map_live_snd _ _ _ _)

end Tail

section Exchange

variable {lead tail : Text} {s : Segments}

/-- A text is cut in one way only at a number of bytes. -/
theorem eq_of_byteLength_eq {u v t t' : Text} (h : u ++ t = v ++ t')
    (hbytes : byteLength u = byteLength v) : u = v := by
  induction u generalizing v with
  | nil =>
    cases v with
    | nil => rfl
    | cons c v =>
      have hpos := c.utf8Size_pos
      rw [byteLength_nil, byteLength_cons] at hbytes
      omega
  | cons c u ih =>
    cases v with
    | nil =>
      have hpos := c.utf8Size_pos
      rw [byteLength_nil, byteLength_cons] at hbytes
      omega
    | cons c' v =>
      obtain ⟨rfl, hrest⟩ := List.cons.inj h
      have hbytes' : byteLength u = byteLength v := Nat.add_left_cancel hbytes
      rw [ih hrest hbytes']

/-- What stands before the flags of a literal, unless these are empty, are its closed segments. -/
theorem exists_closed {mode : Mode} {letters body : Text} {d : Char}
    (hbody : letters ++ d :: body = lead ++ tail) (htail : tail ≠ [])
    (hoffset : (segments mode letters d body).flagsOffset = byteLength lead) :
    let closed := (rows mode (Token.read d body)).closed mode
    lead = letters ++ d :: Token.textAll d closed ∧ Token.read d (Token.textAll d closed) = closed ∧
      .loneBackslash ∉ closed := by
  intro closed
  obtain ⟨before, hsplit, hbefore⟩ := exists_before_flags mode letters d body
  rw [Token.textAll_append] at hsplit
  have hcut : (letters ++ d :: Token.textAll d before) ++
      Token.textAll d ((rows mode (Token.read d body)).flags.getD []) = lead ++ tail := by
    rw [← hbody, List.append_assoc, List.cons_append, ← hsplit]
  have hlead : letters ++ d :: Token.textAll d before = lead :=
    eq_of_byteLength_eq hcut (hbefore.symm.trans hoffset)
  rw [hlead] at hcut
  have htext := List.append_cancel_left hcut
  cases hflags : (rows mode (Token.read d body)).flags with
  | none =>
    rw [hflags] at htext
    exact absurd htext.symm htail
  | some row =>
    rw [hflags, Option.getD_some] at hsplit htext
    have htokens : Token.read d body = closed ++ row := eq_closed_append hflags
    have hsame := congrArg (Token.textAll d) htokens
    rw [Token.text_read, hsplit, Token.textAll_append] at hsame
    refine ⟨?_, ?_, fun hlone => ?_⟩
    · rw [← hlead, List.append_cancel_right hsame]
    · have hsublist : closed.Sublist (Token.read d body) := by
        rw [htokens]
        exact List.sublist_append_left closed row
      exact Token.read_textAll_of_sublist hsublist
    · cases row with
      | nil => exact htail htext.symm
      | cons t row => exact Token.inner_of_read htokens hlone (by simp)

/-- Behind closed segments all delimiters are reported. -/
theorem diagnostics_closed {mode : Mode} {letters body : Text} {d : Char} {tokens row : List Token}
    (hread : Token.read d body = (rows mode tokens).closed mode ++ row) :
    diagnostics mode letters d body =
      strayDelimiters d
        (byteLength (letters ++ d :: Token.textAll d ((rows mode tokens).closed mode))) row := by
  have htake (closed : List Token) :
      (closed ++ row).take ((closed ++ row).length - row.length) = closed := by
    rw [List.length_append, Nat.add_sub_cancel, List.take_left]
  simp only [diagnostics, segments, hread, rows_closed_rows, Option.getD_some, htake]

/-- Where the text behind the closing delimiter of a literal is exchanged, all that was split off
before it stays. -/
theorem exists_split_of_tail (hsplit : (splitLiteral (lead ++ tail)).1 = some s)
    (hoffset : s.flagsOffset = byteLength lead) (htail : tail ≠ []) (t : Text) :
    ∃ s', splitLiteral (lead ++ t) =
        (some s', strayDelimiters s.delimiter (byteLength lead) (Token.read s.delimiter t)) ∧
      s'.pattern = s.pattern ∧ s'.replacement = s.replacement ∧
      s'.flags = flagsBehind s.delimiter t := by
  cases hrest : (Opening.read (lead ++ tail)).rest with
  | nil =>
    rw [splitLiteral_of_nil hrest] at hsplit
    cases hsplit
  | cons d body =>
    have hsource := letters_append_rest (lead ++ tail)
    rw [hrest] at hsource
    rw [splitLiteral_of_rest hrest, Option.some.injEq] at hsplit
    subst hsplit
    obtain ⟨hlead, hclosed, hlone⟩ := exists_closed hsource htail hoffset
    have hread := Token.read_append d (hclosed.symm ▸ hlone) t
    rw [hclosed] at hread
    have hopening := Opening.read_of_rest hrest
      (Token.textAll d ((rows (Opening.read (lead ++ tail)).mode (Token.read d body)).closed
        (Opening.read (lead ++ tail)).mode) ++ t)
    have hsame := congrArg (· ++ t) hlead
    simp only [List.append_assoc, List.cons_append] at hsame
    rw [← hsame] at hopening
    have hagain := splitLiteral_of_rest (congrArg Opening.rest hopening)
    rw [hopening, diagnostics_closed hread, ← hlead] at hagain
    refine ⟨_, hagain, ?_, ?_, ?_⟩
    all_goals simp only [segments, hread, rows_closed_rows, Option.getD_some, flagsBehind]

end Exchange

section Compiling

variable {source source' : Text} {s s' : Segments} {found found' : Diagnostics}
  {kinds : List DiagnosticKind}

theorem Diagnostics.hasErrors_eq (ds : Diagnostics) :
    ds.hasErrors = ds.kinds.any fun kind => kind.severity = .error := by
  rw [Diagnostics.hasErrors, Diagnostics.kinds, List.any_map]
  rfl

theorem Diagnostics.kinds_append (ds es : Diagnostics) :
    Diagnostics.kinds (ds ++ es) = ds.kinds ++ es.kinds := List.map_append

theorem kinds_strayDelimiters (d : Char) (start : Nat) (ts : List Token) :
    (strayDelimiters d start ts).kinds =
      List.replicate (ts.count .delimiter) .delimiterAfterFlags := by
  apply List.eq_replicate_iff.mpr
  constructor
  · rw [Diagnostics.kinds, List.length_map, length_strayDelimiters]
  · intro kind hkind
    obtain ⟨x, hx, rfl⟩ := List.mem_map.mp hkind
    obtain ⟨us, vs, -, rfl⟩ := mem_strayDelimiters hx
    rfl

/-- The policy decides by the kinds of what is found. -/
theorem upshot_of_split (h : splitLiteral source = (some s, found)) (policy : Policy) :
    upshot source policy =
      if ((findings source).kinds.any fun kind => kind.severity = .error) && policy = .strict then
        .malformed (findings source).kinds
      else upshot source .lenient := by
  rw [upshot, upshot, compileLiteral_lenient h, compileLiteral_of_findings h,
    ← Diagnostics.hasErrors_eq, apply_ite Upshot.of]
  rfl

/-- Of the flags only those that are on matter, and of what is found only the kinds. -/
theorem upshot_lenient (h : splitLiteral source = (some s, found))
    (h' : splitLiteral source' = (some s', found'))
    (hpattern : s'.pattern = s.pattern) (hreplacement : s'.replacement = s.replacement)
    (hflags : (Flags.parse s'.flags s'.flagsOffset).1 = (Flags.parse s.flags s.flagsOffset).1)
    (hkinds : (findings source').kinds = kinds ++ (findings source).kinds) :
    upshot source' .lenient = (upshot source .lenient).behind kinds := by
  rw [findings_of_split h, findings_of_split h'] at hkinds
  rw [upshot, upshot, compileLiteral_lenient h, compileLiteral_lenient h']
  rcases finish_together hpattern hflags with ⟨e, hfails, hfails'⟩ | ⟨regex, hok, hok'⟩
  · rw [hfails, hfails']
    cases e with
    | malformed t ds => exact absurd hfails (finish_ne_malformed t ds)
    | badPattern | unsupported => rfl
  · rw [hok, hok']
    simp only [Upshot.of, Upshot.behind, assemble, CompiledLiteral.enginePattern, hflags, hpattern,
      hreplacement, hkinds]

end Compiling

section Comment

variable {lead a c rest : Text} {s : Segments}

/-- What a comment does: its delimiters are reported, before all else that is. -/
theorem upshot_comment {tail : Text} (hsplit : (splitLiteral (lead ++ tail)).1 = some s)
    (hoffset : s.flagsOffset = byteLength lead) (htail : tail ≠ [])
    (hhash : s.delimiter ≠ '#') (hline : s.delimiter ≠ '\n')
    (hopen : Flags.endsInComment false a = false) (hc : '\n' ∉ c)
    (hrest : rest = [] ∨ ∃ more, rest = '\n' :: more) :
    let source := lead ++ (a ++ '#' :: (c ++ rest))
    let bare := lead ++ (a ++ '#' :: rest)
    let reported := List.replicate (strays s.delimiter c) DiagnosticKind.delimiterAfterFlags
    (findings source).kinds = reported ++ (findings bare).kinds ∧
      upshot source .lenient = (upshot bare .lenient).behind reported ∧
      upshot source .strict =
        if strays s.delimiter c = 0 then upshot bare .strict
        else .malformed (findings source).kinds := by
  intro source bare reported
  obtain ⟨s', hsource, hpattern, hreplacement, hflags⟩ :=
    exists_split_of_tail hsplit hoffset htail (a ++ '#' :: (c ++ rest))
  obtain ⟨s₀, hbare, hpattern₀, hreplacement₀, hflags₀⟩ :=
    exists_split_of_tail hsplit hoffset htail (a ++ '#' :: rest)
  have hlive : (Flags.live s'.flagsOffset false s'.flags).map Prod.snd =
      (Flags.live s₀.flagsOffset false s₀.flags).map Prod.snd := by
    rw [hflags, hflags₀, live_comment hhash hline hopen hc hrest]
    exact (live_comment hhash hline hopen List.not_mem_nil hrest _).symm
  obtain ⟨hon, hunknown⟩ := Flags.parse_congr hlive
  have hcount : strays s.delimiter (a ++ '#' :: (c ++ rest)) =
      strays s.delimiter c + strays s.delimiter (a ++ '#' :: rest) := by
    have hwith := (flagsBehind_comment (c := c) hline a hrest).2
    have hwithout : strays s.delimiter (a ++ '#' :: rest) = _ :=
      (flagsBehind_comment (c := []) hline a hrest).2
    have hnone : strays s.delimiter [] = 0 := rfl
    omega
  have hkinds : (findings source).kinds = reported ++ (findings bare).kinds := by
    rw [findings_of_split hsource, findings_of_split hbare, Diagnostics.kinds_append,
      Diagnostics.kinds_append, kinds_strayDelimiters, kinds_strayDelimiters, hunknown]
    change List.replicate (strays s.delimiter _) _ ++ _ =
      _ ++ (List.replicate (strays s.delimiter _) _ ++ _)
    rw [hcount, List.replicate_add, List.append_assoc]
  have hlenient : upshot source .lenient = (upshot bare .lenient).behind reported :=
    upshot_lenient hbare hsource (hpattern.trans hpattern₀.symm)
      (hreplacement.trans hreplacement₀.symm) hon hkinds
  refine ⟨hkinds, hlenient, ?_⟩
  rw [upshot_of_split hsource]
  by_cases hzero : strays s.delimiter c = 0
  · have hnone : reported = [] := by rw [List.replicate_eq_nil_iff]; exact hzero
    rw [if_pos hzero, upshot_of_split hbare .strict, hkinds, hlenient, hnone, List.nil_append,
      Upshot.behind_nil]
  · have herror : (findings source).kinds.any (fun kind => kind.severity = .error) = true := by
      rw [hkinds, List.any_append, List.any_replicate, if_neg hzero]
      rfl
    rw [if_neg hzero, herror]
    rfl

end Comment

/-- Comments behind the closing delimiter do nothing but for the delimiters in them. The text behind
the closing delimiter is `a`, at whose end no comment is open, a `#`, the comment `c`, and what
stands from the end of its line on. For `c` any other comment with as many delimiters outside its
backslash pairs can stand, and the two literals compile to the same or fail alike, with diagnostics
of the same kinds. Against an empty comment `c` adds a report for each of its delimiters. That is
all under the lenient policy; the strict policy fails the literal if there is a delimiter in `c`. -/
theorem comment_inert_but_for_delimiters {lead a c c' rest : Text} {s : Segments}
    (hsplit : (splitLiteral (lead ++ (a ++ '#' :: (c ++ rest)))).1 = some s)
    (hoffset : s.flagsOffset = byteLength lead)
    (hhash : s.delimiter ≠ '#') (hline : s.delimiter ≠ '\n')
    (hopen : Flags.endsInComment false a = false) (hc : '\n' ∉ c) (hc' : '\n' ∉ c')
    (hrest : rest = [] ∨ ∃ more, rest = '\n' :: more) :
    let source := lead ++ (a ++ '#' :: (c ++ rest))
    let source' := lead ++ (a ++ '#' :: (c' ++ rest))
    let bare := lead ++ (a ++ '#' :: rest)
    let reported := List.replicate (strays s.delimiter c) DiagnosticKind.delimiterAfterFlags
    (strays s.delimiter c' = strays s.delimiter c → ∀ policy,
      upshot source' policy = upshot source policy ∧
      (findings source').kinds = (findings source).kinds) ∧
    (findings source).kinds = reported ++ (findings bare).kinds ∧
    upshot source .lenient = (upshot bare .lenient).behind reported ∧
    (strays s.delimiter c = 0 → upshot source .strict = upshot bare .strict) ∧
    (strays s.delimiter c ≠ 0 → upshot source .strict = .malformed (findings source).kinds) := by
  intro source source' bare reported
  have htail : a ++ '#' :: (c ++ rest) ≠ [] := by simp
  obtain ⟨hkinds, hlenient, hstrict⟩ :=
    upshot_comment hsplit hoffset htail hhash hline hopen hc hrest
  obtain ⟨hkinds', hlenient', hstrict'⟩ :=
    upshot_comment hsplit hoffset htail hhash hline hopen hc' hrest
  refine ⟨fun hstrays policy => ?_, hkinds, hlenient, fun hnone => ?_, fun hsome => ?_⟩
  · rw [hstrays] at hkinds' hlenient' hstrict'
    have hsame : (findings source').kinds = (findings source).kinds := hkinds'.trans hkinds.symm
    refine ⟨?_, hsame⟩
    cases policy with
    | strict => rw [hstrict', hstrict, hsame]
    | lenient => rw [hlenient', hlenient]
  · rw [hstrict, if_pos hnone]
  · rw [hstrict, if_neg hsome]

/-- Each of the two comments has a delimiter outside its backslash pairs, and the second ends in a
backslash. The flag on the next line is read behind both. -/
theorem comment_inert_but_for_delimiters_lines :
    upshot "s/a/b/ x# \\/ or c/d\\\ng".toList .lenient =
      upshot "s/a/b/ x# from a/b\ng".toList .lenient ∧
    upshot "s/a/b/ x# from a/b\ng".toList .lenient =
      (upshot "s/a/b/ x#\ng".toList .lenient).behind [.delimiterAfterFlags] ∧
    upshot "s/a/b/ x# from a/b\ng".toList .strict = .malformed [.delimiterAfterFlags] ∧
    upshot "s/a/b/ x#\ng".toList .strict =
      .compiled ⟨true, false, false, false, true⟩ ['a'] ['b'] ['a'] [] := by
  have hbare : "s/a/b/ x#\ng".toList =
      "s/a/b/".toList ++ (" x".toList ++ '#' :: "\ng".toList) := by decide
  have hsource : "s/a/b/ x# from a/b\ng".toList =
      "s/a/b/".toList ++ (" x".toList ++ '#' :: (" from a/b".toList ++ "\ng".toList)) := by decide
  have hsource' : "s/a/b/ x# \\/ or c/d\\\ng".toList =
      "s/a/b/".toList ++ (" x".toList ++ '#' :: (" \\/ or c/d\\".toList ++ "\ng".toList)) := by
    decide
  have hsplit : (splitLiteral ("s/a/b/".toList ++
      (" x".toList ++ '#' :: (" from a/b".toList ++ "\ng".toList)))).1 =
      some ⟨.substitution, '/', ['a'], ['b'], " x# from ab\ng".toList, 6, false, false⟩ := by
    decide +kernel
  have hrest : "\ng".toList = [] ∨ ∃ more, "\ng".toList = '\n' :: more := .inr ⟨['g'], rfl⟩
  have hstrays : strays '/' " from a/b".toList = 1 := by decide +kernel
  have hstrays' : strays '/' " \\/ or c/d\\".toList = 1 := by decide +kernel
  have hfound : (findings "s/a/b/ x# from a/b\ng".toList).kinds = [.delimiterAfterFlags] := by
    decide +kernel
  obtain ⟨hsame, -, hlenient, -, hstrict⟩ :=
    @comment_inert_but_for_delimiters _ _ _ " \\/ or c/d\\".toList _ _ hsplit rfl (by decide)
      (by decide) (by decide) (by decide) (by decide) hrest
  rw [← hsource, hfound, hstrays] at hstrict
  rw [← hsource, ← hbare, hstrays] at hlenient
  rw [← hsource, ← hsource', hstrays, hstrays'] at hsame
  exact ⟨(hsame rfl .lenient).1, hlenient, hstrict Nat.one_ne_zero, by cbv⟩

/-- Two comments, of which the strict policy takes the one and refuses the other for its bare
delimiter. -/
theorem delimiter_in_comment_refused :
    upshot "m/a/ # b c".toList .strict = .compiled {} ['a'] [] ['a'] [] ∧
    upshot "m/a/ # b/c".toList .strict = .malformed [.delimiterAfterFlags] := by
  constructor
  · cbv
  · cbv

end RegexLiteral
