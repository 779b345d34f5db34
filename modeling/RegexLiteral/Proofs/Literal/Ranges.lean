import RegexLiteral.Proofs.Literal.Compiling

/-!
# Ranges of diagnostics

A diagnostic has a range of bytes of the literal, and the range covers what the diagnostic names:
the letters without a delimiter, the text from the opening delimiter on, or one delimiter too many
(`range_of_told`). For flags that are not known this holds only up to the first delimiter among the
flags. Delimiters there are dropped before the flags are read, so what stands behind them is
reported too far left, by the bytes of the delimiters dropped before it, and such a range may even
end inside a character (`unknownFlag_covers_nothing`).
-/
namespace RegexLiteral

open CompiledLiteral (finish finish_eq_ok_iff finish_ne_malformed)
open Reading

/-- The bytes of a text from `start` to `stop` are those of the part `t` of it. -/
def Covers (source : Text) (start stop : Nat) (t : Text) : Prop :=
  ∃ u v, source = u ++ t ++ v ∧ byteLength u = start ∧ start + byteLength t = stop

/-- The diagnostics that come of compiling a literal: those kept with it or, if its structure fails
it, those of the error. -/
def told (source : Text) (policy : Policy) : Diagnostics :=
  match compileLiteral source policy with
  | .ok c => c.diagnostics
  | .error (.malformed _ found) => found
  | .error _ => []

/-- The number of delimiters that are reported in the flags before a byte of the literal. -/
def straysBefore (ds : Diagnostics) (place : Nat) : Nat :=
  ds.countP fun x => x.kind = .delimiterAfterFlags && x.start < place

/-- All that is found out about the structure of a literal and about its flags. -/
def findings (source : Text) : Diagnostics :=
  match splitLiteral source with
  | (none, found) => found
  | (some s, found) => found ++ (Flags.parse s.flags s.flagsOffset).2

theorem findings_of_split {source : Text} {s : Segments} {found : Diagnostics}
    (h : splitLiteral source = (some s, found)) :
    findings source = found ++ (Flags.parse s.flags s.flagsOffset).2 := by
  rw [findings, h]

theorem told_eq (source : Text) (policy : Policy) :
    told source policy = [] ∨ told source policy = findings source := by
  cases hsplit : splitLiteral source with
  | mk s found =>
    cases s with
    | none => exact .inr (by rw [told, findings, compileLiteral_of_not_split hsplit, hsplit])
    | some s =>
      rw [findings_of_split hsplit, told, compileLiteral_of_split hsplit]
      dsimp only
      by_cases hheld : Diagnostics.hasErrors (found ++ (Flags.parse s.flags s.flagsOffset).2) &&
          policy = .strict
      · rw [if_pos hheld]
        exact .inr rfl
      · rw [if_neg hheld]
        cases hfinish : finish source s found with
        | ok c =>
          rw [(finish_eq_ok_iff.mp hfinish).1]
          exact .inr rfl
        | error e =>
          cases e with
          | malformed t ds => exact absurd hfinish (finish_ne_malformed t ds)
          | badPattern => exact .inl rfl
          | unsupported => exact .inl rfl

namespace Covers

variable {source t : Text} {start stop : Nat}

theorem start_le (h : Covers source start stop t) : start ≤ stop := by
  obtain ⟨u, v, -, -, rfl⟩ := h
  exact Nat.le_add_right _ _

theorem stop_le (h : Covers source start stop t) : stop ≤ byteLength source := by
  obtain ⟨u, v, rfl, rfl, rfl⟩ := h
  simp

end Covers

section Tokens

variable {d : Char}

/-- A live character stands where it is said to. -/
theorem Flags.exists_of_mem_live {start i : Nat} {c : Char} {inComment : Bool} {t : Text}
    (h : (i, c) ∈ live start inComment t) : ∃ u v, t = u ++ c :: v ∧ i = start + byteLength u := by
  induction t generalizing start inComment with
  | nil => cases h
  | cons x t ih =>
    have hrest {next : Nat} {b : Bool} (hnext : next = start + x.utf8Size)
        (h : (i, c) ∈ live next b t) :
        ∃ u v, x :: t = u ++ c :: v ∧ i = start + byteLength u := by
      obtain ⟨u, v, rfl, rfl⟩ := ih h
      exact ⟨x :: u, v, rfl, by rw [hnext, byteLength_cons, Nat.add_assoc]⟩
    rw [live] at h
    split at h
    · exact hrest rfl h
    · split at h
      · exact hrest rfl h
      · rcases List.mem_cons.mp h with heq | h
        · cases heq
          exact ⟨[], t, rfl, rfl⟩
        · exact hrest rfl h

theorem Flags.exists_of_mem_parse {t : Text} {start : Nat} {x : Diagnostic}
    (h : x ∈ (Flags.parse t start).2) :
    ∃ c u v, t = u ++ c :: v ∧ x = .ofChar .unknownFlag (start + byteLength u) c := by
  simp only [parse, List.mem_map, List.mem_filter] at h
  obtain ⟨⟨i, c⟩, ⟨hlive, -⟩, rfl⟩ := h
  obtain ⟨u, v, htext, rfl⟩ := exists_of_mem_live hlive
  exact ⟨c, u, v, htext, rfl⟩

theorem strayDelimiters_append (d : Char) (start : Nat) (ts us : List Token) :
    strayDelimiters d start (ts ++ us) =
      strayDelimiters d start ts ++
        strayDelimiters d (start + byteLength (Token.textAll d ts)) us := by
  induction ts generalizing start with
  | nil => rfl
  | cons t ts ih =>
    cases t <;> simp [strayDelimiters, ih, Token.text, Nat.add_assoc]

/-- The reported delimiters of a row stand in it, one for each. -/
theorem mem_strayDelimiters {start : Nat} {ts : List Token} {x : Diagnostic}
    (h : x ∈ strayDelimiters d start ts) :
    ∃ us vs, ts = us ++ .delimiter :: vs ∧
      x = .ofChar .delimiterAfterFlags (start + byteLength (Token.textAll d us)) d := by
  induction ts generalizing start with
  | nil => cases h
  | cons t ts ih =>
    have hrest {next : Nat} (hnext : next = start + byteLength (t.text d))
        (h : x ∈ strayDelimiters d next ts) :
        ∃ us vs, t :: ts = us ++ .delimiter :: vs ∧
          x = .ofChar .delimiterAfterFlags (start + byteLength (Token.textAll d us)) d := by
      obtain ⟨us, vs, rfl, rfl⟩ := ih h
      refine ⟨t :: us, vs, rfl, ?_⟩
      rw [hnext, Token.textAll_cons, byteLength_append, Nat.add_assoc]
    cases t with
    | delimiter =>
      rcases List.mem_cons.mp h with rfl | h
      · exact ⟨[], ts, rfl, rfl⟩
      · exact hrest (by simp [Token.text]) h
    | escape c => exact hrest rfl h
    | loneBackslash => exact hrest rfl h
    | plain c => exact hrest rfl h

theorem length_strayDelimiters (d : Char) (start : Nat) (ts : List Token) :
    (strayDelimiters d start ts).length = ts.count .delimiter := by
  induction ts generalizing start with
  | nil => rfl
  | cons t ts ih => cases t <;> simp [strayDelimiters, ih]

/-- The delimiters reported before a byte are those of the tokens before it. -/
theorem straysBefore_strayDelimiters {start place : Nat} {us vs : List Token}
    (hus : start + byteLength (Token.textAll d us) ≤ place)
    (hvs : ∀ x ∈ strayDelimiters d (start + byteLength (Token.textAll d us)) vs, place ≤ x.start) :
    straysBefore (strayDelimiters d start (us ++ vs)) place = us.count .delimiter := by
  have hfirst : straysBefore (strayDelimiters d start us) place = us.count .delimiter := by
    rw [straysBefore, List.countP_eq_length.mpr, length_strayDelimiters]
    intro x hx
    obtain ⟨ws, ws', rfl, rfl⟩ := mem_strayDelimiters hx
    have hlt : start + byteLength (Token.textAll d ws) < place := by
      have hpos := d.utf8Size_pos
      simp only [Token.textAll_append, Token.textAll_cons, byteLength_append, Token.text,
        byteLength_cons, byteLength_nil] at hus
      omega
    rw [Bool.and_eq_true, decide_eq_true_eq, decide_eq_true_eq]
    exact ⟨rfl, hlt⟩
  have hlast : straysBefore (strayDelimiters d (start + byteLength (Token.textAll d us)) vs)
      place = 0 := by
    rw [straysBefore, List.countP_eq_zero]
    intro x hx
    simp [hvs x hx]
  rw [strayDelimiters_append, straysBefore, List.countP_append]
  change straysBefore _ _ + straysBefore _ _ = _
  rw [hfirst, hlast, Nat.add_zero]

/-- The flags are shorter than their tokens by the delimiters, which are dropped. -/
theorem byteLength_textAll (d : Char) (ts : List Token) :
    byteLength (Token.textAll d ts) =
      byteLength (ts.flatMap (flagsText d)) + ts.count .delimiter * d.utf8Size := by
  induction ts with
  | nil => simp
  | cons t ts ih =>
    cases t <;> simp [flagsText, Token.text, ih, Nat.add_mul] <;> omega

/-- A character of the flags stands in a token that is no delimiter. -/
theorem exists_token_of_flags {ts : List Token} {u v : Text} {c : Char}
    (h : ts.flatMap (flagsText d) = u ++ c :: v) :
    ∃ us t vs p q, ts = us ++ t :: vs ∧ t ≠ .delimiter ∧ t.text d = p ++ c :: q ∧
      u = us.flatMap (flagsText d) ++ p := by
  induction ts generalizing u with
  | nil => simp at h
  | cons t ts ih =>
    rw [List.flatMap_cons] at h
    rcases List.append_eq_append_iff.mp h with ⟨a, rfl, htail⟩ | ⟨a, htext, hrest⟩
    · obtain ⟨us, t', vs, p, q, rfl, hne, htext, rfl⟩ := ih htail
      exact ⟨t :: us, t', vs, p, q, rfl, hne, htext, by simp⟩
    · cases a with
      | nil =>
        obtain ⟨us, t', vs, p, q, rfl, hne, htext', hnil⟩ := ih (u := []) hrest.symm
        refine ⟨t :: us, t', vs, p, q, rfl, hne, htext', ?_⟩
        rw [List.flatMap_cons, List.append_assoc, ← hnil, htext]
        simp
      | cons x a =>
        obtain ⟨rfl, -⟩ := List.cons.inj hrest
        have hne : t ≠ .delimiter := by
          rintro rfl
          simp [flagsText] at htext
        have hflags : flagsText d t = t.text d := by
          cases t with
          | delimiter => exact absurd rfl hne
          | escape | loneBackslash | plain => rfl
        exact ⟨[], t, ts, u, a, rfl, hne, hflags ▸ htext, rfl⟩

end Tokens

section Body

variable {mode : Mode} {letters body : Text} {d : Char} {x : Diagnostic}

/-- Where the flags of a body stand in it. -/
theorem exists_before_flags (mode : Mode) (letters : Text) (d : Char) (body : Text) :
    ∃ before,
      body = Token.textAll d (before ++ (rows mode (Token.read d body)).flags.getD []) ∧
      (segments mode letters d body).flagsOffset =
        byteLength (letters ++ d :: Token.textAll d before) := by
  refine ⟨_, ?_, rfl⟩
  rw [take_append_flags, Token.text_read]

/-- What splitting finds is about the end of the literal or about a delimiter in its flags. -/
theorem range_of_mem_diagnostics (h : x ∈ diagnostics mode letters d body) :
    (x.kind = .unterminatedLiteral ∧ Covers (letters ++ d :: body) x.start x.stop (d :: body) ∧
      x.stop = byteLength (letters ++ d :: body)) ∨
    (x.kind = .delimiterAfterFlags ∧ Covers (letters ++ d :: body) x.start x.stop [d]) := by
  obtain ⟨before, hbody, hoffset⟩ := exists_before_flags mode letters d body
  unfold diagnostics at h
  dsimp only at h
  cases hflags : (rows mode (Token.read d body)).flags with
  | none =>
    rw [hflags] at h
    dsimp only at h
    split at h
    · cases h
    · rw [List.mem_singleton.mp h]
      exact .inl ⟨rfl, ⟨letters, [], by simp, rfl, by simp [Diagnostic.of]⟩, rfl⟩
  | some tail =>
    rw [hflags] at h hbody
    obtain ⟨us, vs, rfl, rfl⟩ := mem_strayDelimiters h
    refine .inr ⟨rfl, letters ++ d :: Token.textAll d (before ++ us), Token.textAll d vs,
      ?_, ?_, ?_⟩
    · rw [hbody]
      simp [Token.text]
    · simp [Diagnostic.ofChar, Diagnostic.of, hoffset, Nat.add_assoc]
    · simp [Diagnostic.ofChar, Diagnostic.of]

/-- The delimiters reported before a character of the flags are those of the tokens before the one
that the character stands in. -/
theorem straysBefore_of_token {start : Nat} {us vs : List Token} {t : Token} {c : Char}
    {p q : Text} (ht : t ≠ .delimiter) (htext : t.text d = p ++ c :: q) :
    straysBefore (strayDelimiters d start (us ++ t :: vs))
      (start + byteLength (Token.textAll d us) + byteLength p) = us.count .delimiter := by
  refine straysBefore_strayDelimiters (Nat.le_add_right _ _) fun x hx => ?_
  obtain ⟨ws, ws', hrow, rfl⟩ := mem_strayDelimiters hx
  cases ws with
  | nil => exact absurd (List.cons.inj hrow).1 ht
  | cons t' ws =>
    obtain ⟨rfl, -⟩ := List.cons.inj hrow
    simp only [Diagnostic.ofChar, Diagnostic.of, Token.textAll_cons, byteLength_append, htext]
    omega

/-- An unknown flag stands behind the byte it is reported at by the delimiters that were dropped
before it. -/
theorem range_of_mem_parse (h : x ∈ (Flags.parse (segments mode letters d body).flags
      (segments mode letters d body).flagsOffset).2) :
    ∃ c u v, x = .ofChar .unknownFlag x.start c ∧ letters ++ d :: body = u ++ c :: v ∧
      x.start + straysBefore (diagnostics mode letters d body) (byteLength u) * d.utf8Size =
        byteLength u := by
  obtain ⟨c, w, w', hflags, rfl⟩ := Flags.exists_of_mem_parse h
  obtain ⟨before, hbody, hoffset⟩ := exists_before_flags mode letters d body
  obtain ⟨us, t, vs, p, q, htail, ht, htext, rfl⟩ := exists_token_of_flags hflags
  have hsome : (rows mode (Token.read d body)).flags = some (us ++ t :: vs) := by
    cases hrow : (rows mode (Token.read d body)).flags with
    | none =>
      rw [hrow] at htail
      simp at htail
    | some tail =>
      rw [hrow] at htail
      exact congrArg some htail
  have hbytes := byteLength_textAll d us
  have hplace : byteLength (letters ++ d :: Token.textAll d (before ++ us) ++ p) =
      (segments mode letters d body).flagsOffset + byteLength (Token.textAll d us) +
        byteLength p := by
    rw [hoffset]
    simp [Nat.add_assoc]
  refine ⟨c, letters ++ d :: Token.textAll d (before ++ us) ++ p, q ++ Token.textAll d vs, rfl,
    ?_, ?_⟩
  · rw [hbody, htail]
    simp [htext]
  · rw [hplace, diagnostics]
    rw [hsome, straysBefore_of_token ht htext]
    simp only [Diagnostic.ofChar, Diagnostic.of, byteLength_append]
    omega

end Body

/-- What the range of a diagnostic is, by its kind, among the diagnostics `ds` of a literal. It
covers what the diagnostic is about. Only an unknown flag can stand further right than its range, by
the delimiters that are reported in the flags before it. -/
def RangeFits (source : Text) (ds : Diagnostics) (x : Diagnostic) : Prop :=
  match x.kind with
  | .emptyLiteral => source = []
  | .missingDelimiter =>
    (Opening.read source).letters = source ∧ Covers source x.start x.stop source
  | .unterminatedLiteral =>
    Covers source x.start x.stop (Opening.read source).rest ∧ x.stop = byteLength source
  | .delimiterAfterFlags =>
    ∃ d ∈ (Opening.read source).rest.head?, Covers source x.start x.stop [d]
  | .unknownFlag =>
    ∃ d ∈ (Opening.read source).rest.head?, ∃ c u v,
      x = .ofChar .unknownFlag x.start c ∧ source = u ++ c :: v ∧
      x.start + straysBefore ds (byteLength u) * d.utf8Size = byteLength u ∧
      (straysBefore ds (byteLength u) = 0 → Covers source x.start x.stop [c])

theorem findings_of_nil {source : Text} (h : (Opening.read source).rest = []) :
    (Opening.read source).letters = source ∧
    findings source =
      [if source.isEmpty then .of .emptyLiteral 0 0 none
        else .of .missingDelimiter 0 (byteLength source) none] := by
  have hletters := letters_append_rest source
  rw [h, List.append_nil] at hletters
  refine ⟨hletters, ?_⟩
  unfold findings splitLiteral
  simp only [h, hletters]
  cases source.isEmpty <;> rfl

theorem findings_of_rest {source body : Text} {d : Char}
    (h : (Opening.read source).rest = d :: body) :
    findings source =
      let s := segments (Opening.read source).mode (Opening.read source).letters d body
      diagnostics (Opening.read source).mode (Opening.read source).letters d body ++
        (Flags.parse s.flags s.flagsOffset).2 :=
  findings_of_split (splitLiteral_of_rest h)

/-- Unknown flags are no delimiters. -/
theorem straysBefore_append_parse (ds : Diagnostics) (flags : Text) (start place : Nat) :
    straysBefore (ds ++ (Flags.parse flags start).2) place = straysBefore ds place := by
  have hzero : straysBefore (Flags.parse flags start).2 place = 0 := by
    rw [straysBefore, List.countP_eq_zero]
    intro x hx
    obtain ⟨c, u, v, -, rfl⟩ := Flags.exists_of_mem_parse hx
    simp [Diagnostic.ofChar, Diagnostic.of]
  rw [straysBefore, List.countP_append]
  exact (congrArg (straysBefore ds place + ·) hzero).trans (Nat.add_zero _)

/-- Where the findings about a literal stand in it. -/
theorem range_of_mem_findings {source : Text} {x : Diagnostic} (h : x ∈ findings source) :
    x.start ≤ x.stop ∧ x.stop ≤ byteLength source ∧ RangeFits source (findings source) x := by
  cases hrest : (Opening.read source).rest with
  | nil =>
    obtain ⟨hletters, hfindings⟩ := findings_of_nil hrest
    rw [hfindings, List.mem_singleton] at h
    subst h
    cases source with
    | nil => exact ⟨Nat.le_refl _, Nat.le_refl _, rfl⟩
    | cons c source =>
      exact ⟨Nat.zero_le _, Nat.le_refl _, hletters, [], [], by simp, rfl, by simp [Diagnostic.of]⟩
  | cons d body =>
    have hsource := letters_append_rest source
    rw [hrest] at hsource
    have hhead : d ∈ (Opening.read source).rest.head? := by rw [hrest]; rfl
    have hcovered {t : Text} (ht : Covers source x.start x.stop t)
        (hfits : RangeFits source (findings source) x) :
        x.start ≤ x.stop ∧ x.stop ≤ byteLength source ∧ RangeFits source (findings source) x :=
      ⟨ht.start_le, ht.stop_le, hfits⟩
    have hfindings := findings_of_rest hrest
    rw [hfindings] at h
    rcases List.mem_append.mp h with h | h
    · rcases range_of_mem_diagnostics h with ⟨hkind, hcovers, hstop⟩ | ⟨hkind, hcovers⟩
      · rw [hsource] at hcovers hstop
        refine hcovered hcovers ?_
        rw [RangeFits, hkind, hrest]
        exact ⟨hcovers, hstop⟩
      · rw [hsource] at hcovers
        refine hcovered hcovers ?_
        rw [RangeFits, hkind]
        exact ⟨d, hhead, hcovers⟩
    · obtain ⟨c, u, v, hx, hplace, hstart⟩ := range_of_mem_parse h
      rw [hsource] at hplace
      have hstop : x.stop = x.start + c.utf8Size := by rw [hx]; rfl
      have hkind : x.kind = .unknownFlag := by rw [hx]; rfl
      have hsize := congrArg byteLength hplace
      rw [byteLength_append, byteLength_cons] at hsize
      have hstrays := straysBefore_append_parse
        (diagnostics (Opening.read source).mode (Opening.read source).letters d body)
        (segments (Opening.read source).mode (Opening.read source).letters d body).flags
        (segments (Opening.read source).mode (Opening.read source).letters d body).flagsOffset
        (byteLength u)
      rw [← hstrays] at hstart
      rw [RangeFits, hkind, hfindings]
      refine ⟨by omega, by omega, d, hhead, c, u, v, hx, hplace, hstart, fun hzero => ?_⟩
      rw [hzero, Nat.zero_mul, Nat.add_zero] at hstart
      exact ⟨u, v, by simp [hplace], hstart.symm, by simp [hstop]⟩

/-- Every diagnostic that comes of compiling a literal has a range within the literal, and the range
covers what the diagnostic names: for a missing delimiter the letters, for a missing end the
text from the opening delimiter on, for a delimiter in the flags that delimiter. An unknown flag
stands where its range says if no delimiter is reported in the flags before it, and else further
right by these delimiters, which were dropped before the flags were read. -/
theorem range_of_told {source : Text} {policy : Policy} {x : Diagnostic}
    (hx : x ∈ told source policy) :
    x.start ≤ x.stop ∧ x.stop ≤ byteLength source ∧
      RangeFits source (told source policy) x := by
  rcases told_eq source policy with hnil | hall
  · rw [hnil] at hx
    cases hx
  · rw [hall] at hx ⊢
    exact range_of_mem_findings hx

/-- Behind a delimiter among the flags stands one that is not known, and it is reported a byte too
far left. -/
theorem range_of_told_behind_delimiter :
    let x : Diagnostic := .ofChar .unknownFlag 4 'q'
    x ∈ told "m/a//q".toList .strict ∧ x.start ≤ x.stop ∧ x.stop ≤ byteLength "m/a//q".toList ∧
      RangeFits "m/a//q".toList (told "m/a//q".toList .strict) x := by
  have hx : Diagnostic.ofChar .unknownFlag 4 'q' ∈ told "m/a//q".toList .strict := by decide +kernel
  exact ⟨hx, range_of_told hx⟩

/-- The range of an unknown flag can even end inside a character, so that it covers no text. -/
theorem unknownFlag_covers_nothing :
    let x : Diagnostic := .ofChar .unknownFlag 4 'é'
    x ∈ told "m/a//é".toList .strict ∧
      ∀ t, ¬Covers "m/a//é".toList x.start x.stop t := by
  refine ⟨by decide +kernel, ?_⟩
  rintro t ⟨u, v, hsource, hstart, hstop⟩
  have htake : "m/a//é".toList.take (u ++ t).length = u ++ t := by rw [hsource, List.take_left]
  have hlength : (u ++ t).length < 7 := by
    have h := congrArg List.length hsource
    simp at h ⊢
    omega
  have hbytes : byteLength ("m/a//é".toList.take (u ++ t).length) = 6 := by
    rw [htake, byteLength_append, hstart, hstop]
    rfl
  have hnone : ∀ n < 7, byteLength ("m/a//é".toList.take n) ≠ 6 := by decide
  exact hnone _ hlength hbytes

end RegexLiteral
