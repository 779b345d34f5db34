import RegexLiteral.Proofs.Literal.Writing

/-!
# What is odd about a literal

What splitting finds to be odd about a literal can be told from its letters and from the delimiters
behind the opening one, without a scan (`anomalies`). There is nothing to split in an empty literal
and in bare letters. Any other literal is split; if it has too few delimiters it ends too early, and
if it has too many each one that it does not take is reported where it stands. Main statement:
splitting finds this and nothing else, so a literal has at most one of the two faults
(`splitLiteral_anomalies`).
-/
namespace RegexLiteral

namespace Reading

/-- The letters that say what a literal is for, each alone. -/
def bareLetters : List Text := [['m'], ['s'], ['t'], ['t', 'r']]

/-- The bytes at which the delimiters of a row stand; `start` is the byte of the first token. -/
def delimiterPlaces (d : Char) (start : Nat) : List Token → List Nat
  | [] => []
  | .delimiter :: rest => start :: delimiterPlaces d (start + d.utf8Size) rest
  | t :: rest => delimiterPlaces d (start + byteLength (t.text d)) rest

/-- The number of delimiters behind the opening one that a literal takes. -/
def delimitersTaken (mode : Mode) : Nat := if mode.hasReplacement then 2 else 1

/-- Whether a body ends too early: it has no delimiter, or it has one of the two that it takes and
does not end in it. -/
def endsEarly (mode : Mode) (tokens : List Token) : Bool :=
  tokens.count .delimiter = 0 ||
    mode.hasReplacement && tokens.count .delimiter = 1 && tokens.getLast? ≠ some .delimiter

/-- What is odd about a body behind letters and a delimiter. -/
def anomalies (mode : Mode) (letters : Text) (d : Char) (body : Text) : Diagnostics :=
  let tokens := Token.read d body
  if endsEarly mode tokens then
    [.of .unterminatedLiteral (byteLength letters) (byteLength (letters ++ d :: body))
      (some d.toString)]
  else
    let places := delimiterPlaces d (byteLength (letters ++ [d])) tokens
    (places.drop (delimitersTaken mode)).map fun i => .ofChar .delimiterAfterFlags i d

variable {d : Char} {mode : Mode} {tokens tail : List Token}

theorem delimiterPlaces_append (d : Char) (start : Nat) (ts us : List Token) :
    delimiterPlaces d start (ts ++ us) =
      delimiterPlaces d start ts ++
        delimiterPlaces d (start + byteLength (Token.textAll d ts)) us := by
  induction ts generalizing start with
  | nil => rfl
  | cons t ts ih =>
    cases t <;> simp [delimiterPlaces, ih, Token.text, Nat.add_assoc]

theorem length_delimiterPlaces (d : Char) (start : Nat) (ts : List Token) :
    (delimiterPlaces d start ts).length = ts.count .delimiter := by
  induction ts generalizing start with
  | nil => rfl
  | cons t ts ih => cases t <;> simp [delimiterPlaces, ih]

/-- The delimiters in the flags are reported where they stand. -/
theorem strayDelimiters_eq_map (d : Char) (start : Nat) (ts : List Token) :
    strayDelimiters d start ts =
      (delimiterPlaces d start ts).map fun i => .ofChar .delimiterAfterFlags i d := by
  induction ts generalizing start with
  | nil => rfl
  | cons t ts ih => cases t <;> simp [strayDelimiters, delimiterPlaces, ih]

theorem eq_of_cut_none {ts row : List Token} (h : Token.cut ts = (row, none)) : ts = row := by
  induction ts generalizing row with
  | nil =>
    cases h
    rfl
  | cons t ts ih =>
    have ht : t ≠ .delimiter := by
      rintro rfl
      cases h
    rw [cut_cons ht, Prod.mk.injEq] at h
    rw [ih (Prod.ext rfl h.2), h.1]

theorem count_cut (ts : List Token) : (Token.cut ts).1.count .delimiter = 0 :=
  List.count_eq_zero.mpr (delimiter_notMem_cut ts)

/-- A body that reaches its flags has the delimiters that it takes before them. -/
theorem count_of_rows (h : (rows mode tokens).flags = some tail) :
    tokens.count .delimiter = delimitersTaken mode + tail.count .delimiter := by
  have hpattern := List.count_eq_zero.mpr (delimiter_notMem_pattern mode tokens)
  have hreplacement := List.count_eq_zero.mpr (delimiter_notMem_replacement mode tokens)
  have hcount := congrArg (List.count .delimiter) (eq_of_rows h)
  unfold delimitersTaken
  cases hm : mode.hasReplacement with
  | false =>
    simp only [hm, Bool.false_eq_true, ↓reduceIte, List.count_append, hpattern,
      List.count_cons_self] at hcount ⊢
    omega
  | true =>
    simp only [hm, ↓reduceIte, List.count_append, hpattern, hreplacement,
      List.count_cons_self] at hcount ⊢
    omega

/-- A body that does not reach its flags has no delimiter, or one of the two that it takes. -/
theorem count_of_rows_none (h : (rows mode tokens).flags = none) :
    tokens.count .delimiter = 0 ∨ mode.hasReplacement ∧ tokens.count .delimiter = 1 := by
  have hrow := count_cut tokens
  cases hcut : Token.cut tokens with
  | mk row rest =>
    rw [hcut] at hrow
    cases rest with
    | none => exact .inl (eq_of_cut_none hcut ▸ hrow)
    | some rest =>
      cases hm : mode.hasReplacement with
      | false => simp [rows, hcut, hm] at h
      | true =>
        have hnone : (Token.cut rest).2 = none := by simpa [rows, hcut, hm] using h
        have hrest : rest.count .delimiter = 0 := by
          rw [eq_of_cut_none (Prod.ext rfl hnone)]
          exact count_cut rest
        refine .inr ⟨rfl, ?_⟩
        rw [eq_of_cut hcut, List.count_append, List.count_cons_self, hrow, hrest]

theorem count_lt_of_rows_none (h : (rows mode tokens).flags = none) :
    tokens.count .delimiter < delimitersTaken mode := by
  unfold delimitersTaken
  rcases count_of_rows_none h with hzero | ⟨hm, hone⟩
  · split <;> omega
  · rw [if_pos hm, hone]
    exact Nat.one_lt_two

/-- The flags are reached if and only if the delimiters suffice, except that a body may end in the
delimiter behind its pattern. -/
theorem endsEarly_of_rows (h : (rows mode tokens).flags = some tail) :
    endsEarly mode tokens = false := by
  have hcount := count_of_rows h
  unfold delimitersTaken at hcount
  cases hm : mode.hasReplacement with
  | false =>
    simp only [hm, Bool.false_eq_true, ↓reduceIte] at hcount
    simp [endsEarly, hm, hcount]
  | true =>
    simp only [hm, ↓reduceIte] at hcount
    simp [endsEarly, hcount]
    omega

theorem endsEarly_of_rows_none (h : (rows mode tokens).flags = none) :
    endsEarly mode tokens = decide (tokens.getLast? ≠ some .delimiter) := by
  by_cases hlast : tokens.getLast? = some .delimiter
  · have hpos := List.count_pos_iff.mpr (List.mem_of_getLast? hlast)
    have hne : tokens.count .delimiter ≠ 0 := by omega
    simp [endsEarly, hlast, hne]
  · rcases count_of_rows_none h with hzero | ⟨hm, hone⟩
    · simp [endsEarly, hzero, hlast]
    · simp [endsEarly, hm, hone, hlast]

/-- The delimiters that a body does not take are those in its flags. -/
theorem drop_delimiterPlaces {start : Nat} (h : (rows mode tokens).flags = some tail) :
    (delimiterPlaces d start tokens).drop (delimitersTaken mode) =
      delimiterPlaces d
        (start + byteLength (Token.textAll d (tokens.take (tokens.length - tail.length))))
        tail := by
  have htokens := take_append_flags mode tokens
  rw [h, Option.getD_some] at htokens
  have hcount := count_of_rows h
  generalize tokens.take (tokens.length - tail.length) = before at htokens ⊢
  subst htokens
  rw [List.count_append] at hcount
  rw [delimiterPlaces_append, List.drop_left']
  rw [length_delimiterPlaces]
  omega

/-- What splitting finds to be odd is what the delimiters tell. -/
theorem diagnostics_eq_anomalies (mode : Mode) (letters : Text) (d : Char) (body : Text) :
    diagnostics mode letters d body = anomalies mode letters d body := by
  unfold diagnostics anomalies
  dsimp only
  cases hflags : (rows mode (Token.read d body)).flags with
  | some tail =>
    have hoffset : (segments mode letters d body).flagsOffset =
        byteLength (letters ++ [d]) + byteLength (Token.textAll d
          ((Token.read d body).take ((Token.read d body).length - tail.length))) := by
      simp [segments, hflags, Nat.add_assoc]
    rw [endsEarly_of_rows hflags, drop_delimiterPlaces hflags, ← hoffset]
    exact strayDelimiters_eq_map d _ tail
  | none =>
    rw [endsEarly_of_rows_none hflags]
    by_cases hlast : (Token.read d body).getLast? = some .delimiter
    · have hfew : (delimiterPlaces d (byteLength (letters ++ [d])) (Token.read d body)).length ≤
          delimitersTaken mode := by
        rw [length_delimiterPlaces]
        exact Nat.le_of_lt (count_lt_of_rows_none hflags)
      rw [List.drop_eq_nil_of_le hfew]
      simp [hlast]
    · simp [hlast]

/-- A body that ends too early has no delimiter in its flags. -/
theorem kind_of_mem_anomalies {letters body : Text} {x : Diagnostic}
    (h : x ∈ anomalies mode letters d body) :
    x.kind = if endsEarly mode (Token.read d body) then .unterminatedLiteral
      else .delimiterAfterFlags := by
  unfold anomalies at h
  dsimp only at h
  split at h
  · rename_i hearly
    rw [List.mem_singleton.mp h, if_pos hearly]
    rfl
  · rename_i hearly
    obtain ⟨i, -, rfl⟩ := List.mem_map.mp h
    rw [if_neg hearly]
    rfl

end Reading

open Reading

/-- A literal that is its letters alone is empty or one of the bare ones. -/
theorem rest_eq_nil_iff {source : Text} :
    (Opening.read source).rest = [] ↔ source = [] ∨ source ∈ bareLetters := by
  constructor
  · intro h
    have hsource := letters_append_rest source
    rw [h, List.append_nil] at hsource
    have hmem := List.mem_of_find?_eq_some (find?_prefixes source)
    rw [hsource] at hmem
    simp only [prefixes, bareLetters, List.mem_cons, Prod.mk.injEq, List.not_mem_nil,
      or_false] at hmem ⊢
    tauto
  · intro h
    simp only [bareLetters, List.mem_cons, List.not_mem_nil, or_false] at h
    rcases h with rfl | rfl | rfl | rfl | rfl <;> rfl

theorem splitLiteral_empty : splitLiteral [] = (none, [.of .emptyLiteral 0 0 none]) := rfl

theorem splitLiteral_of_bare {source : Text} (h : source ∈ bareLetters) :
    splitLiteral source = (none, [.of .missingDelimiter 0 (byteLength source) none]) := by
  simp only [bareLetters, List.mem_cons, List.not_mem_nil, or_false] at h
  rcases h with rfl | rfl | rfl | rfl <;> rfl

/-- What splitting answers to a literal is told by its letters and its delimiters. An empty literal
and bare letters are not split, each with a diagnostic of its own. Any other literal is split, and
what is odd about it is that it ends too early or that it has delimiters which it does not take, but
not both. -/
theorem splitLiteral_anomalies (source : Text) :
    (splitLiteral source = (none, [.of .emptyLiteral 0 0 none]) ↔ source = []) ∧
    (splitLiteral source = (none, [.of .missingDelimiter 0 (byteLength source) none]) ↔
      source ∈ bareLetters) ∧
    ((∃ letters mode d body s,
        prefixes.find? (fun p => p.1.isPrefixOf source) = some (letters, mode) ∧
        source = letters ++ d :: body ∧
        splitLiteral source = (some s, anomalies mode letters d body)) ↔
      source ≠ [] ∧ source ∉ bareLetters) ∧
    ¬∃ x ∈ (splitLiteral source).2, ∃ y ∈ (splitLiteral source).2,
      x.kind = .unterminatedLiteral ∧ y.kind = .delimiterAfterFlags := by
  cases hrest : (Opening.read source).rest with
  | nil =>
    rcases rest_eq_nil_iff.mp hrest with rfl | hbare
    · simp [splitLiteral_empty, bareLetters, Diagnostic.of]
    · have hne : source ≠ [] := by
        rintro rfl
        exact absurd hbare (by decide)
      simp [splitLiteral_of_bare hbare, hbare, hne, Diagnostic.of]
  | cons d body =>
    have hopen : ¬(source = [] ∨ source ∈ bareLetters) := fun h => by
      rw [rest_eq_nil_iff.mpr h] at hrest
      cases hrest
    rw [not_or] at hopen
    have hsplit := splitLiteral_of_rest hrest
    rw [diagnostics_eq_anomalies] at hsplit
    have hsource := letters_append_rest source
    rw [hrest] at hsource
    refine ⟨by simp [hsplit, hopen.1], by simp [hsplit, hopen.2], iff_of_true ?_ hopen, ?_⟩
    · exact ⟨_, _, d, body, _, find?_prefixes source, hsource.symm, hsplit⟩
    · rintro ⟨x, hx, y, hy, hxkind, hykind⟩
      rw [hsplit] at hx hy
      rw [kind_of_mem_anomalies hx] at hxkind
      rw [kind_of_mem_anomalies hy] at hykind
      rw [hxkind] at hykind
      cases hykind

end RegexLiteral
