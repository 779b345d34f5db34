import RegexLiteral.Proofs.Literal.Comments

/-!
# Live characters of flags

Which flags are on and what is odd about a text of flags is told by its live characters, and
whether a character is live is told by the text before it: a comment starts at a `#` that is in no
comment and runs through the next line feed (`Flags.InComment`). Flags can be read in one pass,
which keeps in mind whether a comment is open and adds what it finds to what was found before
(`Flags.pass`). Main statement: the flags that are on are those whose letters are live, and a
warning names each other live character, white space and the `#` of a comment apart, at its own
bytes (`Flags.parse_shows_live`). Neither the order of live letters nor how often they occur plays a
part, and the letters of flags are read as these flags.
-/
namespace RegexLiteral

namespace Flags

/-- Whether place `i` of a text is in a comment. A comment starts at a `#` that is in none and runs
through the next line feed. -/
def InComment (t : Text) (i : Nat) : Prop :=
  ∃ j, ∃ _ : j < i, t[j]? = some '#' ∧ ¬ InComment t j ∧ ∀ k, j < k → k < i → t[k]? ≠ some '\n'

/-- Whether a character stands in a text outside comments. -/
def OccursLive (t : Text) (c : Char) : Prop := ∃ i, t[i]? = some c ∧ ¬ InComment t i

/-- Exactly those flags are on whose letters are live in a text. -/
structure Shows (t : Text) (f : Flags) : Prop where
  global : f.global ↔ OccursLive t 'g'
  ignoreCase : f.ignoreCase ↔ OccursLive t 'i'
  multiLine : f.multiLine ↔ OccursLive t 'm'
  dotMatchesNewLine : f.dotMatchesNewLine ↔ OccursLive t 's'
  extended : f.extended ↔ OccursLive t 'x'

section Places

variable {t : Text}

theorem inComment_iff (t : Text) (i : Nat) : InComment t i ↔
    ∃ j < i, t[j]? = some '#' ∧ ¬ InComment t j ∧ ∀ k, j < k → k < i → t[k]? ≠ some '\n' := by
  rw [InComment]
  simp only [exists_prop]

/-- A comment goes on behind each character but a line feed, and a `#` outside opens one. -/
theorem inComment_succ (t : Text) (i : Nat) : InComment t (i + 1) ↔
    (InComment t i ∧ t[i]? ≠ some '\n') ∨ (¬ InComment t i ∧ t[i]? = some '#') := by
  constructor
  · intro h
    obtain ⟨j, hj, hhash, hlive, hline⟩ := (inComment_iff t (i + 1)).mp h
    rcases Nat.lt_succ_iff_lt_or_eq.mp hj with hlt | rfl
    · refine .inl ⟨(inComment_iff t i).mpr ⟨j, hlt, hhash, hlive, ?_⟩, hline i hlt (by omega)⟩
      intro k hjk hki
      exact hline k hjk (by omega)
    · exact .inr ⟨hlive, hhash⟩
  · rintro (⟨hin, hnext⟩ | ⟨hlive, hhash⟩)
    · obtain ⟨j, hj, hhash, hlive, hline⟩ := (inComment_iff t i).mp hin
      refine (inComment_iff t (i + 1)).mpr ⟨j, by omega, hhash, hlive, ?_⟩
      intro k hjk hki
      rcases Nat.lt_succ_iff_lt_or_eq.mp hki with hlt | rfl
      · exact hline k hjk hlt
      · exact hnext
    · refine (inComment_iff t (i + 1)).mpr ⟨i, by omega, hhash, hlive, ?_⟩
      intro k hik hki
      omega

/-- A place is in a comment if one is open at the end of the text before it. -/
theorem inComment_iff_endsInComment (t : Text) (i : Nat) :
    InComment t i ↔ endsInComment false (t.take i) = true := by
  induction i with
  | zero =>
    rw [inComment_iff]
    simp [endsInComment]
  | succ i ih =>
    rw [inComment_succ, ih, List.take_add_one, endsInComment_append]
    cases t[i]? with
    | none => simp [endsInComment]
    | some c => cases endsInComment false (t.take i) <;> simp [endsInComment]

instance (t : Text) (i : Nat) : Decidable (InComment t i) :=
  decidable_of_iff _ (inComment_iff_endsInComment t i).symm

theorem occursLive_iff (t : Text) (c : Char) :
    OccursLive t c ↔ ∃ p ∈ t.zipIdx, p.1 = c ∧ ¬ InComment t p.2 := by
  constructor
  · rintro ⟨i, hi, hlive⟩
    exact ⟨(c, i), List.mem_zipIdx_iff_getElem?.mpr hi, rfl, hlive⟩
  · rintro ⟨⟨c, i⟩, hp, rfl, hlive⟩
    exact ⟨i, List.mem_zipIdx_iff_getElem?.mp hp, hlive⟩

instance (t : Text) (c : Char) : Decidable (OccursLive t c) :=
  decidable_of_iff _ (occursLive_iff t c).symm

/-- What is read as live, by places. The `#` of a comment is passed over, though it is live. -/
theorem live_eq (t : Text) (start : Nat) :
    live start false t = (t.zipIdx.filter fun p => ¬ InComment t p.2 ∧ p.1 ≠ '#').map
      fun p => (start + byteLength (t.take p.2), p.1) := by
  induction t using List.reverseRecOn with
  | nil => rfl
  | append_singleton t c ih =>
    -- A place is told by the text before it, so a last character changes nothing for the others.
    have hplace (p : Char × Nat) (hp : p ∈ t.zipIdx) : (t ++ [c]).take p.2 = t.take p.2 :=
      List.take_append_of_le_length (Nat.le_of_lt (List.snd_lt_of_mem_zipIdx hp))
    have hkept : (t.zipIdx.filter fun p => ¬ InComment (t ++ [c]) p.2 ∧ p.1 ≠ '#') =
        t.zipIdx.filter fun p => ¬ InComment t p.2 ∧ p.1 ≠ '#' := by
      refine List.filter_congr fun p hp => ?_
      simp only [inComment_iff_endsInComment, hplace p hp]
    have hlast : InComment (t ++ [c]) t.length ↔ endsInComment false t = true := by
      rw [inComment_iff_endsInComment, List.take_left]
    rw [live_append, ih, List.zipIdx_append, List.filter_append, List.map_append, hkept]
    congr 1
    · refine List.map_congr_left fun p hp => ?_
      rw [hplace p (List.mem_of_mem_filter hp)]
    · cases hends : endsInComment false t <;> by_cases hc : c = '#' <;>
        simp [live, hlast, hends, hc]

end Places

/-- What is odd about a text that starts at byte `start`: each live character that is no flag, no
`#` and no white space is named by a warning at its own bytes. -/
def warnings (t : Text) (start : Nat) : Diagnostics :=
  let odd := t.zipIdx.filter fun p =>
    ¬ InComment t p.2 ∧ p.1 ∉ ['g', 'i', 'm', 's', 'x'] ∧ p.1 ≠ '#' ∧ ¬ isBlank p.1
  odd.map fun p =>
    { kind := .unknownFlag
      start := start + byteLength (t.take p.2)
      stop := start + byteLength (t.take p.2) + p.1.utf8Size
      message := "unknown flag `" ++ p.1.toString ++ "` ignored" }

section Parsing

variable {t t' : Text} {f f' : Flags}

theorem any_live (t : Text) (start : Nat) {letter : Char} (hletter : letter ≠ '#') :
    ((live start false t).any fun p => p.2 = letter) = true ↔ OccursLive t letter := by
  rw [live_eq, List.any_map, List.any_filter, List.any_eq_true, occursLive_iff]
  simp only [Function.comp_apply, Bool.and_eq_true, decide_eq_true_eq]
  refine exists_congr fun p => and_congr_right fun _ => ?_
  constructor
  · rintro ⟨⟨hlive, -⟩, heq⟩
    exact ⟨heq, hlive⟩
  · rintro ⟨heq, hlive⟩
    exact ⟨⟨hlive, heq ▸ hletter⟩, heq⟩

theorem shows_parse (t : Text) (start : Nat) : Shows t (parse t start).1 where
  global := any_live t start (by decide)
  ignoreCase := any_live t start (by decide)
  multiLine := any_live t start (by decide)
  dotMatchesNewLine := any_live t start (by decide)
  extended := any_live t start (by decide)

theorem warnings_eq (t : Text) (start : Nat) : (parse t start).2 = warnings t start := by
  have hodd (p : Char × Nat) :
      (isUnknown p.1 && decide (¬ InComment t p.2 ∧ p.1 ≠ '#')) =
        decide (¬ InComment t p.2 ∧ p.1 ∉ ['g', 'i', 'm', 's', 'x'] ∧ p.1 ≠ '#' ∧
          ¬ isBlank p.1) := by
    rw [Bool.eq_iff_iff]
    simp only [isUnknown, Bool.and_eq_true, Bool.not_eq_true', Bool.or_eq_false_iff,
      List.contains_eq_mem, decide_eq_false_iff_not, decide_eq_true_eq, Bool.not_eq_true]
    tauto
  simp only [parse, warnings, live_eq, List.filter_map, List.filter_filter, List.map_map,
    Function.comp_def, hodd]
  rfl

/-- Texts with the same live letters show the same flags. -/
theorem Shows.eq (h : Shows t f) (h' : Shows t' f')
    (hsame : ∀ c ∈ ['g', 'i', 'm', 's', 'x'], OccursLive t' c ↔ OccursLive t c) : f' = f := by
  have hbit {a b : Bool} {c : Char} (hc : c ∈ ['g', 'i', 'm', 's', 'x'])
      (ha : a ↔ OccursLive t' c) (hb : b ↔ OccursLive t c) : a = b :=
    Bool.eq_iff_iff.mpr ((ha.trans (hsame c hc)).trans hb.symm)
  cases f
  cases f'
  rw [Flags.mk.injEq]
  exact ⟨hbit (by decide) h'.global h.global, hbit (by decide) h'.ignoreCase h.ignoreCase,
    hbit (by decide) h'.multiLine h.multiLine,
    hbit (by decide) h'.dotMatchesNewLine h.dotMatchesNewLine,
    hbit (by decide) h'.extended h.extended⟩

/-- The letters of flags are read as these flags. -/
theorem parse_letters (f : Flags) (start : Nat) : parse f.letters start = (f, []) := by
  obtain ⟨g, i, m, s, x⟩ := f
  cases g <;> cases i <;> cases m <;> cases s <;> cases x <;> rfl

end Parsing

/-- Turns on the flag that a character is the letter of, if there is one. -/
def turnOn (f : Flags) (c : Char) : Flags where
  global := f.global || c = 'g'
  ignoreCase := f.ignoreCase || c = 'i'
  multiLine := f.multiLine || c = 'm'
  dotMatchesNewLine := f.dotMatchesNewLine || c = 's'
  extended := f.extended || c = 'x'

theorem turnOn_of_isUnknown {c : Char} (h : isUnknown c) (f : Flags) : f.turnOn c = f := by
  have hletter (letter : Char) (hmem : letter ∈ ['g', 'i', 'm', 's', 'x']) : c ≠ letter := by
    rintro rfl
    rw [isUnknown, List.contains_iff_mem.mpr hmem] at h
    cases h
  simp [turnOn, hletter]

theorem foldl_turnOn (f : Flags) (chars : List (Nat × Char)) :
    chars.foldl (fun f p => f.turnOn p.2) f =
      { global := f.global || chars.any fun p => p.2 = 'g'
        ignoreCase := f.ignoreCase || chars.any fun p => p.2 = 'i'
        multiLine := f.multiLine || chars.any fun p => p.2 = 'm'
        dotMatchesNewLine := f.dotMatchesNewLine || chars.any fun p => p.2 = 's'
        extended := f.extended || chars.any fun p => p.2 = 'x' } := by
  induction chars generalizing f with
  | nil => simp
  | cons p chars ih =>
    rw [List.foldl_cons, ih]
    simp [turnOn, Bool.or_assoc]

/-- What a pass over a text of flags has come to. -/
structure Pass where
  flags : Flags
  /-- Whether a comment is open. -/
  inComment : Bool
  /-- The byte at which the next character stands. -/
  place : Nat
  found : Diagnostics

namespace Pass

/-- Goes on over a character. -/
def step (p : Pass) (c : Char) : Pass :=
  let next := { p with place := p.place + c.utf8Size }
  if p.inComment then { next with inComment := c ≠ '\n' }
  else if c = '#' then { next with inComment := true }
  else if isUnknown c then { next with found := p.found ++ [.ofChar .unknownFlag p.place c] }
  else { next with flags := p.flags.turnOn c }

/-- What a pass has come to behind a text. -/
def behind (p : Pass) (t : Text) : Pass :=
  let chars := live p.place p.inComment t
  { flags := chars.foldl (fun f q => f.turnOn q.2) p.flags
    inComment := endsInComment p.inComment t
    place := p.place + byteLength t
    found := p.found ++
      (chars.filter fun q => isUnknown q.2).map fun q => .ofChar .unknownFlag q.1 q.2 }

theorem behind_append (p : Pass) (t u : Text) : p.behind (t ++ u) = (p.behind t).behind u := by
  simp only [behind, live_append, List.foldl_append, List.filter_append, List.map_append,
    endsInComment_append, byteLength_append, Nat.add_assoc, List.append_assoc]

theorem step_eq (p : Pass) (c : Char) : p.step c = p.behind [c] := by
  obtain ⟨f, inComment, place, found⟩ := p
  cases inComment with
  | true => simp [step, behind, live, endsInComment]
  | false =>
    by_cases hhash : c = '#'
    · simp [step, behind, live, endsInComment, hhash]
    · by_cases hunknown : isUnknown c
      · have hkeep := turnOn_of_isUnknown hunknown f
        simp [step, behind, live, endsInComment, hhash, hunknown, hkeep]
      · simp [step, behind, live, endsInComment, hhash, hunknown]

theorem foldl_step (p : Pass) (t : Text) : t.foldl step p = p.behind t := by
  induction t using List.reverseRecOn with
  | nil => simp [behind, live, endsInComment]
  | append_singleton t c ih =>
    rw [List.foldl_append, ih, List.foldl_cons, List.foldl_nil, step_eq, behind_append]

end Pass

/-- Reads flags in one pass and adds what is odd about them to what was found before. -/
def pass (prior : Diagnostics) (segment : Text) (start : Nat) : Flags × Diagnostics :=
  let p := segment.foldl Pass.step ⟨{}, false, start, prior⟩
  (p.flags, p.found)

/-- One pass comes to the same. -/
theorem pass_eq (prior : Diagnostics) (segment : Text) (start : Nat) :
    pass prior segment start = ((parse segment start).1, prior ++ (parse segment start).2) := by
  rw [pass, Pass.foldl_step, Pass.behind, foldl_turnOn]
  simp [parse]

/-- What reading flags comes to, told by places of the text. With what was found before in `prior`,
it is what one pass comes to. The flags that are on are those whose letters are live, and each other
live character, but for `#` and white space, gets one warning, in the order of the text. Texts with
the same live letters are read as the same flags, in whatever order and however often the letters
occur, and the letters of the flags are read as these flags and nothing else. -/
theorem parse_shows_live (segment : Text) (start : Nat) (prior : Diagnostics) :
    let f := (parse segment start).1
    let found := prior ++ (parse segment start).2
    pass prior segment start = (f, found) ∧
    Shows segment f ∧
    found = prior ++ warnings segment start ∧
    (∀ x ∈ warnings segment start, x.isWarning) ∧
    (∀ segment' start',
      (∀ c ∈ ['g', 'i', 'm', 's', 'x'], OccursLive segment' c ↔ OccursLive segment c) →
      (parse segment' start').1 = f) ∧
    ∀ start', parse f.letters start' = (f, []) := by
  intro f found
  refine ⟨pass_eq prior segment start, shows_parse segment start, ?_, ?_, ?_, parse_letters f⟩
  · exact congrArg (prior ++ ·) (warnings_eq segment start)
  · intro x hx
    obtain ⟨p, -, rfl⟩ := List.mem_map.mp hx
    rfl
  · intro segment' start' hsame
    exact (shows_parse segment start).eq (shows_parse segment' start') hsame

/-- The letter in the comment is not live, and a character of two bytes is odd. The other text has
the same live letters in another order. -/
theorem parse_shows_live_comment :
    pass [] "x# i\n gég".toList 4 =
      (⟨true, false, false, false, true⟩, [⟨.unknownFlag, 11, 13, "unknown flag `é` ignored"⟩]) ∧
    (parse "gx".toList 0).1 = (parse "x# i\n gég".toList 4).1 := by
  obtain ⟨hpass, -, -, -, hsame, -⟩ := parse_shows_live "x# i\n gég".toList 4 []
  refine ⟨hpass.trans (by decide +kernel), hsame "gx".toList 0 ?_⟩
  intro c hc
  fin_cases hc <;> decide +kernel

end Flags
end RegexLiteral
