import RegexLiteral.Proofs.Literal.GroupHeads

/-!
# Groups noted from the pattern segment

Splitting notes whether the pattern opens groups that capture and groups with names. It asks this of
what follows each parenthesis, and it looks up to three characters ahead, past the end of the
segment if that comes first. So the segment decides by its own text, unless it breaks off in the
head of a group and the delimiter, with what follows it, goes on with this head
(`goesOn_eq_false_iff`). Main statement: what is noted is told by the segment and by what stands
behind it, and by the segment alone for all but five delimiters (`captures_of_pattern_segment`);
`named_captures_read_on` is about two literals with one segment of which only one shows a name.
-/
namespace RegexLiteral

open Reading

namespace Segments

/-- The texts behind the parentheses of a text that stand outside its backslash pairs. -/
def parens : Text → List Text
  | '\\' :: _ :: rest => parens rest
  | '(' :: rest => rest :: parens rest
  | _ :: rest => parens rest
  | [] => []

/-- Whether what stands behind a head that breaks off makes another group of it. -/
def goesOn (head behind : Text) : Bool :=
  match head with
  | [] => behind.head? = some '?'
  | ['?'] => opensNamed ('?' :: behind)
  | ['?', 'P'] => behind.head? = some '<'
  | ['?', '<'] => behind.head? = some '=' || behind.head? = some '!'
  | _ => false

/-- Whether no head of a group that a segment breaks off in is gone on with behind the segment. -/
def BreaksClean (segment behind : Text) : Prop :=
  ∀ head ∈ parens segment, goesOn head behind = false

/-! ### Parentheses -/

theorem parens_open (t : Text) : parens ('(' :: t) = t :: parens t := rfl

theorem parens_plain {c : Char} (hb : c ≠ '\\') (hc : c ≠ '(') (t : Text) :
    parens (c :: t) = parens t := by
  rw [parens.eq_def]
  split
  · rename_i heq
    exact absurd (List.cons.inj heq).1 hb
  · rename_i heq
    exact absurd (List.cons.inj heq).1 hc
  · rename_i heq
    rw [(List.cons.inj heq).2]
  · rename_i heq
    cases heq

/-! ### Heads -/

section Heads

variable {c : Char}

theorem opensCapture_mark (t : Text) : opensCapture ('?' :: t) = opensNamed ('?' :: t) := rfl

theorem opensNamed_of_ne (hc : c ≠ '?') (t : Text) : opensNamed (c :: t) = false := by
  unfold opensNamed
  split <;> simp_all

theorem opensNamed_letter (t : Text) :
    opensNamed ('?' :: 'P' :: t) = decide (t.head? = some '<') := by
  cases t with
  | nil => rfl
  | cons x t =>
    by_cases hx : x = '<'
    · subst hx
      rfl
    · simp [opensNamed, hx]

theorem opensNamed_angle (t : Text) :
    opensNamed ('?' :: '<' :: t) = !(t.head? = some '=' || t.head? = some '!') := by
  cases t with
  | nil => rfl
  | cons x t =>
    by_cases heq : x = '='
    · subst heq
      rfl
    · by_cases hbang : x = '!'
      · subst hbang
        rfl
      · simp [opensNamed, heq, hbang]

theorem opensNamed_other (hP : c ≠ 'P') (hangle : c ≠ '<') (t : Text) :
    opensNamed ('?' :: c :: t) = false := by
  simp [opensNamed, hP, hangle]

/-- Three characters show the group. -/
theorem opensNamed_append (x y : Char) (t behind : Text) :
    opensNamed ('?' :: x :: y :: (t ++ behind)) = opensNamed ('?' :: x :: y :: t) := by
  by_cases hP : x = 'P'
  · subst hP
    rw [opensNamed_letter, opensNamed_letter]
    rfl
  · by_cases hangle : x = '<'
    · subst hangle
      rw [opensNamed_angle, opensNamed_angle]
      rfl
    · rw [opensNamed_other hP hangle, opensNamed_other hP hangle]

theorem goesOn_of_ne (hc : c ≠ '?') (t behind : Text) : goesOn (c :: t) behind = false := by
  unfold goesOn
  split <;> simp_all

theorem goesOn_other (hP : c ≠ 'P') (hangle : c ≠ '<') (behind : Text) :
    goesOn ['?', c] behind = false := by
  unfold goesOn
  split <;> simp_all

theorem goesOn_three (x y z : Char) (t behind : Text) :
    goesOn (x :: y :: z :: t) behind = false := by
  unfold goesOn
  split <;> simp_all

/-- A head with a question mark that breaks off is another one with what follows if and only if that
makes or unmakes a name. -/
theorem goesOn_mark (t behind : Text) :
    goesOn ('?' :: t) behind = false ↔
      opensNamed ('?' :: (t ++ behind)) = opensNamed ('?' :: t) := by
  match t with
  | [] => exact Iff.rfl
  | [x] =>
    rw [List.singleton_append]
    by_cases hP : x = 'P'
    · subst hP
      rw [opensNamed_letter, opensNamed_letter]
      exact Iff.rfl
    · by_cases hangle : x = '<'
      · subst hangle
        rw [opensNamed_angle, opensNamed_angle, goesOn]
        cases (behind.head? = some '=' || behind.head? = some '!' : Bool) <;> simp
      · rw [opensNamed_other hP hangle, opensNamed_other hP hangle, goesOn_other hP hangle]
  | x :: y :: t =>
    have happend := opensNamed_append x y t behind
    exact iff_of_true (goesOn_three ..) happend

/-- What a head shows does not depend on what follows it if and only if that does not go on with the
head. -/
theorem goesOn_eq_false_iff (head behind : Text) :
    goesOn head behind = false ↔
      opensCapture (head ++ behind) = opensCapture head ∧
        opensNamed (head ++ behind) = opensNamed head := by
  cases head with
  | nil =>
    rw [List.nil_append]
    cases behind with
    | nil => exact iff_of_true rfl ⟨rfl, rfl⟩
    | cons b behind =>
      by_cases hb : b = '?'
      · -- The group captures by itself, and with a mark behind it only if it has a name.
        subst hb
        have hcapture : opensCapture [] = true := rfl
        have hname : opensNamed [] = false := rfl
        rw [hcapture, hname, opensCapture_mark]
        cases opensNamed ('?' :: behind) <;> simp [goesOn]
      · have hgoesOn : goesOn [] (b :: behind) = false := by simp [goesOn, hb]
        have hcapture : opensCapture (b :: behind) = opensCapture [] := opensCapture_cons hb behind
        have hname : opensNamed (b :: behind) = opensNamed [] := opensNamed_of_ne hb behind
        exact iff_of_true hgoesOn ⟨hcapture, hname⟩
  | cons x head =>
    rw [List.cons_append]
    by_cases hx : x = '?'
    · subst hx
      rw [opensCapture_mark, opensCapture_mark, and_self]
      exact goesOn_mark head behind
    · have hcapture : opensCapture (x :: (head ++ behind)) = opensCapture (x :: head) :=
        (opensCapture_cons hx _).trans (opensCapture_cons hx _).symm
      have hname : opensNamed (x :: (head ++ behind)) = opensNamed (x :: head) :=
        (opensNamed_of_ne hx _).trans (opensNamed_of_ne hx _).symm
      exact iff_of_true (goesOn_of_ne hx head behind) ⟨hcapture, hname⟩

end Heads

/-- A head is gone on with by five delimiters only. -/
theorem breaksClean_of_head? {behind : Text} (h : ∀ d ∈ behind.head?, d ∉ ['?', 'P', '<', '=', '!'])
    (segment : Text) : BreaksClean segment behind := by
  have hhead {d : Char} (hd : d ∈ ['?', 'P', '<', '=', '!']) : behind.head? ≠ some d :=
    fun heq => h d heq hd
  intro head _
  unfold goesOn
  split
  · simp [hhead (d := '?') (by decide)]
  · cases behind with
    | nil => rfl
    | cons d behind =>
      have hP : d ≠ 'P' := fun heq => hhead (d := 'P') (by decide) (congrArg some heq)
      have hangle : d ≠ '<' := fun heq => hhead (d := '<') (by decide) (congrArg some heq)
      exact opensNamed_other hP hangle behind
  · simp [hhead (d := '<') (by decide)]
  · simp [hhead (d := '=') (by decide), hhead (d := '!') (by decide)]
  · rfl

end Segments

open Segments

/-- The pattern segment as it is written, up to the next delimiter outside a backslash pair, and
what is written behind it. -/
def rawPattern? (source : Text) : Option (Text × Text) :=
  match (Opening.read source).rest with
  | [] => none
  | d :: body =>
    let segment := Token.textAll d (Token.cut (Token.read d body)).1
    some (segment, body.drop segment.length)

/-- The texts that are asked are those behind the parentheses of the segment, each with what stands
behind the segment. -/
theorem openings_read (d : Char) (body : Text) :
    let segment := Token.textAll d (Token.cut (Token.read d body)).1
    ∃ behind, body = segment ++ behind ∧ (∀ x ∈ behind.head?, x = d) ∧
      openings d (Token.read d body) = (parens segment).map (· ++ behind) := by
  fun_induction Token.read d body with
  | case1 => exact ⟨[], rfl, fun x hx => absurd hx (Option.not_mem_none x), rfl⟩
  | case2 rest _ => exact ⟨d :: rest, rfl, fun x hx => (Option.some.inj hx).symm, rfl⟩
  | case3 => exact ⟨[], rfl, fun x hx => absurd hx (Option.not_mem_none x), rfl⟩
  | case4 e more _ ih =>
    obtain ⟨behind, hbody, hhead, hopenings⟩ := ih
    refine ⟨behind, ?_, hhead, hopenings⟩
    exact congrArg (fun t => '\\' :: e :: t) hbody
  | case5 c rest _ hb ih =>
    obtain ⟨behind, hbody, hhead, hopenings⟩ := ih
    generalize hsegment : Token.textAll d (Token.cut (Token.read d rest)).1 = segment
    rw [hsegment] at hbody hopenings
    have hcons : Token.textAll d (Token.cut (.plain c :: Token.read d rest)).1 = c :: segment := by
      rw [← hsegment]
      rfl
    rw [hcons]
    refine ⟨behind, congrArg (c :: ·) hbody, hhead, ?_⟩
    have hplain : Token.plain c ≠ .delimiter := Token.noConfusion
    rw [openings_cons d hplain, hopenings]
    by_cases hc : c = '('
    · subst hc
      rw [parens_open, List.map_cons, ← hbody, if_pos rfl, Token.text_read]
      rfl
    · have hother : Token.plain c ≠ .plain '(' := fun heq => hc (Token.plain.inj heq)
      rw [parens_plain hb hc, if_neg hother, List.nil_append]

section Noted

variable {source segment behind : Text} {s : Segments}

/-- What is noted is what the heads show with the text behind the segment. -/
theorem noted_of_rawPattern (hs : (splitLiteral source).1 = some s)
    (hraw : rawPattern? source = some (segment, behind)) :
    (Opening.read source).rest = s.delimiter :: (segment ++ behind) ∧
      (∀ x ∈ behind.head?, x = s.delimiter) ∧
      s.hasCaptures = (parens segment).any (fun head => opensCapture (head ++ behind)) ∧
      s.hasNamedCaptures = (parens segment).any (fun head => opensNamed (head ++ behind)) := by
  unfold rawPattern? at hraw
  split at hraw
  · cases hraw
  · rename_i d body hrest
    rw [splitLiteral_of_rest hrest, Option.some.injEq] at hs
    obtain ⟨behind', hbody, hhead, hopenings⟩ := openings_read d body
    simp only [Option.some.injEq, Prod.mk.injEq] at hraw
    obtain ⟨hsegment, hbehind⟩ := hraw
    rw [hsegment] at hbody hopenings hbehind
    have hsame : behind' = behind := by rw [← hbehind, hbody, List.drop_left]
    subst hsame
    subst hs
    refine ⟨by rw [hrest, ← hbody]; rfl, hhead, ?_, ?_⟩
    · simp only [segments, hopenings, List.any_map]
      rfl
    · simp only [segments, hopenings, List.any_map]
      rfl

/-- A segment that breaks clean decides by its own text. -/
theorem noted_of_breaksClean (hs : (splitLiteral source).1 = some s)
    (hraw : rawPattern? source = some (segment, behind)) (hclean : BreaksClean segment behind) :
    s.hasCaptures = (parens segment).any opensCapture ∧
      s.hasNamedCaptures = (parens segment).any opensNamed := by
  obtain ⟨-, -, hcaptures, hnamed⟩ := noted_of_rawPattern hs hraw
  have hheads (head : Text) (hhead : head ∈ parens segment) :=
    (goesOn_eq_false_iff head behind).mp (hclean head hhead)
  have hany {f g : Text → Bool} (h : ∀ head ∈ parens segment, f head = g head) :
      (parens segment).any f = (parens segment).any g := by
    rw [Bool.eq_iff_iff, List.any_eq_true, List.any_eq_true]
    exact exists_congr fun head => and_congr_right fun hhead => by rw [h head hhead]
  rw [hcaptures, hnamed]
  constructor
  · exact hany fun head hhead => (hheads head hhead).1
  · exact hany fun head hhead => (hheads head hhead).2

end Noted

/-- What is noted of the groups of a literal is told by its pattern segment and by what stands
behind that. If the segment breaks off in no head of a group that is gone on with there, its own
text tells it, and then two literals with this segment agree, whatever else is different in them.
Only the delimiters `?`, `P`, `<`, `=` and `!` can go on with a head. -/
theorem captures_of_pattern_segment {source source' segment behind behind' : Text}
    {s s' : Segments} (hs : (splitLiteral source).1 = some s)
    (hs' : (splitLiteral source').1 = some s')
    (hraw : rawPattern? source = some (segment, behind))
    (hraw' : rawPattern? source' = some (segment, behind')) :
    (s.hasCaptures = (parens segment).any (fun head => opensCapture (head ++ behind)) ∧
      s.hasNamedCaptures = (parens segment).any fun head => opensNamed (head ++ behind)) ∧
    (BreaksClean segment behind →
      s.hasCaptures = (parens segment).any opensCapture ∧
      s.hasNamedCaptures = (parens segment).any opensNamed) ∧
    (BreaksClean segment behind → BreaksClean segment behind' →
      s.hasCaptures = s'.hasCaptures ∧ s.hasNamedCaptures = s'.hasNamedCaptures) ∧
    (s.delimiter ∉ ['?', 'P', '<', '=', '!'] → BreaksClean segment behind) := by
  obtain ⟨-, hdelimiter, hnoted⟩ := noted_of_rawPattern hs hraw
  refine ⟨hnoted, noted_of_breaksClean hs hraw, fun hclean hclean' => ?_, fun hd => ?_⟩
  · obtain ⟨hcaptures, hnamed⟩ := noted_of_breaksClean hs hraw hclean
    obtain ⟨hcaptures', hnamed'⟩ := noted_of_breaksClean hs' hraw' hclean'
    exact ⟨hcaptures.trans hcaptures'.symm, hnamed.trans hnamed'.symm⟩
  · refine breaksClean_of_head? (fun x hx => ?_) segment
    rw [hdelimiter x hx]
    exact hd

/-- Mode, delimiter, replacement and flags are different, but both segments have one group with a
name. The exclamation mark would go on with another head. -/
theorem captures_of_pattern_segment_name :
    ∃ s s', (splitLiteral "m/(?<n>a)\\(/i".toList).1 = some s ∧
      (splitLiteral "tr!(?<n>a)\\(!b!".toList).1 = some s' ∧
      s.hasCaptures = s'.hasCaptures ∧ s.hasNamedCaptures = s'.hasNamedCaptures ∧
      s'.hasNamedCaptures = [['?', '<', 'n', '>', 'a', ')', '\\', '(']].any opensNamed := by
  obtain ⟨s, hs⟩ : ∃ s, (splitLiteral "m/(?<n>a)\\(/i".toList).1 = some s :=
    Option.isSome_iff_exists.mp (by decide +kernel)
  obtain ⟨s', hs'⟩ : ∃ s, (splitLiteral "tr!(?<n>a)\\(!b!".toList).1 = some s :=
    Option.isSome_iff_exists.mp (by decide +kernel)
  have hraw : rawPattern? "m/(?<n>a)\\(/i".toList = some ("(?<n>a)\\(".toList, "/i".toList) := by
    decide +kernel
  have hraw' : rawPattern? "tr!(?<n>a)\\(!b!".toList =
      some ("(?<n>a)\\(".toList, "!b!".toList) := by
    decide +kernel
  have hclean : BreaksClean "(?<n>a)\\(".toList "/i".toList := by
    unfold BreaksClean
    decide +kernel
  have hclean' : BreaksClean "(?<n>a)\\(".toList "!b!".toList := by
    unfold BreaksClean
    decide +kernel
  obtain ⟨-, -, hagree, -⟩ := captures_of_pattern_segment hs hs' hraw hraw'
  obtain ⟨-, hown, -, -⟩ := captures_of_pattern_segment hs' hs hraw' hraw
  obtain ⟨hcaptures, hnamed⟩ := hagree hclean hclean'
  exact ⟨s, s', hs, hs', hcaptures, hnamed, (hown hclean').2⟩

/-- The pattern segment of both literals ends in a parenthesis and a question mark, which stand in a
comment. The delimiter of the first makes the head of a name of them, so that literal seems to have
a named group, though nothing is left of the comment in the end. -/
theorem named_captures_read_on :
    ∃ segment behind behind' s s',
      rawPattern? "m<a#(?<x".toList = some (segment, behind) ∧
      rawPattern? "m/a#(?/x".toList = some (segment, behind') ∧
      (splitLiteral "m<a#(?<x".toList).1 = some s ∧ (splitLiteral "m/a#(?/x".toList).1 = some s' ∧
      s.hasCaptures ≠ s'.hasCaptures ∧ s.hasNamedCaptures ≠ s'.hasNamedCaptures := by
  have hread : (splitLiteral "m<a#(?<x".toList).1.any fun s =>
      s.hasCaptures && s.hasNamedCaptures := by decide +kernel
  have hread' : (splitLiteral "m/a#(?/x".toList).1.any fun s =>
      !s.hasCaptures && !s.hasNamedCaptures := by decide +kernel
  obtain ⟨s, hs, hnoted⟩ := (Option.any_eq_true _ _).mp hread
  obtain ⟨s', hs', hnoted'⟩ := (Option.any_eq_true _ _).mp hread'
  rw [Bool.and_eq_true] at hnoted
  rw [Bool.and_eq_true, Bool.not_eq_true', Bool.not_eq_true'] at hnoted'
  refine ⟨"a#(?".toList, "<x".toList, "/x".toList, s, s', by decide +kernel, by decide +kernel, hs,
    hs', ?_, ?_⟩
  · rw [hnoted.1, hnoted'.1]
    decide
  · rw [hnoted.2, hnoted'.2]
    decide

end RegexLiteral
