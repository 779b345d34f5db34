import RegexLiteral.Proofs.Literal.Reading
import RegexLiteral.Proofs.Literal.Tidying

/-!
# Heads of groups in literals

What follows a parenthesis in a literal shows the group that it opens, unless the head of a named
group is broken up: by layout that is gone when the engine sees it, or by an escaped delimiter that
loses its backslash. Each group that the engine sees opens at a parenthesis of the literal, where
the tidied text shows it (`exists_head_of_shown`). A group without a name is always seen in what is
written too (`opensCapture_of_unnamed`), a named one if its head is not broken up
(`opensNamed_of_named`, `opensCapture_of_named`).
-/
namespace RegexLiteral

open Pattern Reading

namespace Reading

/-- The tokens that follow the opening parentheses of the pattern, each up to the end of the
literal. -/
def heads : List Token → List (List Token)
  | [] => []
  | .delimiter :: _ => []
  | .plain '(' :: rest => rest :: heads rest
  | _ :: rest => heads rest

theorem openings_eq (d : Char) (ts : List Token) :
    openings d ts = (heads ts).map (Token.textAll d) := by
  fun_induction heads ts with
  | case1 => rfl
  | case2 => rfl
  | case3 rest ih => rw [openings, ih, List.map_cons]
  | case4 t rest hd hp ih =>
    rw [openings_cons d hd, if_neg hp, ih, List.nil_append]

/-- The opening parentheses of the pattern: the tokens before each, where `before` stands before the
row, and those behind it up to the end of the literal. -/
def parentheses (before : List Token) : List Token → List (List Token × List Token)
  | [] => []
  | .delimiter :: _ => []
  | t :: rest =>
    (if t = .plain '(' then [(before, rest)] else []) ++ parentheses (before ++ [t]) rest

theorem mem_parentheses {ts : List Token} (h : .delimiter ∉ ts) (before rest : List Token) :
    (before ++ ts, rest) ∈ parentheses before (ts ++ .plain '(' :: rest) := by
  induction ts generalizing before with
  | nil => simp [parentheses]
  | cons t ts ih =>
    have ht : t ≠ .delimiter := fun ht => h (ht ▸ List.mem_cons_self ..)
    have hmem := ih (List.not_mem_of_not_mem_cons h) (before ++ [t])
    rw [List.append_assoc, List.singleton_append] at hmem
    rw [List.cons_append, parentheses]
    · exact List.mem_append_right _ hmem
    · exact ht

theorem heads_eq (before ts : List Token) :
    heads ts = (parentheses before ts).map Prod.snd := by
  fun_induction parentheses before ts with
  | case1 => rfl
  | case2 => rfl
  | case3 before t rest hd ih =>
    rw [List.map_append, ← ih]
    by_cases ht : t = .plain '('
    · subst ht
      rfl
    · rw [if_neg ht]
      cases t with
      | delimiter => exact absurd rfl hd
      | plain c =>
        have hc : c ≠ '(' := fun hc => ht (hc ▸ rfl)
        simp [heads]
      | _ => rfl

theorem mem_heads {ts : List Token} (h : .delimiter ∉ ts) (rest : List Token) :
    rest ∈ heads (ts ++ .plain '(' :: rest) := by
  rw [heads_eq []]
  exact List.mem_map_of_mem (mem_parentheses h [] rest)

end Reading

namespace Token

/-- What the engine gets behind a parenthesis of the pattern, by the tokens before it and behind it.
Escaped delimiters have lost their backslashes and in free spacing layout is gone. -/
def tidiedHead (extended : Bool) (d : Char) (us ts : List Token) : Option Text :=
  tidiedBehind extended (us.flatMap (patternText d)) ((cut ts).1.flatMap (patternText d))

/-- Whether the head of a named group is broken up so that what is written shows no group. -/
def breaksName (extended : Bool) (d : Char) (us ts : List Token) : Bool :=
  (tidiedHead extended d us ts).any fun head =>
    Segments.opensNamed head && !Segments.opensCapture (textAll d ts)

/-- Whether the head of a named group is broken up so that what is written shows no name. In a
pattern that is verbose by itself layout may stand before the head. -/
def breaksHead (extended verbose : Bool) (d : Char) (us ts : List Token) : Bool :=
  (tidiedHead extended d us ts).any fun head =>
    Segments.opensNamed (skipped verbose head) && !Segments.opensNamed (textAll d ts)

end Token

variable {d : Char}

/-- A parenthesis in what the engine gets of an escaped character and more, if it is not escaped
there, stands behind the character. As a delimiter it would have kept its backslash. -/
theorem exists_of_escape_append {e : Char} {t u rest : Text} (hd : d ≠ '\\')
    (h : patternText d (.escape e) ++ t = u ++ '(' :: rest) (hu : escapes false u = false) :
    ∃ w, u = patternText d (.escape e) ++ w ∧ t = w ++ '(' :: rest ∧ escapes false w = false := by
  by_cases he : e = d && !isEscapable e
  · have htext : patternText d (.escape e) = [e] := if_pos he
    rw [Bool.and_eq_true, decide_eq_true_eq, Bool.not_eq_true'] at he
    obtain ⟨rfl, he⟩ := he
    rw [htext] at h ⊢
    cases u with
    | nil =>
      obtain ⟨rfl, -⟩ := List.cons.inj h
      have hparen : isEscapable '(' = true := by decide
      rw [he] at hparen
      cases hparen
    | cons x u =>
      obtain ⟨rfl, ht⟩ := List.cons.inj h
      exact ⟨u, rfl, ht, by simpa [hd] using hu⟩
  · have htext : patternText d (.escape e) = ['\\', e] := if_neg he
    rw [htext] at h ⊢
    cases u with
    | nil => cases (List.cons.inj h).1
    | cons x u =>
      obtain ⟨rfl, hpair⟩ := List.cons.inj h
      cases u with
      | nil => cases hu
      | cons y u =>
        obtain ⟨rfl, ht⟩ := List.cons.inj hpair
        exact ⟨u, rfl, ht, by simpa using hu⟩

/-- A parenthesis in the pattern that is not escaped there is not escaped in the literal. -/
theorem exists_paren_of_pattern {body u rest : Text}
    (h : (Token.cut (Token.read d body)).1.flatMap (patternText d) = u ++ '(' :: rest)
    (hu : escapes false u = false) :
    ∃ us ts, Token.read d body = us ++ .plain '(' :: ts ∧ .delimiter ∉ us ∧
      u = us.flatMap (patternText d) ∧ rest = (Token.cut ts).1.flatMap (patternText d) := by
  fun_induction Token.read d body generalizing u with
  | case1 =>
    have hnil := congrArg List.length h
    simp [Token.cut] at hnil
  | case2 =>
    have hnil := congrArg List.length h
    simp [Token.cut] at hnil
  | case3 =>
    have hlone : ['\\'] = u ++ '(' :: rest := h
    cases u with
    | nil => cases hlone
    | cons x u => simp at hlone
  | case4 e more hd ih =>
    obtain ⟨w, rfl, hw, hescapes⟩ := exists_of_escape_append (Ne.symm hd) h hu
    obtain ⟨us, ts, hread, hus, rfl, hrest⟩ := ih hw hescapes
    refine ⟨.escape e :: us, ts, by rw [hread, List.cons_append], ?_, rfl, hrest⟩
    simp [hus]
  | case5 c more hd hb ih =>
    replace h : c :: (Token.cut (Token.read d more)).1.flatMap (patternText d) =
      u ++ '(' :: rest := h
    cases u with
    | nil =>
      obtain ⟨rfl, hrest⟩ := List.cons.inj h
      exact ⟨[], _, rfl, List.not_mem_nil, rfl, hrest.symm⟩
    | cons x u =>
      obtain ⟨rfl, hmore⟩ := List.cons.inj h
      obtain ⟨us, ts, hread, hus, rfl, hrest⟩ := ih hmore (by simpa [hb] using hu)
      refine ⟨.plain c :: us, ts, by rw [hread, List.cons_append], ?_, rfl, hrest⟩
      simp [hus]

/-- A group that the engine sees opens at a parenthesis of the literal, where the tidied text shows
it. -/
theorem exists_head_of_shown {body : Text} {flags : Flags} {p : Nat × Option Text} {pattern : Text}
    (hpattern : pattern =
      tidied flags.extended ((Token.cut (Token.read d body)).1.flatMap (patternText d)))
    (h : Shown (flags.enginePattern pattern) p) :
    ∃ us ts head, Token.read d body = us ++ .plain '(' :: ts ∧ .delimiter ∉ us ∧
      Token.tidiedHead flags.extended d us ts = some head ∧
      Reveals (asksSpacing pattern) p.2 head := by
  subst hpattern
  obtain ⟨u, rest, head, htext, hu, hhead, hreveals⟩ := exists_of_shown (shown_of_enginePattern h)
  obtain ⟨us, ts, hread, hus, rfl, rfl⟩ := exists_paren_of_pattern htext hu
  exact ⟨us, ts, head, hread, hus, hhead, hreveals⟩

theorem opensCapture_cons {c : Char} (hc : c ≠ '?') (t : Text) :
    Segments.opensCapture (c :: t) = true := by
  unfold Segments.opensCapture
  split
  · rename_i heq
    exact absurd (List.cons.inj heq).1 hc
  · rfl

theorem opensCapture_of_opensNamed {t : Text} (h : Segments.opensNamed t) :
    Segments.opensCapture t := by
  unfold Segments.opensCapture
  split
  · exact h
  · rfl

theorem opensNamed_of_startsName {t : Text} (h : StartsName t) : Segments.opensNamed t := by
  obtain ⟨r, rfl⟩ | ⟨x, r, rfl, heq, hne⟩ := h
  · rfl
  · simp [Segments.opensNamed, heq, hne]

section Head

variable {extended verbose : Bool} {us ts : List Token} {head : Text}

/-- What is written opens a group without more ado, unless the tidied text starts with a question
mark or is empty. -/
theorem opensCapture_of_head (h : Token.tidiedHead extended d us ts = some head)
    (hne : head ≠ []) (hmark : head.head? ≠ some '?') :
    Segments.opensCapture (Token.textAll d ts) := by
  cases ts with
  | nil => exact absurd (tidiedBehind_nil h) hne
  | cons t ts =>
    rw [Token.textAll_cons]
    cases t with
    | delimiter => exact absurd (tidiedBehind_nil h) hne
    | escape c => exact opensCapture_cons (by decide) _
    | loneBackslash => exact opensCapture_cons (by decide) _
    | plain c =>
      refine opensCapture_cons ?_ _
      rintro rfl
      exact hmark (head?_tidiedBehind (c := '?') (by decide) h)

/-- A group without a name is seen in the literal whatever stands behind its parenthesis. -/
theorem opensCapture_of_unnamed (h : Token.tidiedHead extended d us ts = some head)
    (hreveals : Reveals verbose none head) : Segments.opensCapture (Token.textAll d ts) :=
  opensCapture_of_head h hreveals.1 hreveals.2

/-- A named group is seen in the literal if its head is not broken up. -/
theorem opensNamed_of_named (h : Token.tidiedHead extended d us ts = some head) {name : Text}
    (hreveals : Reveals verbose (some name) head)
    (hbreaks : Token.breaksHead extended verbose d us ts = false) :
    Segments.opensNamed (Token.textAll d ts) := by
  have hnamed : Segments.opensNamed (skipped verbose head) := opensNamed_of_startsName hreveals
  simpa [Token.breaksHead, h, hnamed] using hbreaks

/-- Where layout stands before the head of a named group, the literal shows a group without a
name. -/
theorem opensCapture_of_named (h : Token.tidiedHead extended d us ts = some head) {name : Text}
    (hreveals : Reveals verbose (some name) head)
    (hbreaks : Token.breaksName extended d us ts = false) :
    Segments.opensCapture (Token.textAll d ts) := by
  by_cases hmark : head.head? = some '?'
  · rw [Reveals, skipped_of_mark verbose hmark] at hreveals
    simpa [Token.breaksName, h, opensNamed_of_startsName hreveals] using hbreaks
  · refine opensCapture_of_head h ?_ hmark
    rintro rfl
    have hstart : StartsName [] := by
      rwa [Reveals, skipped_eq_self verbose (by simp)] at hreveals
    cases hstart.head?

end Head

end RegexLiteral
