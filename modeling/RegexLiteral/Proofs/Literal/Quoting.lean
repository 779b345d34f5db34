import RegexLiteral.Proofs.Literal.Writing

/-!
# Quoted text in literals

A text is quoted by a backslash before each character that would not stand for itself. As long as
the delimiter and the backslash are among these, each character of a quoted text is read as one
token (`read_backslashed`), so it can stand in a segment. There the backslashes before the delimiter
are dropped as the segment asks for it: the engine sees the text quoted against other characters.
-/
namespace RegexLiteral

open Reading

/-- A text with a backslash before each of its special characters. -/
def backslashed (special : Char → Bool) (t : Text) : Text :=
  t.flatMap fun c => if special c then ['\\', c] else [c]

section Backslashed

variable {special : Char → Bool} {d : Char} {t : Text}

@[simp] theorem backslashed_nil (special : Char → Bool) : backslashed special [] = [] := rfl

@[simp] theorem backslashed_cons (special : Char → Bool) (c : Char) (t : Text) :
    backslashed special (c :: t) =
      (if special c then ['\\', c] else [c]) ++ backslashed special t := List.flatMap_cons

theorem backslashed_of_not_special (h : ∀ c ∈ t, special c = false) :
    backslashed special t = t := by
  induction t with
  | nil => rfl
  | cons c t ih =>
    rw [backslashed_cons, h c (List.mem_cons_self ..),
      ih fun x hx => h x (List.mem_cons_of_mem _ hx)]
    rfl

namespace Token

/-- A character of a quoted text. -/
def quote (special : Char → Bool) (c : Char) : Token := if special c then escape c else plain c

/-- A quoted text is read as one token for each character, if the delimiter and the backslash are
special wherever they occur. -/
theorem read_backslashed (hd : d ≠ '\\') (h : ∀ c ∈ t, c = d ∨ c = '\\' → special c) :
    read d (backslashed special t) = t.map (quote special) := by
  induction t with
  | nil => rfl
  | cons c t ih =>
    have hrest := ih fun x hx => h x (List.mem_cons_of_mem _ hx)
    have hc := h c (List.mem_cons_self ..)
    rw [backslashed_cons, List.map_cons]
    cases hs : special c with
    | true =>
      have hquote : quote special c = escape c := by simp [quote, hs]
      rw [if_pos rfl, List.cons_append, List.singleton_append, read_escape hd, hrest, hquote]
    | false =>
      have hquote : quote special c = plain c := by simp [quote, hs]
      rw [hs] at hc
      have hcd : c ≠ d := fun he => absurd (hc (.inl he)) (by simp)
      have hcb : c ≠ '\\' := fun he => absurd (hc (.inr he)) (by simp)
      rw [if_neg (by simp), List.singleton_append, read_plain hcd hcb, hrest, hquote]

theorem closable_backslashed (hd : d ≠ '\\') (h : ∀ c ∈ t, c = d ∨ c = '\\' → special c) :
    Closable d (backslashed special t) := by
  constructor
  all_goals
    rw [read_backslashed hd h, List.mem_map, not_exists]
    rintro c ⟨-, hc⟩
    unfold quote at hc
    split at hc <;> cases hc

/-- A text without the delimiter has no delimiter token. -/
theorem delimiter_notMem_read (h : d ∉ t) : .delimiter ∉ read d t := by
  fun_induction read d t with
  | case1 => exact List.not_mem_nil
  | case2 rest ih => exact absurd (List.mem_cons_self ..) h
  | case3 hd => simp
  | case4 e rest hd ih =>
    have hrest : d ∉ rest := fun hmem => h (by simp [hmem])
    simpa using ih hrest
  | case5 c rest hd hb ih =>
    have hrest : d ∉ rest := fun hmem => h (by simp [hmem])
    simpa using ih hrest

end Token

/-- Quoted text in a pattern: a delimiter that the engine would not take with a backslash has lost
it. -/
theorem flatMap_patternText_quote (special : Char → Bool) (d : Char) (t : Text) :
    (t.map (Token.quote special)).flatMap (patternText d) =
      backslashed (fun c => special c && (c ≠ d || Pattern.isEscapable c)) t := by
  rw [List.flatMap_map, backslashed]
  refine List.flatMap_congr fun c _ => ?_
  cases hs : special c with
  | false => simp [Token.quote, hs, patternText, Token.text]
  | true =>
    by_cases hc : c = d
    · subst hc
      cases he : Pattern.isEscapable c <;> simp [Token.quote, hs, patternText, he]
    · simp [Token.quote, hs, patternText, hc]

/-- Quoted text in a replacement: each delimiter has lost its backslash. -/
theorem flatMap_replacementText_quote (special : Char → Bool) (d : Char) (t : Text) :
    (t.map (Token.quote special)).flatMap (replacementText d) =
      backslashed (fun c => special c && c ≠ d) t := by
  rw [List.flatMap_map, backslashed]
  refine List.flatMap_congr fun c _ => ?_
  cases hs : special c with
  | false => simp [Token.quote, hs, replacementText, Token.text]
  | true =>
    by_cases hc : c = d
    · subst hc
      simp [Token.quote, hs, replacementText]
    · simp [Token.quote, hs, replacementText, hc]

end Backslashed
end RegexLiteral
