import RegexLiteral.Text

/-!
# Tokens of a literal's body

Behind the opening delimiter a literal is a row of tokens. A backslash and the character after it
are one token, unless the backslash is itself the delimiter; so an escaped delimiter closes
nothing. Main statements: the tokens written one after the other are the body (`text_read`), and a
text that ends in no lone backslash is read the same whatever follows it (`read_append`).
-/
namespace RegexLiteral

/-- A part of a literal's body. -/
inductive Token where
  /-- The delimiter, not escaped. -/
  | delimiter
  /-- A backslash and the character after it. -/
  | escape (c : Char)
  /-- A backslash with nothing after it. -/
  | loneBackslash
  /-- Any other character. -/
  | plain (c : Char)
  deriving DecidableEq, Repr

namespace Token

/-- The tokens of a body under a delimiter. -/
def read (d : Char) : Text → List Token
  | [] => []
  | c :: rest =>
    if c = d then delimiter :: read d rest
    else if c = '\\' then
      match rest with
      | [] => [loneBackslash]
      | e :: more => escape e :: read d more
    else plain c :: read d rest

@[simp] theorem read_nil (d : Char) : read d [] = [] := rfl

@[simp] theorem read_delimiter (d : Char) (t : Text) :
    read d (d :: t) = delimiter :: read d t := by
  rw [read.eq_def]
  simp only [if_pos]

theorem read_escape {d : Char} (hd : d ≠ '\\') (e : Char) (t : Text) :
    read d ('\\' :: e :: t) = escape e :: read d t := by
  rw [read, if_neg hd.symm, if_pos rfl]

theorem read_lone {d : Char} (hd : d ≠ '\\') : read d ['\\'] = [loneBackslash] := by
  rw [read, if_neg hd.symm, if_pos rfl]

theorem read_plain {d c : Char} (hd : c ≠ d) (hb : c ≠ '\\') (t : Text) :
    read d (c :: t) = plain c :: read d t := by
  rw [read.eq_def]
  simp only [if_neg hd, if_neg hb]

/-- A token as it is written. -/
def text (d : Char) : Token → Text
  | delimiter => [d]
  | escape c => ['\\', c]
  | loneBackslash => ['\\']
  | plain c => [c]

/-- A row of tokens as it is written. -/
def textAll (d : Char) (ts : List Token) : Text := ts.flatMap (text d)

@[simp] theorem textAll_nil (d : Char) : textAll d [] = [] := rfl

@[simp] theorem textAll_cons (d : Char) (t : Token) (ts : List Token) :
    textAll d (t :: ts) = t.text d ++ textAll d ts := List.flatMap_cons

@[simp] theorem textAll_append (d : Char) (ts us : List Token) :
    textAll d (ts ++ us) = textAll d ts ++ textAll d us := List.flatMap_append

/-- Reading loses nothing. -/
@[simp] theorem text_read (d : Char) (t : Text) : textAll d (read d t) = t := by
  fun_induction read d t <;> simp_all [textAll, text]

/-- A text without a lone backslash at its end is read the same whatever follows it. -/
theorem read_append (d : Char) {s : Text} (hs : loneBackslash ∉ read d s) (t : Text) :
    read d (s ++ t) = read d s ++ read d t := by
  fun_induction read d s with
  | case1 => rfl
  | case2 rest ih =>
    rw [List.cons_append, read_delimiter, ih (List.not_mem_of_not_mem_cons hs), List.cons_append]
  | case3 hd => exact absurd (List.mem_singleton_self _) hs
  | case4 e rest hd ih =>
    rw [List.cons_append, List.cons_append, read_escape (Ne.symm hd),
      ih (List.not_mem_of_not_mem_cons hs), List.cons_append]
  | case5 c rest hd hb ih =>
    rw [List.cons_append, read_plain hd hb, ih (List.not_mem_of_not_mem_cons hs), List.cons_append]

/-- A lone backslash at the end of a text takes the character that follows it. -/
theorem read_append_of_lone {d : Char} {s : Text} (hs : loneBackslash ∈ read d s) :
    ∃ ts, loneBackslash ∉ ts ∧ read d s = ts ++ [loneBackslash] ∧
      ∀ e t, read d (s ++ e :: t) = ts ++ escape e :: read d t := by
  fun_induction read d s with
  | case1 => exact absurd hs List.not_mem_nil
  | case2 rest ih =>
    obtain ⟨ts, hts, hrest, hbehind⟩ := ih (List.mem_of_ne_of_mem (by simp) hs)
    refine ⟨delimiter :: ts, by simp [hts], by rw [hrest, List.cons_append], fun e t => ?_⟩
    rw [List.cons_append, read_delimiter, hbehind, List.cons_append]
  | case3 hd =>
    refine ⟨[], List.not_mem_nil, rfl, fun e t => ?_⟩
    rw [List.singleton_append, read_escape (Ne.symm hd), List.nil_append]
  | case4 x rest hd ih =>
    obtain ⟨ts, hts, hrest, hbehind⟩ := ih (List.mem_of_ne_of_mem (by simp) hs)
    refine ⟨escape x :: ts, by simp [hts], by rw [hrest, List.cons_append], fun e t => ?_⟩
    rw [List.cons_append, List.cons_append, read_escape (Ne.symm hd), hbehind, List.cons_append]
  | case5 c rest hd hb ih =>
    obtain ⟨ts, hts, hrest, hbehind⟩ := ih (List.mem_of_ne_of_mem (by simp) hs)
    refine ⟨plain c :: ts, by simp [hts], by rw [hrest, List.cons_append], fun e t => ?_⟩
    rw [List.cons_append, read_plain hd hb, hbehind, List.cons_append]

/-- A text whose last character is no backslash ends in no lone one. -/
theorem loneBackslash_notMem_concat {d x : Char} (hx : x ≠ '\\') (t : Text) :
    loneBackslash ∉ read d (t ++ [x]) := by
  by_cases ht : loneBackslash ∈ read d t
  · obtain ⟨ts, hts, -, hbehind⟩ := read_append_of_lone ht
    rw [hbehind]
    simp [hts]
  · have hlast : loneBackslash ∉ read d [x] := by
      by_cases hd : x = d
      · simp [hd]
      · simp [read_plain hd hx]
    rw [read_append d ht, List.mem_append, not_or]
    exact ⟨ht, hlast⟩

/-- What stands before the first delimiter, and what stands behind it if there is one. -/
def cut : List Token → List Token × Option (List Token)
  | [] => ([], none)
  | delimiter :: rest => ([], some rest)
  | t :: rest => (t :: (cut rest).1, (cut rest).2)

end Token
end RegexLiteral
