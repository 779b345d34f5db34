import RegexLiteral.Pattern.Escape

/-!
# Reading counted repetitions

A count in braces gives the fewest and the most times that the part before it is repeated. White
space around the numbers does not count.
-/
namespace RegexLiteral.Pattern

/-- How often a part is repeated, and whether more is tried before less. -/
structure Count where
  min : Nat
  max : Option Nat
  greedy : Bool
  deriving DecidableEq, Repr

/-- The highest number that a count may name: the highest one of 32 bits. -/
def maxCount : Nat := 4294967295

/-- Reads decimal digits. -/
def readDigits (v : Bool) (c : Cursor) : List Nat × Cursor :=
  match _h : c.rest with
  | [] => ([], c)
  | x :: _ =>
    if x.isDigit then
      let (ds, d) := readDigits v (c.next v)
      ((x.toNat - '0'.toNat) :: ds, d)
    else ([], c)
termination_by c.left
decreasing_by exact Cursor.next_left_lt v _h

/-- Moves past white space and, in a verbose pattern, the comments behind it. -/
def skipTrailing (v : Bool) (c : Cursor) : Cursor :=
  match _h : c.rest with
  | [] => c
  | x :: _ => if isBlank x then skipTrailing v (c.next v) else c
termination_by c.left
decreasing_by exact Cursor.next_left_lt v _h

/-- Reads a number with white space around it. The place behind it is known even if there is no
number. -/
def readNumber (v : Bool) (c : Cursor) : Except Fault Nat × Cursor :=
  let d := Cursor.skipBlanks c.pos c.rest
  let (digits, e) := readDigits v d
  let number :=
    if digits.isEmpty then refuse .repetitionCountDecimalEmpty (d.spanTo e)
    else if numberOf 10 digits > maxCount then refuse .decimalInvalid (d.spanTo e)
    else .ok (numberOf 10 digits)
  (number, skipTrailing v e)

/-- Reads the numbers of a count; `c` stands on the brace. -/
def readBounds (v : Bool) (c : Cursor) : Except Fault ((Nat × Option Nat) × Cursor) := do
  let d := c.next v
  if d.rest.isEmpty then refuse .repetitionCountUnclosed (c.spanTo d)
  else
    let (low, e) := readNumber v d
    if e.rest.isEmpty then refuse .repetitionCountUnclosed (c.spanTo e)
    else if e.rest.head? = some ',' then
      let f := e.next v
      if f.rest.isEmpty then refuse .repetitionCountUnclosed (c.spanTo f)
      else if f.rest.head? = some '\x7d' then
        let n ← low
        .ok ((n, none), f)
      else
        let n ← low
        let (high, g) := readNumber v f
        let m ← high
        .ok ((n, some m), g)
    else
      let n ← low
      .ok ((n, some n), e)

/-- Reads a count; `c` stands on the brace. -/
def readCount (v : Bool) (c : Cursor) : Except Fault (Count × Cursor) := do
  let ((low, high), d) ← readBounds v c
  if d.rest.head? ≠ some '\x7d' then refuse .repetitionCountUnclosed (c.spanTo d)
  else
    let e := d.next v
    let lazily := e.rest.head? = some '?'
    let f := if lazily then e.bump else e
    match high with
    | some m =>
      if m < low then refuse .repetitionCountInvalid (c.spanTo f)
      else .ok (⟨low, high, !lazily⟩, f)
    | none => .ok (⟨low, high, !lazily⟩, f)

theorem readDigits_left (v : Bool) (c : Cursor) : (readDigits v c).2.left ≤ c.left := by
  fun_induction readDigits v c with
  | case1 => exact Nat.le_refl _
  | case2 c x r h hx ds d hd ih =>
    rw [hd] at ih
    exact Nat.le_trans ih (Cursor.next_left v c)
  | case3 => exact Nat.le_refl _

theorem skipTrailing_left (v : Bool) (c : Cursor) : (skipTrailing v c).left ≤ c.left := by
  fun_induction skipTrailing v c with
  | case1 => exact Nat.le_refl _
  | case2 c x r h hx ih => exact Nat.le_trans ih (Cursor.next_left v c)
  | case3 => exact Nat.le_refl _

theorem readNumber_left (v : Bool) (c : Cursor) : (readNumber v c).2.left ≤ c.left :=
  Nat.le_trans (skipTrailing_left v _)
    (Nat.le_trans (readDigits_left v _) (Cursor.skipBlanks_left _ _))

theorem readBounds_onward (v : Bool) (c : Cursor) : Onward (c.next v) (readBounds v c) := by
  unfold readBounds
  dsimp only
  have hn := readNumber_left v (c.next v)
  generalize readNumber v (c.next v) = p at hn ⊢
  obtain ⟨low, e⟩ := p
  dsimp only at hn ⊢
  have he := Cursor.next_left v e
  split
  · exact .refuse _ _ _
  · split
    · exact .refuse _ _ _
    · split
      · split
        · exact .refuse _ _ _
        · split
          · intro a d h
            cases low with
            | error f => simp [bind, Except.bind] at h
            | ok n =>
              simp only [bind, Except.bind, Except.ok.injEq, Prod.mk.injEq] at h
              exact h.2 ▸ Nat.le_trans he hn
          · have hm := readNumber_left v (e.next v)
            generalize readNumber v (e.next v) = q at hm ⊢
            obtain ⟨high, g⟩ := q
            intro a d h
            cases low with
            | error f => simp [bind, Except.bind] at h
            | ok n =>
              cases high with
              | error f => simp [bind, Except.bind] at h
              | ok m =>
                simp only [bind, Except.bind, Except.ok.injEq, Prod.mk.injEq] at h
                exact h.2 ▸ Nat.le_trans hm (Nat.le_trans he hn)
      · intro a d h
        cases low with
        | error f => simp [bind, Except.bind] at h
        | ok n =>
          simp only [bind, Except.bind, Except.ok.injEq, Prod.mk.injEq] at h
          exact h.2 ▸ hn

theorem readCount_onward (v : Bool) (c : Cursor) : Onward (c.next v) (readCount v c) := by
  unfold readCount
  refine .bind (readBounds_onward v c) ?_
  intro bounds d hd
  have he := Nat.le_trans (Cursor.next_left v d) hd
  have hf := Nat.le_trans (Cursor.bump_left _) he
  dsimp only
  split
  · exact .refuse _ _ _
  · split
    · split
      · exact .refuse _ _ _
      · refine .ok _ ?_
        split
        · exact hf
        · exact he
    · refine .ok _ ?_
      split
      · exact hf
      · exact he

end RegexLiteral.Pattern
