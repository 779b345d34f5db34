import RegexLiteral.Pattern.Fault

/-!
# Reading a pattern

A cursor is a place in a pattern together with the rest of the pattern from there. In verbose
patterns white space and comments are skipped between the parts of most constructs; the functions
that skip are told so by `verbose`. Reading moves a cursor to the right only, which is what
`Onward` says and why reading ends.
-/
namespace RegexLiteral.Pattern

/-- A place in a pattern and what is left from there. -/
structure Cursor where
  pos : Nat
  rest : Text
  deriving DecidableEq, Repr

namespace Cursor

/-- The number of characters left. -/
def left (c : Cursor) : Nat := c.rest.length

/-- Moves past one character. -/
def bump (c : Cursor) : Cursor :=
  match c.rest with
  | [] => c
  | _ :: rest => ⟨c.pos + 1, rest⟩

/-- Moves past white space and comments. -/
def skipLayout (inComment : Bool) (pos : Nat) : Text → Cursor
  | [] => ⟨pos, []⟩
  | c :: rest =>
    if inComment then skipLayout (c ≠ '\n') (pos + 1) rest
    else if isBlank c then skipLayout false (pos + 1) rest
    else if c = '#' then skipLayout true (pos + 1) rest
    else ⟨pos, c :: rest⟩

/-- Moves past layout in a verbose pattern. -/
def skip (verbose : Bool) (c : Cursor) : Cursor :=
  if verbose then skipLayout false c.pos c.rest else c

/-- Moves past one character and the layout after it. -/
def next (verbose : Bool) (c : Cursor) : Cursor := c.bump.skip verbose

/-- The span between two places. -/
def spanTo (c d : Cursor) : Span := ⟨c.pos, d.pos⟩

/-- The empty span at a place. -/
def here (c : Cursor) : Span := ⟨c.pos, c.pos⟩

/-- The span of the next character. -/
def char (c : Cursor) : Span := ⟨c.pos, c.pos + 1⟩

/-- Moves past white space. -/
def skipBlanks (pos : Nat) : Text → Cursor
  | [] => ⟨pos, []⟩
  | c :: rest => if isBlank c then skipBlanks (pos + 1) rest else ⟨pos, c :: rest⟩

theorem skipLayout_left (b : Bool) (pos : Nat) (t : Text) :
    (skipLayout b pos t).left ≤ t.length := by
  induction t generalizing b pos with
  | nil => simp [skipLayout, left]
  | cons c t ih =>
    have := ih (c ≠ '\n') (pos + 1)
    have := ih false (pos + 1)
    have := ih true (pos + 1)
    simp only [skipLayout, List.length_cons]
    repeat' split
    all_goals first | omega | simp [left]

theorem skip_left (v : Bool) (c : Cursor) : (c.skip v).left ≤ c.left := by
  unfold skip
  split
  · exact skipLayout_left _ _ _
  · exact Nat.le_refl _

theorem bump_left (c : Cursor) : c.bump.left ≤ c.left := by
  unfold bump left
  split <;> simp_all

theorem bump_left_lt {c : Cursor} {x : Char} {r : Text} (h : c.rest = x :: r) :
    c.bump.left < c.left := by simp [bump, left, h]

theorem next_left (v : Bool) (c : Cursor) : (c.next v).left ≤ c.left :=
  Nat.le_trans (skip_left v _) (bump_left c)

theorem next_left_lt {c : Cursor} {x : Char} {r : Text} (v : Bool) (h : c.rest = x :: r) :
    (c.next v).left < c.left := Nat.lt_of_le_of_lt (skip_left v _) (bump_left_lt h)

theorem skipBlanks_left (pos : Nat) (t : Text) : (skipBlanks pos t).left ≤ t.length := by
  induction t generalizing pos with
  | nil => simp [skipBlanks, left]
  | cons c t ih =>
    have := ih (pos + 1)
    simp only [skipBlanks, List.length_cons]
    split
    · omega
    · simp [left]

end Cursor

/-- Refuses the pattern. -/
def refuse {α : Type} (cause : Cause) (span : Span) : Except Fault α := .error ⟨cause, span⟩

/-- The place behind a part that was read from `c` on is no further left than `c`. -/
def Onward {α : Type} (c : Cursor) (r : Except Fault (α × Cursor)) : Prop :=
  ∀ a d, r = .ok (a, d) → d.left ≤ c.left

theorem Onward.refuse {α : Type} (c : Cursor) (cause : Cause) (span : Span) :
    Onward c (refuse cause span : Except Fault (α × Cursor)) := by
  intro a d h
  cases h

theorem Onward.ok {α : Type} {c d : Cursor} (a : α) (h : d.left ≤ c.left) :
    Onward c (.ok (a, d) : Except Fault (α × Cursor)) := by
  intro a' d' h'
  cases h'
  exact h

theorem Onward.mono {α : Type} {c d : Cursor} {r : Except Fault (α × Cursor)} (hr : Onward d r)
    (h : d.left ≤ c.left) : Onward c r := fun a e he => Nat.le_trans (hr a e he) h

theorem Onward.bind {α β : Type} {c : Cursor} {r : Except Fault (α × Cursor)}
    {k : α × Cursor → Except Fault (β × Cursor)}
    (hr : Onward c r) (hk : ∀ a d, d.left ≤ c.left → Onward c (k (a, d))) :
    Onward c (r >>= k) := by
  intro b d h
  cases r with
  | error e => cases h
  | ok p => exact hk p.1 p.2 (hr p.1 p.2 rfl) b d h

end RegexLiteral.Pattern
