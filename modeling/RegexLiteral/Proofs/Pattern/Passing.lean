import RegexLiteral.Pattern.Cursor

/-!
# What readers pass over

A backslash escapes the character after it unless it is itself escaped, so a place in a pattern is
either behind a backslash that still escapes something or not. Readers of complete parts never end
at a place of the first kind: they leave a rest of the pattern that stands where an unescaped
character may stand, or no rest. This is `Passed`. It holds because what they read last is no
backslash, or else a backslash that was escaped.
-/
namespace RegexLiteral.Pattern

/-- A program that gives a value has come to it through a value of its first step. -/
theorem bind_eq_ok {ε α β : Type} {x : Except ε α} {k : α → Except ε β} {b : β} :
    x >>= k = .ok b ↔ ∃ a, x = .ok a ∧ k a = .ok b := by
  cases x with
  | error e => exact ⟨nofun, nofun⟩
  | ok a =>
    constructor
    · intro h
      exact ⟨a, rfl, h⟩
    · rintro ⟨a', ha, h⟩
      cases ha
      exact h

/-- Whether a text ends behind a backslash that escapes what follows; `e` says whether it starts
behind one. -/
def escapes (e : Bool) (t : Text) : Bool := t.foldl (fun e c => !e && c = '\\') e

@[simp] theorem escapes_nil (e : Bool) : escapes e [] = e := rfl

@[simp] theorem escapes_cons (e : Bool) (c : Char) (t : Text) :
    escapes e (c :: t) = escapes (!e && c = '\\') t := rfl

theorem escapes_append (e : Bool) (t u : Text) :
    escapes e (t ++ u) = escapes (escapes e t) u := List.foldl_append

namespace Cursor

theorem bump_suffix (c : Cursor) : c.bump.rest <:+ c.rest := by
  unfold bump
  split
  · exact List.suffix_rfl
  · rename_i x rest h
    rw [h]
    exact List.suffix_cons x rest

end Cursor

/-- The text between two places is such that nothing is escaped at the second one, if anything is
left there; `e` says whether the first place is behind a backslash that escapes. -/
def Passed (e : Bool) (c d : Cursor) : Prop :=
  ∃ u, c.rest = u ++ d.rest ∧ (d.rest = [] ∨ escapes e u = false)

namespace Passed

variable {e v : Bool} {c d f : Cursor}

theorem refl (c : Cursor) : Passed false c c := ⟨[], rfl, .inr rfl⟩

theorem trans (hcd : Passed e c d) (hdf : Passed false d f) : Passed e c f := by
  obtain ⟨u, hu, hd⟩ := hcd
  obtain ⟨w, hw, hf⟩ := hdf
  refine ⟨u ++ w, by rw [hu, hw, List.append_assoc], ?_⟩
  rcases hf with hf | hf
  · exact .inl hf
  · rcases hd with hd | hd
    · rw [hd] at hw
      exact .inl (List.append_eq_nil_iff.mp hw.symm).2
    · rw [escapes_append, hd]
      exact .inr hf

/-- Behind a character that is no backslash nothing is escaped. -/
theorem of_last {u : Text} {x : Char} (h : c.rest = u ++ x :: d.rest) (hx : x ≠ '\\') :
    Passed e c d := by
  refine ⟨u ++ [x], by simp [h], .inr ?_⟩
  simp [escapes_append, hx]

theorem suffix (h : Passed e c d) : d.rest <:+ c.rest := by
  obtain ⟨u, hu, -⟩ := h
  exact ⟨u, hu.symm⟩

theorem bump_of_suffix {x : Char} {r : Text} (hs : d.rest <:+ c.rest) (h : d.rest = x :: r)
    (hx : x ≠ '\\') : Passed e c d.bump := by
  obtain ⟨u, hu⟩ := hs
  refine of_last (u := u) ?_ hx
  rw [← hu, h, Cursor.bump, h]

theorem bump {x : Char} {r : Text} (h : c.rest = x :: r) (hx : x ≠ '\\') : Passed e c c.bump :=
  of_last (u := []) (by simp [Cursor.bump, h]) hx

theorem of_suffix (hs : d.rest <:+ c.rest) (h : ∀ e, Passed e d f) : Passed false c f := by
  obtain ⟨w, hw⟩ := hs
  obtain ⟨u, hu, hf⟩ := h (escapes false w)
  refine ⟨w ++ u, by rw [← hw, hu, List.append_assoc], ?_⟩
  rw [escapes_append]
  exact hf

/-- An escaped backslash escapes nothing. -/
theorem bump_escaped (c : Cursor) : Passed true c c.bump := by
  cases h : c.rest with
  | nil => exact ⟨[], by simp [Cursor.bump, h]⟩
  | cons x r => exact ⟨[x], by simp [Cursor.bump, h], .inr (by simp)⟩

/-- What starts with a backslash has passed it together with what it escapes. -/
theorem of_escape {r : Text} (h : c.rest = '\\' :: r) (hd : Passed true c.bump d) :
    Passed false c d := by
  obtain ⟨u, hu, hd⟩ := hd
  refine ⟨'\\' :: u, ?_, hd⟩
  simp only [Cursor.bump, h] at hu
  rw [h, hu, List.cons_append]

/-- Layout ends in white space or at the end of a line, or the pattern ends in it. -/
theorem skipLayout {inComment : Bool} (he : inComment = false → e = false) (pos : Nat) (t : Text) :
    Passed e ⟨pos, t⟩ (Cursor.skipLayout inComment pos t) := by
  induction t generalizing e inComment pos with
  | nil => exact ⟨[], rfl, .inl rfl⟩
  | cons x t ih =>
    have step {f : Bool} {d : Cursor} (h : Passed f ⟨pos + 1, t⟩ d)
        (hf : f = (!e && decide (x = '\\'))) : Passed e ⟨pos, x :: t⟩ d := by
      obtain ⟨u, hu, hd⟩ := h
      exact ⟨x :: u, by rw [List.cons_append, ← hu], by rw [escapes_cons, ← hf]; exact hd⟩
    unfold Cursor.skipLayout
    split
    · refine step (ih ?_ _) rfl
      intro hx
      simp only [ne_eq, decide_not, Bool.not_eq_eq_eq_not, Bool.not_false, decide_eq_true_eq] at hx
      simp [hx]
    · rename_i hcomment
      obtain rfl := he (by simpa using hcomment)
      split
      · rename_i hblank
        have hx : x ≠ '\\' := fun hx => by simp [hx, isBlank] at hblank
        exact step (ih (fun _ => rfl) _) (by simp [hx])
      · split
        · refine step (ih ?_ _) rfl
          intro h
          cases h
        · exact refl _

theorem skip (v : Bool) (c : Cursor) : Passed false c (c.skip v) := by
  unfold Cursor.skip
  split
  · exact skipLayout (fun _ => rfl) c.pos c.rest
  · exact refl c

theorem next {x : Char} {r : Text} (h : c.rest = x :: r) (hx : x ≠ '\\') (v : Bool) :
    Passed e c (c.next v) := (bump h hx).trans (skip v _)

end Passed

theorem Cursor.next_suffix (v : Bool) (c : Cursor) : (c.next v).rest <:+ c.rest :=
  (Passed.skip v c.bump).suffix.trans c.bump_suffix

/-- What a reader leaves is passed to, as `Passed` says. -/
def Passes {α : Type} (e : Bool) (c : Cursor) (r : Except Fault (α × Cursor)) : Prop :=
  ∀ a d, r = .ok (a, d) → Passed e c d

namespace Passes

variable {α β : Type} {e : Bool} {c d : Cursor}

theorem error (e : Bool) (c : Cursor) (f : Fault) :
    Passes e c (.error f : Except Fault (α × Cursor)) := by
  intro a d h
  cases h

theorem refuse (e : Bool) (c : Cursor) (cause : Cause) (span : Span) :
    Passes e c (refuse cause span : Except Fault (α × Cursor)) := error e c _

theorem ok (a : α) (h : Passed e c d) : Passes e c (.ok (a, d) : Except Fault (α × Cursor)) := by
  intro a' d' h'
  cases h'
  exact h

theorem mono {r : Except Fault (α × Cursor)} (hr : Passes false d r) (h : Passed e c d) :
    Passes e c r := fun a f hf => h.trans (hr a f hf)

theorem bind {r : Except Fault (α × Cursor)} {k : α × Cursor → Except Fault (β × Cursor)}
    (hr : Passes e c r) (hk : ∀ a d, Passed e c d → Passes e c (k (a, d))) :
    Passes e c (r >>= k) := by
  intro b d h
  cases r with
  | error f => cases h
  | ok p => exact hk p.1 p.2 (hr p.1 p.2 rfl) b d h

/-- A check that answers no place passes nothing. -/
theorem bind_check {γ : Type} {r : Except Fault γ} {k : γ → Except Fault (β × Cursor)}
    (hk : ∀ a, Passes e c (k a)) : Passes e c (r >>= k) := by
  cases r with
  | error f =>
    intro b d h
    cases h
  | ok a => exact hk a

end Passes

end RegexLiteral.Pattern
