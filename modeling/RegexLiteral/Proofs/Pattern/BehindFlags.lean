import RegexLiteral.Literal.Flags
import RegexLiteral.Pattern.Reader
import RegexLiteral.Proofs.Pattern.InStep

/-!
# Patterns behind a group of flags

The engine gets a pattern behind a group of flags. Reading the pattern there goes in step with
reading it alone, `k` characters further on, where `k` is the length of the group
(`readItems_enginePattern`). The invariant is that the two readers are alike (`Reader.Alike`): they
stand in groups that opened at the same places, know the same names, and have something to repeat or
have not. The last is the point at the start of the pattern, where one reader has read flags and the
other nothing: neither of these can be repeated.
-/
namespace RegexLiteral.Pattern

/-- Whether the branch at hand ends in something that can be repeated. -/
def Level.repeatable (l : Level) : Bool :=
  match l.branch.items with
  | [] => false
  | a :: _ => !a.isFlags

/-- No primitive is a row of flags. -/
theorem Primitive.sameKind (p q : Primitive) : q.toAst.isFlags = p.toAst.isFlags := by
  cases p <;> cases q <;> rfl

/-- A group that is open further on. -/
structure OpenGroup.Alike (k : Nat) (g h : OpenGroup) : Prop where
  span : h.span = g.span.shift k
  verbose : h.verbose = g.verbose
  repeatable : h.level.repeatable = g.level.repeatable

namespace Reader

/-- Readers that agree but for what they have read of the branch at hand. -/
structure Around (k : Nat) (r s : Reader) : Prop where
  outer : List.Forall₂ (OpenGroup.Alike k) r.outer s.outer
  verbose : s.verbose = r.verbose
  names : s.names = shiftSpans k r.names

/-- Readers that will read what follows alike. -/
structure Alike (k : Nat) (r s : Reader) : Prop extends Around k r s where
  repeatable : s.level.repeatable = r.level.repeatable

variable {k : Nat} {r s : Reader}

theorem Around.add (h : Around k r s) {a b : Ast} (hab : b.isFlags = a.isFlags) :
    Alike k (r.add a) (s.add b) :=
  { outer := h.outer
    verbose := h.verbose
    names := h.names
    repeatable := congrArg Bool.not hab }

theorem Alike.enter (h : Alike k r s) (span : Span) (kind kind' : GroupKind) (verbose : Bool)
    (start start' : Nat) :
    Alike k (r.enter span kind verbose start) (s.enter (span.shift k) kind' verbose start') :=
  { outer := .cons ⟨rfl, h.verbose, h.repeatable⟩ h.outer
    verbose := rfl
    names := h.names
    repeatable := rfl }

section Steps

variable (c : Cursor)

theorem openGroup_inStep (h : Alike k r s) :
    InStep k (Along k (Alike k)) (r.openGroup c) (s.openGroup (c.shift k)) := by
  unfold openGroup
  rw [h.verbose]
  refine (readGroupHead_inStep k r.verbose c).andThen ?_
  rintro head _ d rfl
  cases head with
  | directive span items =>
    have hadd := h.add (a := .flags span items) (b := .flags (span.shift k) items) rfl
    exact .done ⟨⟨hadd.outer, rfl, hadd.names⟩, hadd.repeatable⟩ rfl
  | plain items => exact .done (h.enter _ _ _ _ _ _) rfl
  | named name span =>
    simp only [GroupHead.shift, h.names, find?_shiftSpans]
    cases r.names.find? fun p => p.1 = name with
    | some p => exact .refuse rfl rfl
    | none =>
      have henter := h.enter c.char (.capture (r.captures + 1) (some name))
        (.capture (s.captures + 1) (some name)) r.verbose d.pos (d.shift k).pos
      exact .done ⟨⟨henter.outer, rfl, rfl⟩, rfl⟩ rfl
  | unnamed =>
    have henter := h.enter c.char (.capture (r.captures + 1) none)
      (.capture (s.captures + 1) none) r.verbose d.pos (d.shift k).pos
    exact .done ⟨⟨henter.outer, rfl, henter.names⟩, rfl⟩ rfl

theorem closeGroup_inStep (h : Alike k r s) :
    InStep k (Along k (Alike k)) (r.closeGroup c) (s.closeGroup (c.shift k)) := by
  have houter := h.outer
  unfold closeGroup
  rw [Cursor.bump_shift]
  generalize r.outer = gs at houter
  generalize s.outer = hs at houter
  cases houter with
  | nil => exact .refuse rfl rfl
  | cons hg houter => exact .done ⟨⟨houter, hg.verbose, h.names⟩, rfl⟩ rfl

theorem takeLast_of_repeatable (h : r.level.repeatable) (c : Cursor) :
    ∃ a level, r.takeLast c = .ok (a, { r with level := level }) := by
  unfold Level.repeatable at h
  unfold takeLast
  split
  · rename_i hitems
    rw [hitems] at h
    cases h
  · rename_i hitems
    rw [hitems] at h
    cases h
  · exact ⟨_, _, rfl⟩

theorem takeLast_of_not_repeatable (h : r.level.repeatable = false) (c : Cursor) :
    r.takeLast c = refuse .repetitionMissing c.here := by
  unfold Level.repeatable at h
  unfold takeLast
  split
  · rfl
  · rfl
  · rename_i a items hflags hitems
    rw [hitems] at h
    cases a with
    | flags span items => exact absurd rfl (hflags span items)
    | _ => cases h

/-- What can be repeated is taken by both readers or by neither. -/
theorem takeLast_inStep (h : Alike k r s) :
    InStep k (fun p q => Around k p.2 q.2) (r.takeLast c) (s.takeLast (c.shift k)) := by
  have hrepeatable := h.repeatable
  cases hr : r.level.repeatable with
  | true =>
    obtain ⟨a, level, htake⟩ := takeLast_of_repeatable hr c
    obtain ⟨b, level', htake'⟩ := takeLast_of_repeatable (hrepeatable.trans hr) (c.shift k)
    rw [htake, htake']
    exact .ok ⟨h.outer, h.verbose, h.names⟩
  | false =>
    rw [takeLast_of_not_repeatable hr, takeLast_of_not_repeatable (hrepeatable.trans hr)]
    exact .refuse rfl rfl

theorem signRepetition_inStep (h : Alike k r s) (min : Nat) (max : Option Nat) :
    InStep k (Along k (Alike k)) (r.signRepetition c min max)
      (s.signRepetition (c.shift k) min max) := by
  unfold signRepetition
  refine (takeLast_inStep c h).bind ?_
  rintro ⟨a, r⟩ ⟨b, s⟩ hrs
  simp only [Cursor.bump_shift, Cursor.rest_shift]
  split
  · exact .done (hrs.add rfl) rfl
  · exact .done (hrs.add rfl) rfl

theorem countRepetition_inStep (h : Alike k r s) :
    InStep k (Along k (Alike k)) (r.countRepetition c) (s.countRepetition (c.shift k)) := by
  unfold countRepetition
  refine (takeLast_inStep c h).bind ?_
  rintro ⟨a, r⟩ ⟨b, s⟩ hrs
  dsimp only
  rw [hrs.verbose]
  refine (readCount_inStep k r.verbose c).andThen ?_
  rintro count _ d rfl
  exact .done (hrs.add rfl) rfl

theorem step_inStep (h : Alike k r s) (x : Char) :
    InStep k (Along k (Alike k)) (r.step x c) (s.step x (c.shift k)) := by
  unfold step
  rw [h.verbose, Cursor.bump_shift]
  -- Both steps ask for the same characters, one after the other.
  refine .ite (openGroup_inStep c h) <| .ite (closeGroup_inStep c h) <| .ite ?alternate <|
    .ite ?bracket <| .ite (signRepetition_inStep c h _ _) <| .ite (signRepetition_inStep c h _ _) <|
    .ite (signRepetition_inStep c h _ _) <| .ite (countRepetition_inStep c h) <| .ite ?escape ?plain
  case alternate => exact .done ⟨⟨h.outer, rfl, h.names⟩, rfl⟩ rfl
  case bracket =>
    refine (readBracket_inStep k r.verbose c).andThen ?_
    intro a b d hab
    exact .done (h.add hab) rfl
  case escape =>
    refine (readEscape_inStep k r.verbose c.bump c.pos).andThen ?_
    rintro p _ d rfl
    exact .done (h.add (Primitive.sameKind _ _)) rfl
  case plain => exact .done (h.add (Primitive.sameKind _ _)) rfl

end Steps

theorem finish_inStep (h : Alike k r s) (c : Cursor) :
    InStep k (fun _ _ => True) (r.finish c) (s.finish (c.shift k)) := by
  have houter := h.outer
  unfold finish
  generalize r.outer = gs at houter
  generalize s.outer = hs at houter
  cases houter with
  | nil => exact .ok trivial
  | cons hg houter => exact .refuse rfl hg.span

/-- What reading comes to, by the character behind layout. -/
theorem readItems_eq (r : Reader) (c : Cursor) :
    readItems r c =
      match (c.skip r.verbose).rest with
      | [] => r.finish (c.skip r.verbose)
      | x :: _ => r.step x (c.skip r.verbose) >>= fun p => readItems p.1 p.2 := by
  rw [readItems.eq_def]
  dsimp only
  split
  · rename_i h
    rw [h]
  · rename_i x t h
    rw [h]
    dsimp only
    split
    · rename_i hr
      rw [hr]
      rfl
    · rename_i hr
      rw [hr]
      rfl

/-- Readers that are alike read the rest of a pattern in step. -/
theorem readItems_inStep {r s : Reader} (h : Alike k r s) (c : Cursor) :
    InStep k (fun _ _ => True) (readItems r c) (readItems s (c.shift k)) := by
  have hskip := Cursor.skip_left r.verbose c
  rw [readItems_eq r, readItems_eq s, h.verbose, Cursor.skip_shift, Cursor.rest_shift]
  split
  · exact finish_inStep h _
  · rename_i x t hd
    have hbump := Cursor.bump_left_lt hd
    refine (step_inStep _ h x).andThen_of_read ?_
    intro r' s' d hread halike
    have honward := step_onward r x _ r' d hread
    exact readItems_inStep halike d
termination_by c.left
decreasing_by omega

/-- Behind the group of flags reading goes on with the flags as all that was read. -/
theorem readItems_engineGroup {f : Flags} {g : Text} (h : f.engineGroup = some g) (t : Text) :
    ∃ span items,
      readItems new ⟨0, g ++ t⟩ = readItems (new.add (.flags span items)) ⟨g.length, t⟩ := by
  obtain ⟨global, i, m, s, extended⟩ := f
  cases i <;> cases m <;> cases s <;> cases h <;> exact ⟨_, _, readItems_eq ..⟩

end Reader

/-- A pattern behind the engine's flags is read in step with the pattern alone. -/
theorem readItems_enginePattern (f : Flags) (t : Text) :
    InStep (f.engineGroup.getD []).length (fun _ _ => True) (Reader.readItems .new ⟨0, t⟩)
      (Reader.readItems .new ⟨0, f.enginePattern t⟩) := by
  unfold Flags.enginePattern
  cases hg : f.engineGroup with
  | none =>
    have halike : Reader.Alike 0 .new .new := ⟨⟨.nil, rfl, rfl⟩, rfl⟩
    exact Reader.readItems_inStep halike ⟨0, t⟩
  | some g =>
    obtain ⟨span, items, hread⟩ := Reader.readItems_engineGroup hg t
    rw [Option.getD_some, hread]
    have halike : Reader.Alike g.length .new (Reader.new.add (.flags span items)) :=
      ⟨⟨.nil, rfl, rfl⟩, rfl⟩
    exact Reader.readItems_inStep halike ⟨0, t⟩

end RegexLiteral.Pattern
