import RegexLiteral.Pattern.Bracket
import RegexLiteral.Pattern.Count
import RegexLiteral.Pattern.GroupHead

/-!
# Reading patterns

A pattern is read from left to right. What has been read waits in a `Reader`: the items of the
branch at hand, the branches before it, and the groups that are still open around them. `parse`
then checks that nothing is nested too deep.
-/
namespace RegexLiteral.Pattern

/-- The items of a branch, last one first, and where the branch starts. -/
structure Branch where
  start : Nat
  items : List Ast

/-- The branch as a tree, if it ends here. -/
def Branch.close (b : Branch) (stop : Nat) : Ast :=
  match b.items with
  | [] => .empty ⟨b.start, stop⟩
  | [a] => a
  | items => .concat ⟨b.start, stop⟩ items.reverse

/-- The branches of a group so far: those that are complete, last one first, and the one at
hand. -/
structure Level where
  /-- Where the first branch starts. -/
  start : Nat
  complete : List Ast
  branch : Branch

namespace Level

/-- A level that starts here. -/
def new (start : Nat) : Level := ⟨start, [], ⟨start, []⟩⟩

def add (l : Level) (a : Ast) : Level :=
  { l with branch := { l.branch with items := a :: l.branch.items } }

/-- Goes on behind a bar. -/
def alternate (l : Level) (bar : Cursor) : Level :=
  ⟨l.start, l.branch.close bar.pos :: l.complete, ⟨bar.pos + 1, []⟩⟩

/-- All branches as a tree, if the last one ends here. -/
def close (l : Level) (stop : Nat) : Ast :=
  match l.complete with
  | [] => l.branch.close stop
  | complete => .alternation ⟨l.start, stop⟩ (l.branch.close stop :: complete).reverse

end Level

/-- A group whose closing parenthesis has not been read, with what it stands in. -/
structure OpenGroup where
  /-- The opening parenthesis. -/
  span : Span
  kind : GroupKind
  /-- Whether the text around the group is verbose. -/
  verbose : Bool
  level : Level

/-- What has been read of a pattern. -/
structure Reader where
  /-- The open groups, innermost first. -/
  outer : List OpenGroup
  level : Level
  verbose : Bool
  /-- The number of capturing groups so far. -/
  captures : Nat
  /-- The names of groups so far, and where they stand. -/
  names : List (Text × Span)

namespace Reader

/-- Nothing read yet. -/
def new : Reader := ⟨[], .new 0, false, 0, []⟩

def add (r : Reader) (a : Ast) : Reader := { r with level := r.level.add a }

/-- Opens a group; what is in it starts at `start`. -/
def enter (r : Reader) (span : Span) (kind : GroupKind) (verbose : Bool) (start : Nat) : Reader :=
  { r with
    outer := ⟨span, kind, r.verbose, r.level⟩ :: r.outer
    level := .new start
    verbose := verbose }

/-- Opens what a parenthesis stands for; `c` stands on it. -/
def openGroup (r : Reader) (c : Cursor) : Except Fault (Reader × Cursor) := do
  let (head, d) ← readGroupHead r.verbose c
  match head with
  | .directive span items =>
    let verbose := (flagState? .ignoreWhitespace items).getD r.verbose
    .ok ({ r.add (.flags span items) with verbose := verbose }, d)
  | .plain items =>
    let verbose := (flagState? .ignoreWhitespace items).getD r.verbose
    .ok (r.enter c.char (.plain items) verbose d.pos, d)
  | .named name span =>
    match r.names.find? fun p => p.1 = name with
    | some (_, first) => refuse (.groupNameDuplicate first) span
    | none =>
      let index := r.captures + 1
      .ok ({ r.enter c.char (.capture index (some name)) r.verbose d.pos with
        captures := index
        names := (name, span) :: r.names }, d)
  | .unnamed =>
    let index := r.captures + 1
    .ok ({ r.enter c.char (.capture index none) r.verbose d.pos with captures := index }, d)

/-- Closes the innermost group; `c` stands on the parenthesis. -/
def closeGroup (r : Reader) (c : Cursor) : Except Fault (Reader × Cursor) :=
  match r.outer with
  | [] => refuse .groupUnopened c.char
  | g :: outer =>
    let span : Span := ⟨g.span.start, c.pos + 1⟩
    .ok ({ r with
      outer := outer
      level := g.level.add (.group span g.kind (r.level.close c.pos))
      verbose := g.verbose }, c.bump)

/-- The last item of the branch and the branch without it. There is nothing to repeat at the start
of a branch and behind flags. -/
def takeLast (r : Reader) (c : Cursor) : Except Fault (Ast × Reader) :=
  match r.level.branch.items with
  | [] => refuse .repetitionMissing c.here
  | .flags .. :: _ => refuse .repetitionMissing c.here
  | a :: items =>
    .ok (a, { r with level := { r.level with branch := { r.level.branch with items := items } } })

/-- Puts an item back with a repetition that ends at `stop`. -/
def repeatLast (r : Reader) (a : Ast) (count : Count) (stop : Nat) : Reader :=
  r.add (.repetition ⟨a.span.start, stop⟩ count.min count.max count.greedy a)

/-- Reads a repetition of one sign; `c` stands on it. -/
def signRepetition (r : Reader) (c : Cursor) (min : Nat) (max : Option Nat) :
    Except Fault (Reader × Cursor) := do
  let (a, r) ← r.takeLast c
  let d := c.bump
  if d.rest.head? = some '?' then
    .ok (r.repeatLast a ⟨min, max, false⟩ d.bump.pos, d.bump)
  else .ok (r.repeatLast a ⟨min, max, true⟩ d.pos, d)

/-- Reads a repetition with a count; `c` stands on the brace. -/
def countRepetition (r : Reader) (c : Cursor) : Except Fault (Reader × Cursor) := do
  let (a, r) ← r.takeLast c
  let (count, d) ← readCount r.verbose c
  .ok (r.repeatLast a count d.pos, d)

/-- Reads what starts with the character `x`, on which `c` stands. -/
def step (r : Reader) (x : Char) (c : Cursor) : Except Fault (Reader × Cursor) :=
  if x = '(' then r.openGroup c
  else if x = ')' then r.closeGroup c
  else if x = '|' then .ok ({ r with level := r.level.alternate c }, c.bump)
  else if x = '[' then do
    let (a, d) ← readBracket r.verbose c
    .ok (r.add a, d)
  else if x = '?' then r.signRepetition c 0 (some 1)
  else if x = '*' then r.signRepetition c 0 none
  else if x = '+' then r.signRepetition c 1 none
  else if x = '\x7b' then r.countRepetition c
  else if x = '\\' then do
    let (p, d) ← readEscape r.verbose c.pos c.bump
    .ok (r.add p.toAst, d)
  else .ok (r.add (plainPrimitive c.pos x).toAst, c.bump)

/-- The pattern, if it ends here. -/
def finish (r : Reader) (c : Cursor) : Except Fault Ast :=
  match r.outer with
  | [] => .ok (r.level.close c.pos)
  | g :: _ => refuse .groupUnclosed g.span

theorem openGroup_onward (r : Reader) (c : Cursor) : Onward c.bump (r.openGroup c) := by
  unfold openGroup
  refine .bind (fun a d h => Nat.le_trans (readGroupHead_onward _ c a d h)
    (Cursor.skip_left _ _)) ?_
  intro head d h
  dsimp only
  split
  · exact .ok _ h
  · exact .ok _ h
  · split
    · exact .refuse _ _ _
    · exact .ok _ h
  · exact .ok _ h

theorem closeGroup_onward (r : Reader) (c : Cursor) : Onward c.bump (r.closeGroup c) := by
  unfold closeGroup
  split
  · exact .refuse _ _ _
  · exact .ok _ (Nat.le_refl _)

theorem signRepetition_onward (r : Reader) (c : Cursor) (min : Nat) (max : Option Nat) :
    Onward c.bump (r.signRepetition c min max) := by
  intro s d h
  unfold signRepetition at h
  cases ht : r.takeLast c with
  | error f => simp [ht, bind, Except.bind] at h
  | ok p =>
    simp only [ht, bind, Except.bind] at h
    split at h
    · simp only [Except.ok.injEq, Prod.mk.injEq] at h
      exact h.2 ▸ Cursor.bump_left _
    · simp only [Except.ok.injEq, Prod.mk.injEq] at h
      exact h.2 ▸ Nat.le_refl _

theorem countRepetition_onward (r : Reader) (c : Cursor) :
    Onward c.bump (r.countRepetition c) := by
  intro s d h
  unfold countRepetition at h
  cases ht : r.takeLast c with
  | error f => simp [ht, bind, Except.bind] at h
  | ok p =>
    cases hc : readCount p.2.verbose c with
    | error f => simp [ht, hc, bind, Except.bind] at h
    | ok q =>
      simp only [ht, hc, bind, Except.bind, Except.ok.injEq, Prod.mk.injEq] at h
      exact h.2 ▸ Nat.le_trans (readCount_onward _ c q.1 q.2 hc) (Cursor.skip_left _ _)

/-- A step leaves its first character behind. -/
theorem step_onward (r : Reader) (x : Char) (c : Cursor) : Onward c.bump (r.step x c) := by
  unfold step
  repeat' split
  · exact openGroup_onward r c
  · exact closeGroup_onward r c
  · exact .ok _ (Nat.le_refl _)
  · exact .bind (readBracket_onward _ c) fun a d h => .ok _ h
  · exact signRepetition_onward r c _ _
  · exact signRepetition_onward r c _ _
  · exact signRepetition_onward r c _ _
  · exact countRepetition_onward r c
  · exact .bind (readEscape_onward _ _ _) fun a d h => .ok _ h
  · exact .ok _ (Nat.le_refl _)

/-- Reads the rest of a pattern. -/
def readItems (r : Reader) (c : Cursor) : Except Fault Ast :=
  have _hs := Cursor.skip_left r.verbose c
  match hd : (c.skip r.verbose).rest with
  | [] => r.finish (c.skip r.verbose)
  | x :: _ =>
    match hr : r.step x (c.skip r.verbose) with
    | .error f => .error f
    | .ok (s, d) =>
      have := Cursor.bump_left_lt hd
      have := step_onward r x _ s d hr
      readItems s d
termination_by c.left
decreasing_by omega

end Reader

mutual

/-- The first place at which a class is nested too deep, if it stands in `depth` things. -/
def ClassTree.tooDeep? (depth : Nat) : ClassTree → Option Span
  | .bracketed span _ body =>
    if depth < nestLimit then body.tooDeep? (depth + 1) else some span
  | .union span items =>
    if depth < nestLimit then ClassTree.tooDeepAny? (depth + 1) items else some span
  | .binary span _ left right =>
    if depth < nestLimit then left.tooDeep? (depth + 1) <|> right.tooDeep? (depth + 1)
    else some span
  | _ => none

def ClassTree.tooDeepAny? (depth : Nat) : List ClassTree → Option Span
  | [] => none
  | t :: ts => t.tooDeep? depth <|> ClassTree.tooDeepAny? depth ts

end

mutual

/-- The first place at which a pattern is nested too deep, if it stands in `depth` things. Classes,
repetitions, groups, alternations and concatenations count. -/
def Ast.tooDeep? (depth : Nat) : Ast → Option Span
  | .bracketed span _ body =>
    if depth < nestLimit then body.tooDeep? (depth + 1) else some span
  | .repetition span _ _ _ body =>
    if depth < nestLimit then body.tooDeep? (depth + 1) else some span
  | .group span _ body => if depth < nestLimit then body.tooDeep? (depth + 1) else some span
  | .alternation span branches =>
    if depth < nestLimit then Ast.tooDeepAny? (depth + 1) branches else some span
  | .concat span items =>
    if depth < nestLimit then Ast.tooDeepAny? (depth + 1) items else some span
  | _ => none

def Ast.tooDeepAny? (depth : Nat) : List Ast → Option Span
  | [] => none
  | a :: as => a.tooDeep? depth <|> Ast.tooDeepAny? depth as

end

/-- Reads a pattern. -/
def parse (pattern : Text) : Except Fault Ast := do
  let a ← Reader.readItems .new ⟨0, pattern⟩
  match a.tooDeep? 0 with
  | some span => refuse .nestLimitExceeded span
  | none => .ok a

end RegexLiteral.Pattern
