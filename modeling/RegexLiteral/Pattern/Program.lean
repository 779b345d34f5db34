import RegexLiteral.Pattern.Expr

/-!
# Programs

An expression is compiled to a program: a list of instructions, each of which names the instructions
that follow it. A program is built from its end: `emit` is given the instruction that comes after
the expression and answers the one that the expression starts with. The targets of a fork are in
order of preference, so that greedy and lazy repetitions differ in the order of two targets only.
-/
namespace RegexLiteral.Pattern

/-- A step of a program. -/
inductive Instr where
  /-- Reads this character. -/
  | char (c : Char) (next : Nat)
  /-- Reads a character of this set. -/
  | set (s : CharSet) (next : Nat)
  /-- Goes on where the condition holds. -/
  | look (l : Look) (next : Nat)
  /-- Goes on at each of the targets, the first one preferred. -/
  | fork (targets : List Nat)
  /-- Notes the place in a slot. -/
  | save (slot : Nat) (next : Nat)
  /-- A match is complete. -/
  | accept
  deriving Repr

/-- The instructions of a program, and the one it starts with. -/
structure Program where
  code : Array Instr
  start : Nat

/-- The instruction that does the same but notes nothing. -/
def Instr.withoutMark : Instr → Instr
  | .save _ next => .fork [next]
  | i => i

/-- The program that finds the same matches but notes nothing of their groups. -/
def Program.withoutMarks (p : Program) : Program := { p with code := p.code.map Instr.withoutMark }

/-- Instructions so far and the place to go on at. -/
structure Emitted where
  code : Array Instr
  entry : Nat

namespace Emitted

/-- Puts an instruction in front. -/
def push : Emitted → Instr → Emitted
  | ⟨code, _⟩, i =>
    let entry := code.size
    ⟨code.push i, entry⟩

/-- Puts the characters of a text in front. -/
def pushText (p : Emitted) (t : Text) : Emitted :=
  t.foldr (fun c p => p.push (.char c p.entry)) p

/-- Puts a choice in front between `entry`, preferred if `greedy`, and `other`. -/
def pushChoice (p : Emitted) (greedy : Bool) (other : Nat) : Emitted :=
  p.push (.fork (if greedy then [p.entry, other] else [other, p.entry]))

/-- Puts `build` in front of itself: behind it there is a choice between once more and going on.
The program starts at `build`. -/
def loop : Emitted → Bool → (Emitted → Emitted) → Emitted × Nat
  | ⟨code, after⟩, greedy, build =>
    let turn := code.size
    let ⟨code, entry⟩ := build ⟨code.push (.fork []), turn⟩
    let targets := if greedy then [entry, after] else [after, entry]
    (⟨code.setIfInBounds turn (.fork targets), entry⟩, turn)

/-- Applies a function a number of times. -/
def iterate (f : Emitted → Emitted) : Nat → Emitted → Emitted
  | 0, p => p
  | n + 1, p => iterate f n (f p)

end Emitted

mutual

/-- Puts an expression in front. A repetition of what can match nothing is a choice between none
and one or more, so that the preference between empty and other matches is kept. -/
def Expr.emit : Expr → Emitted → Emitted
  | .empty, p => p
  | .text t, p => p.pushText t
  | .set s, p => p.push (.set s p.entry)
  | .look l, p => p.push (.look l p.entry)
  | .capture index _ body, p =>
    let q := body.emit (p.push (.save (2 * index + 1) p.entry))
    q.push (.save (2 * index) q.entry)
  | .concat items, p => Expr.emitAll items p
  | .alternation branches, p =>
    let (q, targets) := Expr.emitEach branches p
    q.push (.fork targets)
  | .repetition min none greedy body, ⟨code, after⟩ =>
    let (q, turn) := Emitted.loop ⟨code, after⟩ greedy fun r => body.emit r
    match min with
    | 0 =>
      if body.minLength.any (0 < ·) then ⟨q.code, turn⟩
      else q.pushChoice greedy after
    | n + 1 => Emitted.iterate (fun r => body.emit r) n q
  | .repetition min (some max) greedy body, ⟨code, after⟩ =>
    let q := Emitted.iterate (fun r => (body.emit r).pushChoice greedy after) (max - min)
      ⟨code, after⟩
    Emitted.iterate (fun r => body.emit r) min q

/-- Puts expressions in front, one after the other. -/
def Expr.emitAll : List Expr → Emitted → Emitted
  | [], p => p
  | e :: es, p => e.emit (Expr.emitAll es p)

/-- Puts expressions in front that all go on at `entry`, and gives their starts. -/
def Expr.emitEach : List Expr → Emitted → Emitted × List Nat
  | [], p => (p, [])
  | e :: es, ⟨code, after⟩ =>
    let ⟨code, entry⟩ := e.emit ⟨code, after⟩
    let (q, targets) := Expr.emitEach es ⟨code, after⟩
    (q, entry :: targets)

end

/-- The program of an expression. -/
def Expr.program (e : Expr) : Program :=
  let p := e.emit ⟨#[.accept], 0⟩
  ⟨p.code, p.entry⟩

mutual

/-- The groups of an expression: their numbers and names. -/
def Expr.captures : Expr → List (Nat × Option Text)
  | .capture index name body => (index, name) :: body.captures
  | .repetition _ _ _ body => body.captures
  | .concat items => Expr.capturesAll items
  | .alternation branches => Expr.capturesAll branches
  | _ => []

def Expr.capturesAll : List Expr → List (Nat × Option Text)
  | [] => []
  | e :: es => e.captures ++ Expr.capturesAll es

end

/-- The name of every group up to the highest number, the whole match first. A number that no group
has, since the group can never take part, has no name. -/
def Expr.groupNames (e : Expr) : List (Option Text) :=
  let found := e.captures
  let highest := (found.map Prod.fst).foldl max 0
  (List.range (highest + 1)).map fun i => (found.lookup i).getD none

end RegexLiteral.Pattern
