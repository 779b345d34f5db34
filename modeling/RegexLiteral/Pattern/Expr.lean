import RegexLiteral.CharSet

/-!
# What patterns match

An expression says what a pattern matches, with all flags applied and all names looked up. The
constructors below are called through `Expr.ofText`, `Expr.ofSet`, `Expr.repeated`,
`Expr.inSequence` and `Expr.anyOf`, which bring expressions into a simpler form that matches the
same.
-/
namespace RegexLiteral.Pattern

/-- A condition on the characters on both sides of a place that concerns words. -/
inductive WordLook where
  | boundary
  | notBoundary
  | start
  | stop
  | startHalf
  | stopHalf
  deriving DecidableEq, Repr

/-- A condition on the characters on both sides of a place. -/
inductive Look where
  | textStart
  | textEnd
  /-- With `crlf`, a line feed, a carriage return, and the two together end lines. -/
  | lineStart (crlf : Bool)
  | lineEnd (crlf : Bool)
  | word (unicode : Bool) (kind : WordLook)
  deriving DecidableEq, Repr

/-- What a pattern matches. -/
inductive Expr where
  | empty
  | text (t : Text)
  | set (s : CharSet)
  | look (l : Look)
  | repetition (min : Nat) (max : Option Nat) (greedy : Bool) (body : Expr)
  | capture (index : Nat) (name : Option Text) (body : Expr)
  | concat (items : List Expr)
  | alternation (branches : List Expr)
  deriving BEq, Repr

namespace Expr

/-- The sum of numbers that are all known. -/
def sumOf (ns : List (Option Nat)) : Option Nat :=
  ns.foldr (fun a b => a.bind fun x => b.map fun y => x + y) (some 0)

mutual

/-- The fewest characters that the expression matches, if it can match. -/
def minLength : Expr → Option Nat
  | empty => some 0
  | text t => some t.length
  | set s => if s.isEmpty then none else some 1
  | look _ => some 0
  | repetition min _ _ body => body.minLength.map fun n => min * n
  | capture _ _ body => body.minLength
  | concat items => sumOf (minLengths items)
  | alternation branches =>
    let ns := minLengths branches
    if ns.all Option.isSome then (ns.filterMap id).min? else none

def minLengths : List Expr → List (Option Nat)
  | [] => []
  | e :: es => e.minLength :: minLengths es

end

mutual

/-- The most characters that the expression matches, if there is a bound. -/
def maxLength : Expr → Option Nat
  | empty => some 0
  | text t => some t.length
  | set s => if s.isEmpty then none else some 1
  | look _ => some 0
  | repetition _ max _ body => max.bind fun m => body.maxLength.map fun n => m * n
  | capture _ _ body => body.maxLength
  | concat items => sumOf (maxLengths items)
  | alternation branches =>
    let ns := maxLengths branches
    if ns.all Option.isSome then (ns.filterMap id).max? else none

def maxLengths : List Expr → List (Option Nat)
  | [] => []
  | e :: es => e.maxLength :: maxLengths es

end

def ofText : Text → Expr
  | [] => empty
  | t => text t

/-- A set with one member is a text. -/
def ofSet (s : CharSet) : Expr :=
  match s.only? with
  | some c => text [c]
  | none => set s

/-- Repeats an expression. One that matches no characters need not be repeated more than once. -/
def repeated (min : Nat) (max : Option Nat) (greedy : Bool) (body : Expr) : Expr :=
  let blank := body.maxLength = some 0
  let min := if blank then Nat.min min 1 else min
  let max := if blank then some (Nat.min (max.getD 1) 1) else max
  if min = 0 && max = some 0 then empty
  else if min = 1 && max = some 1 then body
  else repetition min max greedy body

/-- Joins texts that follow each other. -/
def mergeTexts : List Expr → List Expr
  | [] => []
  | text t :: rest =>
    match mergeTexts rest with
    | text u :: more => text (t ++ u) :: more
    | more => text t :: more
  | e :: rest => e :: mergeTexts rest

/-- What an expression is made of, one part after the other. -/
def parts : Expr → List Expr
  | empty => []
  | concat items => items
  | e => [e]

/-- One expression after the other. -/
def inSequence (es : List Expr) : Expr :=
  match mergeTexts (es.flatMap parts) with
  | [] => empty
  | [e] => e
  | items => concat items

/-- The character that an expression consists of. -/
def singleChar? : Expr → Option Char
  | text [c] => some c
  | _ => none

def set? : Expr → Option CharSet
  | set s => some s
  | _ => none

def items? : Expr → Option (List Expr)
  | concat items => some items
  | _ => none

/-- Results for all members of a list, if there is one for each. -/
def forAll? {α β : Type} (f : α → Option β) : List α → Option (List β)
  | [] => some []
  | a :: as => (f a).bind fun b => (forAll? f as).map fun bs => b :: bs

/-- The alternation of expressions, without the alternations among them. -/
def flatten (es : List Expr) : List Expr :=
  es.flatMap fun
    | alternation branches => branches
    | e => [e]

/-- An alternation of single characters or of sets is a set. -/
def mergeSets (es : List Expr) : Option Expr :=
  match forAll? singleChar? es, forAll? set? es with
  | some cs, _ => some (ofSet (.ofRanges (cs.map fun c => ⟨c.toNat, c.toNat⟩)))
  | none, some ss => some (ofSet (.ofRanges (ss.flatMap CharSet.ranges)))
  | none, none => none

/-- The first of the branches that matches. -/
def firstOf (es : List Expr) : Expr :=
  match flatten es with
  | [] => set .empty
  | [e] => e
  | branches => (mergeSets branches).getD (alternation branches)

/-- The longest common start of two lists. -/
def commonStart : List Expr → List Expr → List Expr
  | a :: as, b :: bs => if a == b then a :: commonStart as bs else []
  | _, _ => []

/-- The items with which all branches start, if all branches have several items. -/
def sharedStart (branches : List Expr) : List Expr :=
  match forAll? items? branches with
  | some (first :: others) => others.foldl commonStart first
  | _ => []

/-- The first of the branches that matches; what all branches start with is tried only once. -/
def anyOf (es : List Expr) : Expr :=
  match firstOf es with
  | alternation branches =>
    match sharedStart branches with
    | [] => alternation branches
    | shared =>
      let rests := branches.map fun b => inSequence ((b.items?.getD []).drop shared.length)
      inSequence (shared ++ [firstOf rests])
  | e => e

end Expr
end RegexLiteral.Pattern
