import RegexLiteral.Text

/-!
# The extent of automata

An automaton is built state by state, and the states are numbered in this order. A state takes 32
bytes, an edge that goes on without reading 4, and an edge for a range of bytes in a state that has
several 8. Building fails as soon as the automaton takes more than the limit. Since nothing is ever
taken away, it fails exactly if the whole automaton would.
-/
namespace RegexLiteral.Pattern

/-- How much of an automaton is built. -/
structure Extent where
  /-- The number of its states, which is the number of the next one. -/
  states : Nat
  /-- The bytes of the edges that its states hold. -/
  edgeBytes : Nat
  deriving DecidableEq, Repr

namespace Extent

/-- The most bytes that an automaton may take. -/
def limit : Nat := 10 * 1024 * 1024

/-- The bytes of a state without the edges that it holds. -/
def stateBytes : Nat := 32

def none : Extent := ⟨0, 0⟩

/-- The bytes of the whole. -/
def bytes (x : Extent) : Nat := stateBytes * x.states + x.edgeBytes

/-- The extent of two parts. -/
def add (x y : Extent) : Extent := ⟨x.states + y.states, x.edgeBytes + y.edgeBytes⟩

/-- One state with edges that go on without reading. -/
def ofChoices (edges : Nat) : Extent := ⟨1, 4 * edges⟩

/-- One state with edges for ranges of bytes. -/
def ofRanges (edges : Nat) : Extent := ⟨1, 8 * edges⟩

/-- States without edges of their own: each has one way to go on at most. -/
def ofPlain (states : Nat) : Extent := ⟨states, 0⟩

end Extent

/-- A step of building: how far the automaton goes behind it, if it does not outgrow the limit. -/
abbrev Building (α : Type) := StateT Extent Option α

namespace Building

/-- Adds states, and gives the number of the first. -/
def put (part : Extent) : Building Nat := fun x =>
  let y := x.add part
  if y.bytes ≤ Extent.limit then some (x.states, y) else none

/-- Takes a step a number of times. -/
def times (step : Building Unit) : Nat → Building Unit
  | 0 => pure ()
  | n + 1 => fun x =>
    match step x with
    | some (_, y) => times step n y
    | none => none

/-- Whether all can be built. -/
def fits (step : Building Unit) : Bool := (step .none).isSome

end Building

end RegexLiteral.Pattern
