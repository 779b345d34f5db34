import RegexLiteral.Pattern.ByteRows
import RegexLiteral.Pattern.Expr
import RegexLiteral.Pattern.LiteralTrie
import Std.Data.HashMap

/-!
# The size of patterns

How large a pattern is, is told by the automata that read the bytes of UTF-8 for it, forwards and
backwards. Repetitions count as often as they have to be written out. A pattern is refused if one of
its automata outgrows the limit.

States that read the bytes of a character set are used again where a state is needed that does the
same. Those that can be used again are kept in a table, in which a new state may take the place of
an older one.
-/
namespace RegexLiteral.Pattern

/-- States that can be used again, each under the numbers that tell what it does. A table has a
fixed number of places, and numbers have their place by a hash. -/
structure StateTable where
  places : Nat
  known : Std.HashMap Nat (List Nat × Nat)

namespace StateTable

def empty (places : Nat) : StateTable := ⟨places, {}⟩

/-- The place of numbers: the hash of Fowler, Noll and Vo in 64 bits, one factor for each number. -/
def placeOf (t : StateTable) (key : List Nat) : Nat :=
  (key.foldl (fun h n => (h ^^^ n.toUInt64) * 1099511628211) (14695981039346656037 : UInt64)).toNat
    % t.places

/-- The state under a key, which is added if the table does not have it. -/
def get (part : Extent) (key : List Nat) (t : StateTable) : Building (Nat × StateTable) := do
  let place := t.placeOf key
  match (t.known[place]?).filter fun (k, _) => k = key with
  | some (_, state) => return (state, t)
  | none =>
    let state ← Building.put part
    return (state, { t with known := t.known.insert place (key, state) })

end StateTable

/-- Adds the states that read one of several rows of at most `n` ranges and then go on at `final`,
and gives the first. Equal ends of rows have their states in common. -/
def buildRows (final : Nat) : Nat → List ByteRow → StateTable → Building (Nat × StateTable)
  | 0, _, t => return (final, t)
  | n + 1, rows, t =>
    match groupRows rows with
    | [] => return (final, t)
    | groups => do
      let (key, t) ← groups.foldlM
        (fun ((key, t) : List Nat × StateTable) (r, tails) => do
          let (next, t) ← buildRows final n tails t
          return (next :: r.high :: r.low :: key, t)) ([], t)
      t.get (.ofRanges groups.length) key.reverse

/-- Adds the states that read a row backwards and then go on at `final`, and gives the first. Equal
starts of rows have their states in common. -/
def buildRowBackwards : Nat → ByteRow → StateTable → Building (Nat × StateTable)
  | final, [], t => return (final, t)
  | final, r :: row, t => do
    let (state, t) ← t.get (.ofPlain 1) [final, r.low, r.high]
    buildRowBackwards state row t

/-- Adds the states that read a character of a set. -/
def buildSet (backwards : Bool) (s : CharSet) : Building Unit := do
  if s.isAscii then
    let _ ← Building.put ((Extent.ofPlain 1).add (.ofRanges s.ranges.length))
  else
    let rows := byteRows s
    if backwards then
      let _ ← Building.put (.ofChoices rows.length)
      let final ← Building.put (.ofPlain 1)
      let _ ← rows.foldlM (fun t row => do
        let (_, t) ← buildRowBackwards final row t
        return t) (StateTable.empty 1000)
    else
      let final ← Building.put (.ofPlain 1)
      let _ ← buildRows final 4 rows (StateTable.empty 10000)

/-- Adds the states that read one of several words. -/
def buildWords (backwards : Bool) (words : List Text) : Building Unit := do
  let bytes := words.map fun w => w.flatMap String.utf8EncodeChar
  let trie := LiteralTrie.ofWords (if backwards then bytes.map List.reverse else bytes)
  let _ ← Building.put trie.extent

namespace Expr

def text? : Expr → Option Text
  | text t => some t
  | _ => none

mutual

/-- Adds the states that read what an expression matches. Only forwards are groups noted. -/
def build (backwards : Bool) : Expr → Building Unit
  | .empty => do
    let _ ← Building.put (.ofPlain 1)
  | .text t => do
    let _ ← Building.put (.ofPlain (byteLength t))
  | .set s => buildSet backwards s
  | .look _ => do
    let _ ← Building.put (.ofPlain 1)
  | .capture _ _ body => do
    if backwards then body.build backwards
    else
      let _ ← Building.put (.ofPlain 1)
      body.build backwards
      let _ ← Building.put (.ofPlain 1)
  | .concat items => buildAll backwards items
  | .alternation branches =>
    match forAll? text? branches with
    | some words => buildWords backwards words
    | none => buildEach backwards branches
  | .repetition 0 none _ body => do
    if body.minLength.any (0 < ·) then
      let _ ← Building.put (.ofChoices 2)
      body.build backwards
    else
      body.build backwards
      let _ ← Building.put ((Extent.ofChoices 2).add (.ofChoices 2))
      let _ ← Building.put (.ofPlain 1)
  | .repetition min none _ body => do
    Building.times (body.build backwards) min
    let _ ← Building.put (.ofChoices 2)
  | .repetition 0 (some 1) _ body => do
    let _ ← Building.put (.ofChoices 2)
    body.build backwards
    let _ ← Building.put (.ofPlain 1)
  | .repetition min (some max) _ body => do
    if min = 0 then
      let _ ← Building.put (.ofPlain 1)
    else Building.times (body.build backwards) min
    if min < max then
      let _ ← Building.put (.ofPlain 1)
      Building.times (do
        let _ ← Building.put (.ofChoices 2)
        body.build backwards) (max - min)

/-- Adds the states of expressions that follow each other, in the direction of reading. -/
def buildAll (backwards : Bool) : List Expr → Building Unit
  | [] => return
  | e :: es => do
    if backwards then
      buildAll backwards es
      e.build backwards
    else
      e.build backwards
      buildAll backwards es

/-- Adds the states of branches. What chooses between them and what joins them come behind the first
two. -/
def buildEach (backwards : Bool) : List Expr → Building Unit
  | first :: second :: rest => do
    first.build backwards
    second.build backwards
    let _ ← Building.put (.ofChoices (2 + rest.length))
    let _ ← Building.put (.ofPlain 1)
    buildRest backwards rest
  | [e] => e.build backwards
  | [] => return

/-- Adds the states of further branches. -/
def buildRest (backwards : Bool) : List Expr → Building Unit
  | [] => return
  | e :: es => do
    e.build backwards
    buildRest backwards es

end

mutual

/-- Whether every match starts at the start of the text. -/
def startsText : Expr → Bool
  | look l => l == .textStart
  | repetition min _ _ body => 0 < min && body.startsText
  | capture _ _ body => body.startsText
  | concat items => startsTextAll items
  | alternation branches => startsTextEach branches
  | _ => false

/-- Whether one of the items up to the first that can match a character starts the text. -/
def startsTextAll : List Expr → Bool
  | [] => false
  | e :: es => e.startsText || (e.maxLength = some 0 && startsTextAll es)

def startsTextEach : List Expr → Bool
  | [] => true
  | e :: es => e.startsText && startsTextEach es

end

mutual

/-- Whether every match ends at the end of the text. -/
def endsText : Expr → Bool
  | look l => l == .textEnd
  | repetition min _ _ body => 0 < min && body.endsText
  | capture _ _ body => body.endsText
  | concat items => (endsTextAll items).1
  | alternation branches => endsTextEach branches
  | _ => false

/-- Whether one of the items from the last one on that can match a character ends the text, and
whether none of the items can match a character. -/
def endsTextAll : List Expr → Bool × Bool
  | [] => (false, true)
  | e :: es =>
    let (ends, blank) := endsTextAll es
    (ends || (blank && e.endsText), blank && e.maxLength = some 0)

def endsTextEach : List Expr → Bool
  | [] => true
  | e :: es => e.endsText && endsTextEach es

end

/-- Builds a whole automaton: besides the expression it has a final state, forwards two states that
note the whole match, and in front a loop that passes over what stands before a match, or a state
without it if a match can start at one end of the text only. -/
def buildWhole (backwards : Bool) (e : Expr) : Building Unit := do
  let anchored := if backwards then e.endsText else e.startsText
  if anchored then
    let _ ← Building.put (.ofPlain 1)
  else
    let _ ← Building.put (.ofChoices 2)
    let _ ← Building.put ((Extent.ofPlain 1).add (.ofRanges 1))
  if backwards then e.build backwards
  else
    let _ ← Building.put (.ofPlain 1)
    e.build backwards
    let _ ← Building.put (.ofPlain 1)
  let _ ← Building.put (.ofPlain 1)

/-- Whether the expression is a list of so many words that they are looked up without an
automaton. -/
def isWordList : Expr → Bool
  | alternation branches => 3000 ≤ branches.length && (forAll? text? branches).isSome
  | _ => false

/-- Whether the pattern is refused for its size. -/
def isTooBig (e : Expr) : Bool :=
  !e.isWordList && !((e.buildWhole false).fits && (e.buildWhole true).fits)

end Expr

end RegexLiteral.Pattern
