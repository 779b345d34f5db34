import RegexLiteral.Pattern.Extent

/-!
# Tries of words

An alternation of words is read along a trie, in which words with the same start have it in common.
The order of the words counts: a word that ends at a node is preferred to those added after it that
go on there. So the edges of a node stand in groups, one before each word that ends there and one
behind the last, and a word goes on only along an edge of the last group.
-/
namespace RegexLiteral.Pattern

/-- A node of a trie. -/
structure TrieNode where
  /-- The edges behind the last word that ends here. -/
  edges : List (UInt8 × Nat)
  /-- The numbers of edges before each word that ends here. -/
  closed : List Nat
  deriving Repr

namespace TrieNode

def fresh : TrieNode := ⟨[], []⟩

/-- Whether nothing goes on at the node. -/
def isLeaf (n : TrieNode) : Bool := n.edges.isEmpty && n.closed.all (· = 0)

/-- Notes that a word ends here. A second one at a leaf changes nothing. -/
def finish (n : TrieNode) : TrieNode :=
  if n.isLeaf && !n.closed.isEmpty then n else ⟨[], n.edges.length :: n.closed⟩

/-- The states of a group of edges. -/
def groupExtent : Nat → Extent
  | 0 => .none
  | 1 => .ofPlain 1
  | edges => .ofRanges edges

/-- The states of a node: those of its groups, and one that chooses between them and the words that
end here. An edge to a leaf goes straight to the final state. -/
def extent (n : TrieNode) : Extent :=
  if n.isLeaf then .none
  else
    let groups := (n.edges.length :: n.closed).filter (0 < ·)
    groups.foldl (fun x edges => x.add (groupExtent edges))
      (.ofChoices (groups.length + n.closed.length))

end TrieNode

/-- A trie as its nodes, the root first. -/
abbrev LiteralTrie := Array TrieNode

namespace LiteralTrie

def empty : LiteralTrie := #[.fresh]

/-- The node that a byte leads to from a node; it is added if there is none. -/
def follow : LiteralTrie × Nat → UInt8 → LiteralTrie × Nat
  | (nodes, i), byte =>
    match (nodes[i]?.bind fun n => n.edges.lookup byte) with
    | some next => (nodes, next)
    | none =>
      let next := nodes.size
      let nodes := nodes.modify i fun n => { n with edges := (byte, next) :: n.edges }
      (nodes.push .fresh, next)

/-- Adds a word. -/
def insert (trie : LiteralTrie) (word : List UInt8) : LiteralTrie :=
  let (nodes, i) := word.foldl follow (trie, 0)
  nodes.modify i TrieNode.finish

/-- The trie of words in order of preference. -/
def ofWords (words : List (List UInt8)) : LiteralTrie := words.foldl insert empty

/-- The extent of the states that read the words, with the final one. -/
def extent (trie : LiteralTrie) : Extent :=
  trie.foldl (fun x n => x.add n.extent) (.ofPlain 1)

end LiteralTrie

end RegexLiteral.Pattern
