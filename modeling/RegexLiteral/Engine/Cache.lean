import RegexLiteral.Text

/-!
# Caches of compiled literals

A cache keeps what was compiled under the text it was compiled from. While it is switched off it
gives nothing and takes nothing, but what it holds stays in it.
-/
namespace RegexLiteral

/-- A cache: its entries, no two under one key, and its switch. -/
structure Cache (α : Type) where
  entries : List (Text × α) := []
  enabled : Bool := true

namespace Cache

variable {α : Type}

/-- The number of entries. -/
def size (c : Cache α) : Nat := c.entries.length

def isEmpty (c : Cache α) : Bool := c.entries.isEmpty

/-- The entry under a key, unless the cache is off. -/
def get? (c : Cache α) (key : Text) : Option α :=
  if c.enabled then c.entries.lookup key else none

/-- Puts an entry under a key in place of the one there, unless the cache is off. -/
def put (c : Cache α) (key : Text) (value : α) : Cache α :=
  if c.enabled then
    { c with entries := (key, value) :: c.entries.filter fun p => p.1 ≠ key }
  else c

/-- Drops all entries. -/
def flush (c : Cache α) : Cache α := { c with entries := [] }

/-- Turns the cache on or off. -/
def setEnabled (c : Cache α) (on : Bool) : Cache α := { c with enabled := on }

/-- The entry under a key or else what `compile` makes of the key, which is kept if it is no
error. -/
def getOrCompile {ε : Type} (c : Cache α) (key : Text) (compile : Text → Except ε α) :
    Except ε α × Cache α :=
  match c.get? key with
  | some value => (.ok value, c)
  | none =>
    match compile key with
    | .error e => (.error e, c)
    | .ok value => (.ok value, c.put key value)

end Cache
end RegexLiteral
