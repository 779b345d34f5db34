import RegexLiteral.Unicode.CaseOrbit

/-!
# Matching whatever the case

A set is closed under case if with a character it holds all that differ from it in case only.
`CharSet.foldCase` adds what is missing; the ASCII form regards ASCII letters alone.
-/
namespace RegexLiteral

/-- The orbits of simple case folding that have two or more members. -/
def Unicode.caseOrbits : List (List Nat) :=
  Unicode.readGroups [] none Unicode.CaseOrbit.table.toList

/-- Whether a character differs from others in case only. -/
def Unicode.hasCase (c : Char) : Bool := Unicode.caseOrbits.any fun o => o.contains c.toNat

namespace CharSet

/-- The set with all characters that differ from a member in case only. -/
def foldCase (s : CharSet) : CharSet :=
  let orbits := Unicode.caseOrbits.filter fun o => o.any s.hasCode
  ofRanges (s.ranges ++ orbits.flatten.map fun n => ⟨n, n⟩)

/-- The set with the ASCII letters that differ from a member in case only. -/
def foldAsciiCase (s : CharSet) : CharSet :=
  let pairs := (List.range 26).filter fun i => s.hasCode (0x41 + i) || s.hasCode (0x61 + i)
  ofRanges (s.ranges ++ pairs.flatMap fun i => [⟨0x41 + i, 0x41 + i⟩, ⟨0x61 + i, 0x61 + i⟩])

end CharSet
end RegexLiteral
