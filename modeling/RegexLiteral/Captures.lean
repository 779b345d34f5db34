import RegexLiteral.Template

/-!
# Recording captures

The groups of all matches of a call are laid out in one row: behind an empty first entry, the
groups of the first match, then those of the second, and so on. Beside the row, each name has the
last text that is not empty among its groups, in the order in which the names first had one.
-/
namespace RegexLiteral
open Pattern

/-- What has been recorded. -/
structure Recorder where
  /-- The name of each group, the whole match first. -/
  names : List (Option Text)
  /-- Whether names are recorded too. -/
  collectNamed : Bool
  groups : Array Text
  named : List (Text × Text)

namespace Recorder

/-- Sets the text of a name. A name that has one already keeps its place. -/
def setNamed (name value : Text) : List (Text × Text) → List (Text × Text)
  | [] => [(name, value)]
  | p :: rest => if p.1 = name then (name, value) :: rest else p :: setNamed name value rest

/-- The number of entries that each match has in the row. -/
def groupsPerMatch (r : Recorder) : Nat := r.names.length - 1

/-- A row with empty entries for a number of matches. -/
def new (names : List (Option Text)) (collectNamed : Bool) (matchCount : Nat) : Recorder :=
  ⟨names, collectNamed, Array.replicate (matchCount * (names.length - 1) + 1) [], []⟩

/-- Makes the row long enough. -/
def reserve : Recorder → Nat → Recorder
  | ⟨names, collectNamed, groups, named⟩, size =>
    let missing := size - groups.size
    ⟨names, collectNamed, groups ++ Array.replicate missing [], named⟩

/-- Enters the text of one group of a match. -/
def enter : Recorder → Nat → Nat → Text → Recorder
  | ⟨names, collectNamed, groups, named⟩, iteration, group, value =>
    let place := iteration * (names.length - 1) + group
    let named :=
      match (names[group]?).join with
      | some name => if collectNamed && !value.isEmpty then setNamed name value named else named
      | none => named
    ⟨names, collectNamed, groups.setIfInBounds place value, named⟩

/-- Records the groups of a match as those of match number `iteration`. A group that took no part
leaves its entry as it is. -/
def record (r : Recorder) (haystack : Text) (m : Match) (iteration : Nat) : Recorder :=
  let r := r.reserve (iteration * r.groupsPerMatch + r.groupsPerMatch + 1)
  (List.range r.groupsPerMatch).foldl
    (fun r j =>
      match m.group? (j + 1) with
      | none => r
      | some span => r.enter iteration (j + 1) (slice haystack span)) r

/-- Records matches with their numbers, one after the other. -/
def recordAll (r : Recorder) (haystack : Text) (records : List (Match × Nat)) : Recorder :=
  records.foldl (fun r p => r.record haystack p.1 p.2) r

/-- The names with their texts, if they were to be recorded. -/
def namedTexts (r : Recorder) : Option (List (Text × Text)) :=
  if r.collectNamed then some r.named else none

end Recorder
end RegexLiteral
