import RegexLiteral.Captures
import RegexLiteral.Compiled

/-!
# Matching and substituting

A literal takes the matches that its flags ask for: all of them or the first one only. Matching and
substituting each go their own way to an outcome, which tells how many matches were taken and what
they captured; substituting also replaces them by what the template stands for in each.
-/
namespace RegexLiteral
open Pattern

/-- What came of a call. -/
structure Outcome where
  matchCount : Nat := 0
  /-- The groups of all matches in a row, if the literal shows groups and there is a match. -/
  groups : Option (List Text) := none
  /-- The last text of each name, if the literal shows names and there is a match. -/
  named : Option (List (Text × Text)) := none
  /-- The text after replacement, if one was asked for. -/
  substituted : Option Text := none
  deriving DecidableEq, Repr

namespace Outcome

def isMatch (o : Outcome) : Bool := o.matchCount > 0

/-- The text at a place in the row of groups. -/
def group? (o : Outcome) (i : Nat) : Option Text := o.groups.bind fun gs => gs[i]?

/-- The text of a name. -/
def named? (o : Outcome) (name : Text) : Option Text := o.named.bind fun ps => ps.lookup name

end Outcome

namespace CompiledLiteral

/-- Whether groups are reported. -/
def reportsCaptures (c : CompiledLiteral) : Bool := c.hasCaptures && c.regex.groupCount > 0

/-- Whether names are reported along with the groups. -/
def reportsNames (c : CompiledLiteral) : Bool :=
  c.hasNamedCaptures && c.regex.groupNames.any Option.isSome

/-- The groups and the names of matches, as far as they are reported. -/
def captureFields (c : CompiledLiteral) (haystack : Text) (ms : List Match) :
    Option (List Text) × Option (List (Text × Text)) :=
  if c.reportsCaptures then
    let recorder := (Recorder.new c.regex.groupNames c.reportsNames ms.length).recordAll haystack
      ms.zipIdx
    (some recorder.groups.toList, recorder.namedTexts)
  else (none, none)

/-- Matches a literal against a text. Where all matches are taken and nothing but their number is
reported, the groups are not looked for. -/
def runMatch (c : CompiledLiteral) (haystack : Text) : Outcome :=
  if !c.flags.global then
    match c.regex.findFirst haystack with
    | none => {}
    | some m =>
      let fields := c.captureFields haystack [m]
      { matchCount := 1, groups := fields.1, named := fields.2 }
  else if !c.reportsCaptures then { matchCount := (c.regex.findSpans haystack).length }
  else
    let all := c.regex.findAll haystack
    if all.isEmpty then {}
    else
      let fields := c.captureFields haystack all
      { matchCount := all.length, groups := fields.1, named := fields.2 }

/-- Replaces matches in the rest of a text, which starts at character `pos`, by what `expand`
gives for each. -/
def splice (expand : Match → Text) (pos : Nat) (rest : Text) : List Match → Text
  | [] => rest
  | m :: ms =>
    rest.take (m.span.start - pos) ++ expand m ++
      splice expand m.span.stop (rest.drop (m.span.stop - pos)) ms

/-- A text with matches replaced by what the template stands for in each. -/
def replaceAll (c : CompiledLiteral) (haystack : Text) (ms : List Match) : Text :=
  splice (Template.expand c.replacement c.regex haystack) 0 haystack ms

/-- Replaces the matches of a literal in a text. Without a match the text is told as it is. -/
def runSubstitute (c : CompiledLiteral) (haystack : Text) : Outcome :=
  if !c.flags.global then
    match c.regex.findFirst haystack with
    | none => { substituted := some haystack }
    | some m =>
      let fields := c.captureFields haystack [m]
      { matchCount := 1, groups := fields.1, named := fields.2
        substituted := some (c.replaceAll haystack [m]) }
  else
    let all := c.regex.findAll haystack
    if all.isEmpty then { substituted := some haystack }
    else
      let fields := c.captureFields haystack all
      { matchCount := all.length, groups := fields.1, named := fields.2
        substituted := some (c.replaceAll haystack all) }

end CompiledLiteral
end RegexLiteral
