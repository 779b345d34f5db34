import RegexLiteral.Pattern.Excerpt
import RegexLiteral.Pattern.Finder
import RegexLiteral.Pattern.Meaning
import RegexLiteral.Pattern.Reader
import RegexLiteral.Pattern.Size

/-!
# Compiled patterns

A regex is a compiled pattern: the names of its groups, and what finds its matches. A pattern that
is a plain text is looked for as it is; any other is run as a program. Matches are found with their
groups or, where these are not asked for, without them.
-/
namespace RegexLiteral.Pattern

/-- Why a pattern cannot be used. -/
inductive PatternError where
  | fault (f : Fault)
  | tooBig
  deriving DecidableEq, Repr

def PatternError.message (pattern : Text) : PatternError → Text
  | fault f => f.describe pattern
  | tooBig => "error building NFA".toList

/-- A match: the characters it covers, and those that each of its groups covers, the whole match
first. A group that took no part covers none. -/
structure Match where
  span : Span
  groups : List (Option Span)
  deriving DecidableEq, Repr

/-- The span of a group by its number. -/
def Match.group? (m : Match) (i : Nat) : Option Span := (m.groups[i]?).join

/-- What finds matches. -/
inductive Matcher where
  | text (needle : Text)
  | program (p : Program)

/-- A compiled pattern. -/
structure Regex where
  /-- The name of each group, the whole match first. -/
  groupNames : List (Option Text)
  matcher : Matcher

namespace Regex

/-- Compiles a pattern. -/
def compile (pattern : Text) : Except PatternError Regex := do
  let parsed : Except Fault (Expr × Settings) := do
    let a ← parse pattern
    a.meaning {}
  match parsed with
  | .error f => .error (.fault f)
  | .ok (e, _) =>
    if e.isTooBig then .error .tooBig
    else
      let matcher :=
        match e with
        | .text t => Matcher.text t
        | e => Matcher.program e.program
      .ok ⟨e.groupNames, matcher⟩

/-- The number of groups besides the whole match. -/
def groupCount (r : Regex) : Nat := r.groupNames.length - 1

/-- The number of the group that has a name. -/
def groupNamed? (r : Regex) (name : Text) : Option Nat :=
  r.groupNames.findIdx? fun n => n = some name

/-- The first place at which a text stands in another, if it does. -/
def findText (needle : Text) (pos : Nat) : Text → Option Nat
  | [] => if needle.isEmpty then some pos else none
  | c :: rest =>
    if needle.isPrefixOf (c :: rest) then some pos else findText needle (pos + 1) rest

/-- The spans of the groups of a complete match, the last places noted for each. -/
def spansOf (groups : Nat) (h : Hit) : List (Option Span) :=
  some ⟨h.start, h.stop⟩ :: (List.range groups).map fun i =>
    match h.marks.lookup (2 * (i + 1)), h.marks.lookup (2 * (i + 1) + 1) with
    | some start, some stop => some ⟨start, stop⟩
    | _, _ => none

theorem findText_bounds {needle t : Text} {pos i : Nat} (h : findText needle pos t = some i) :
    pos ≤ i ∧ i + needle.length ≤ pos + t.length := by
  induction t generalizing pos with
  | nil =>
    unfold findText at h
    split at h
    · cases h
      simp_all
    · cases h
  | cons c t ih =>
    unfold findText at h
    split at h
    · rename_i hp
      cases h
      have := (List.isPrefixOf_iff_prefix.mp hp).length_le
      exact ⟨Nat.le_refl _, by omega⟩
    · have := ih h
      simp only [List.length_cons]
      omega

/-- The span at which a text stands first from a place on. -/
def findNeedle (needle : Text) (s : Spot) : Option Span :=
  (findText needle s.pos s.rest).map fun start => ⟨start, start + needle.length⟩

theorem findNeedle_bounds {needle : Text} {s : Spot} {a : Span} (h : findNeedle needle s = some a) :
    a.Within s := by
  obtain ⟨i, hi, rfl⟩ := Option.map_eq_some_iff.mp h
  have := findText_bounds hi
  exact ⟨this.1, Nat.le_add_right _ _, this.2⟩

theorem hit_bounds {p : Program} {s : Spot} {x : Hit} (h : p.find s = some x) :
    Span.Within ⟨x.start, x.stop⟩ s :=
  scan_bounds (by simp [StartedIn]) (by simp [HitIn]) (Nat.le_refl s.pos) x h

/-- Looks for matches with their groups. -/
def matchFinder (r : Regex) : Finder Match :=
  match r.matcher with
  | .text needle =>
    { find := fun s => (findNeedle needle s).map fun a => ⟨a, [some a]⟩
      span := Match.span
      bounds := fun h => by
        obtain ⟨a, ha, rfl⟩ := Option.map_eq_some_iff.mp h
        exact findNeedle_bounds ha }
  | .program p =>
    let groups := r.groupCount
    { find := fun s => (p.find s).map fun x => ⟨⟨x.start, x.stop⟩, spansOf groups x⟩
      span := Match.span
      bounds := fun h => by
        obtain ⟨x, hx, rfl⟩ := Option.map_eq_some_iff.mp h
        exact hit_bounds hx }

/-- Looks for matches without their groups, which takes less work. -/
def spanFinder (r : Regex) : Finder Span :=
  match r.matcher with
  | .text needle => { find := findNeedle needle, span := id, bounds := findNeedle_bounds }
  | .program p =>
    let p := p.withoutMarks
    { find := fun s => (p.find s).map fun x => ⟨x.start, x.stop⟩
      span := id
      bounds := fun h => by
        obtain ⟨x, hx, rfl⟩ := Option.map_eq_some_iff.mp h
        exact hit_bounds hx }

/-- All matches in a text, from left to right. -/
def findAll (r : Regex) (t : Text) : List Match := r.matchFinder.all t

/-- The first match in a text. -/
def findFirst (r : Regex) (t : Text) : Option Match := r.matchFinder.find (.first t)

/-- The spans of all matches in a text, from left to right. -/
def findSpans (r : Regex) (t : Text) : List Span := r.spanFinder.all t

/-- Whether there is a match in a text. -/
def isMatch (r : Regex) (t : Text) : Bool := (r.spanFinder.find (.first t)).isSome

end Regex
end RegexLiteral.Pattern
