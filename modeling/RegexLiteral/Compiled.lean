import RegexLiteral.Literal.Flags
import RegexLiteral.Literal.Layout
import RegexLiteral.Literal.Segments
import RegexLiteral.Pattern.Regex

/-!
# Compiled literals

A literal is compiled in steps: it is split, its flags are read, layout is taken out if the flags
ask for it, features that the engine lacks are refused, and the pattern is compiled behind the
engine's own flags. The policy says whether errors in the literal's structure end this.
-/
namespace RegexLiteral
open Pattern

/-- What is done about errors in the structure of a literal. -/
inductive Policy where
  /-- They fail the literal. -/
  | strict
  /-- They are kept with the literal, which is read as well as it can be. -/
  | lenient
  deriving DecidableEq, Repr

/-- Features of patterns that the engine lacks. -/
inductive Feature where
  | backreference
  | lookAround
  deriving DecidableEq, Repr

def Feature.name : Feature → String
  | backreference => "backreferences"
  | lookAround => "look-around"

/-- The feature for whose sake a pattern cannot be read. Backreferences by name show as escapes
that are not known. -/
def Feature.usedBy? (pattern : Text) : Option Feature :=
  match parse pattern with
  | .ok _ => none
  | .error f =>
    match f.cause with
    | .backreference => some backreference
    | .lookAround => some lookAround
    | .escapeUnrecognized =>
      match pattern.drop f.span.start with
      | '\\' :: 'k' :: _ => some backreference
      | '\\' :: 'g' :: _ => some backreference
      | _ => none
    | _ => none

/-- Why a literal does not compile. -/
inductive CompileError where
  /-- The literal has errors in its structure. -/
  | malformed (literal : Text) (diagnostics : Diagnostics)
  /-- The engine cannot take the pattern, which stands here as the engine got it. -/
  | badPattern (pattern : Text) (error : PatternError)
  /-- The pattern asks for something that the engine lacks. -/
  | unsupported (pattern : Text) (feature : Feature)
  deriving DecidableEq, Repr

def CompileError.message : CompileError → String
  | malformed literal diagnostics =>
    "malformed literal `" ++ String.ofList literal ++ "`: " ++ diagnostics.line
  | badPattern pattern error =>
    "pattern `" ++ String.ofList pattern ++ "` failed to compile: " ++
      String.ofList (error.message pattern)
  | unsupported pattern feature =>
    "pattern `" ++ String.ofList pattern ++ "` uses " ++ feature.name ++
      ", which the engine does not support"

/-- A literal that is ready for use. -/
structure CompiledLiteral where
  /-- The literal as it was given. -/
  source : Text
  mode : Mode
  delimiter : Char
  /-- The pattern without its layout and without the engine's flags. -/
  pattern : Text
  /-- The template of the replacement; empty if the mode has none. -/
  replacement : Text
  /-- The flags as they were given. -/
  flagsText : Text
  flags : Flags
  hasCaptures : Bool
  hasNamedCaptures : Bool
  regex : Regex
  /-- What was odd about the literal but did not fail it. -/
  diagnostics : Diagnostics

/-- Compiles a literal. What is found in splitting it may be such that there is no going on. -/
def compileLiteral (source : Text) (policy : Policy) : Except CompileError CompiledLiteral :=
  let (split, found) := splitLiteral source
  match split.filter fun _ => !Diagnostics.hasFatal found with
  | none => .error (.malformed source found)
  | some segments =>
    let (flags, unknown) := Flags.parse segments.flags segments.flagsOffset
    let diagnostics := found ++ unknown
    if Diagnostics.hasErrors diagnostics && policy = .strict then
      .error (.malformed source diagnostics)
    else
      let tidy := if flags.extended then Layout.strip else id
      let pattern := tidy segments.pattern
      match Feature.usedBy? pattern with
      | some feature => .error (.unsupported pattern feature)
      | none =>
        let enginePattern := flags.enginePattern pattern
        match Regex.compile enginePattern with
        | .error e => .error (.badPattern enginePattern e)
        | .ok regex => .ok {
            source := source
            mode := segments.mode
            delimiter := segments.delimiter
            pattern := pattern
            replacement := tidy segments.replacement
            flagsText := segments.flags
            flags := flags
            hasCaptures := segments.hasCaptures
            hasNamedCaptures := segments.hasNamedCaptures
            regex := regex
            diagnostics := diagnostics }

namespace CompiledLiteral

/-- The pattern as the engine got it. -/
def enginePattern (c : CompiledLiteral) : Text := c.flags.enginePattern c.pattern

/-- What kind of groups the literal shows. -/
def captureKind (c : CompiledLiteral) : String :=
  if c.hasNamedCaptures then "named" else if c.hasCaptures then "positional" else "none"

/-- A description with one field on each line. -/
def dump (c : CompiledLiteral) : String :=
  let quoted (name : String) (t : Text) : String := name ++ ": `" ++ String.ofList t ++ "`"
  "\n".intercalate
    (["mode: " ++ c.mode.name, quoted "delimiter" [c.delimiter], quoted "pattern" c.pattern] ++
      (if c.mode.hasReplacement then [quoted "replacement" c.replacement] else []) ++
      [quoted "flags" c.flags.letters, "captures: " ++ c.captureKind,
        quoted "engine" c.enginePattern])

end CompiledLiteral
end RegexLiteral
