import RegexLiteral.Engine.Cache
import RegexLiteral.Outcome

/-!
# The engine

An engine evaluates literals that are given as texts. It compiles each through its cache under its
policy. All operations are functions: they give their answer together with the engine after it and,
where they may change a text, the text after it. Such an operation first goes through checks and
writes the text last, so it has not written it where it fails (`substituteIn_of_error`,
`edit_of_error`).
-/
namespace RegexLiteral

/-- Why an operation of the engine fails. -/
inductive EngineError where
  | compile (e : CompileError)
  /-- A substitution was asked of a literal of another mode. -/
  | modeMismatch (literal : Text) (found : Mode)
  /-- Literals of the mode cannot be run. -/
  | unsupportedMode (literal : Text) (mode : Mode)
  deriving DecidableEq, Repr

def EngineError.message : EngineError → String
  | compile e => e.message
  | modeMismatch literal found =>
    "`" ++ String.ofList literal ++ "` is a " ++ found.name ++ " literal, expected " ++
      Mode.substitution.name
  | unsupportedMode literal mode =>
    mode.name ++ " literals cannot be executed: `" ++ String.ofList literal ++ "`"

/-- An engine: its cache and how it treats errors in the structure of literals. -/
structure Engine where
  cache : Cache CompiledLiteral := {}
  policy : Policy := .strict

namespace Engine

/-- Turns the cache on or off. -/
def setCaching (e : Engine) (on : Bool) : Engine := { e with cache := e.cache.setEnabled on }

/-- Changes the policy. What was compiled under another policy is dropped. -/
def setPolicy (e : Engine) (policy : Policy) : Engine :=
  { cache := if e.policy = policy then e.cache else e.cache.flush
    policy := policy }

/-- Empties the cache. -/
def flushCache (e : Engine) : Engine := { e with cache := e.cache.flush }

/-- Compiles a literal through the cache. -/
def compile (e : Engine) (literal : Text) : Except EngineError CompiledLiteral × Engine :=
  let (compiled, cache) := e.cache.getOrCompile literal fun source => compileLiteral source e.policy
  (compiled.mapError .compile, { e with cache := cache })

/-- Matches can be looked for with all literals but transliterations. -/
def ensureMatchable (c : CompiledLiteral) : Except EngineError Unit :=
  match c.mode with
  | .transliteration => .error (.unsupportedMode c.source c.mode)
  | _ => .ok ()

/-- Only substitutions replace anything. -/
def ensureSubstitution (c : CompiledLiteral) : Except EngineError Unit :=
  match c.mode with
  | .substitution => .ok ()
  | .transliteration => .error (.unsupportedMode c.source c.mode)
  | .matching => .error (.modeMismatch c.source c.mode)

/-- Compiles a literal and uses it. -/
def withCompiled {α : Type} (e : Engine) (literal : Text)
    (f : CompiledLiteral → Except EngineError α) : Except EngineError α × Engine :=
  let (compiled, e) := e.compile literal
  (compiled.bind f, e)

/-- Whether a literal matches anywhere in a text. -/
def isMatch (e : Engine) (haystack literal : Text) : Except EngineError Bool × Engine :=
  e.withCompiled literal fun c => do
    ensureMatchable c
    .ok (c.regex.isMatch haystack)

/-- The matches and captures of a literal in a text. -/
def matchDetailed (e : Engine) (haystack literal : Text) : Except EngineError Outcome × Engine :=
  e.withCompiled literal fun c => do
    ensureMatchable c
    .ok (c.runMatch haystack)

/-- An operation on a text that may change it and may fail. There is a text after it in either
case. -/
abbrev Editing := ExceptT EngineError (StateM Text)

/-- Applies a substitution literal to the text. The text is written only if there is a match. -/
def substituteIn (c : CompiledLiteral) : Editing Outcome := do
  MonadExcept.ofExcept (ensureSubstitution c)
  let outcome := c.runSubstitute (← get)
  if outcome.isMatch then
    if let some after := outcome.substituted then set after
  return outcome

section Editing

variable {α β : Type} {c : CompiledLiteral} {x : EngineError}

/-- A check that fails ends the operation where it stands. -/
theorem run_ofExcept_bind (check : Except EngineError α) (f : α → Editing β) (buffer : Text) :
    (MonadExcept.ofExcept check >>= f : Editing β).run buffer =
      match check with
      | .error x => (.error x, buffer)
      | .ok a => (f a).run buffer := by
  cases check <;> rfl

theorem run_get_bind (f : Text → Editing β) (buffer : Text) :
    (get >>= f : Editing β).run buffer = (f buffer).run buffer := rfl

theorem run_bind_pure (op : Editing α) (f : α → β) (buffer : Text) :
    (op >>= fun a => pure (f a) : Editing β).run buffer =
      ((op.run buffer).1.map f, (op.run buffer).2) := by
  change (match op.run buffer with
    | (answer, after) => ExceptT.bindCont (m := StateM Text) (fun a => pure (f a)) answer after) = _
  obtain ⟨answer, after⟩ := op.run buffer
  cases answer <;> rfl

/-- A literal that is no substitution is refused before anything is written. -/
theorem substituteIn_of_error (h : ensureSubstitution c = .error x) (buffer : Text) :
    (substituteIn c).run buffer = (.error x, buffer) := by
  unfold substituteIn
  rw [run_ofExcept_bind, h]

theorem substituteIn_of_ok (h : ensureSubstitution c = .ok ()) (buffer : Text) :
    (substituteIn c).run buffer =
      (.ok (c.runSubstitute buffer),
        if (c.runSubstitute buffer).isMatch then (c.runSubstitute buffer).substituted.getD buffer
        else buffer) := by
  unfold substituteIn
  rw [run_ofExcept_bind, h]
  dsimp only
  rw [run_get_bind]
  generalize c.runSubstitute buffer = outcome
  cases outcome.isMatch with
  | false => rfl
  | true => cases outcome.substituted <;> rfl

end Editing

/-- What comes of an operation on a text: its answer, and the text and the engine after it. -/
structure Edited (α : Type) where
  answer : Except EngineError α
  buffer : Text
  engine : Engine

/-- Compiles a literal and uses it on a text. -/
def edit {α : Type} (e : Engine) (buffer literal : Text) (f : CompiledLiteral → Editing α) :
    Edited α :=
  let (compiled, e) := e.compile literal
  let (answer, after) := (MonadExcept.ofExcept compiled >>= f : Editing α).run buffer
  ⟨answer, after, e⟩

section Edit

variable {α : Type} {e : Engine} {literal : Text} {c : CompiledLiteral} {x : EngineError}

theorem edit_of_error (h : (e.compile literal).1 = .error x) (buffer : Text)
    (f : CompiledLiteral → Editing α) :
    e.edit buffer literal f = ⟨.error x, buffer, (e.compile literal).2⟩ := by
  unfold edit
  dsimp only
  rw [run_ofExcept_bind, h]

theorem edit_of_ok (h : (e.compile literal).1 = .ok c) (buffer : Text)
    (f : CompiledLiteral → Editing α) :
    e.edit buffer literal f =
      ⟨((f c).run buffer).1, ((f c).run buffer).2, (e.compile literal).2⟩ := by
  unfold edit
  dsimp only
  rw [run_ofExcept_bind, h]
  rfl

end Edit

/-- Applies a substitution literal to a text and tells all about it. -/
def substituteDetailed (e : Engine) (buffer literal : Text) : Edited Outcome :=
  e.edit buffer literal substituteIn

/-- Applies a substitution literal to a text and tells whether anything was replaced. -/
def substitute (e : Engine) (buffer literal : Text) : Edited Bool :=
  let r := e.substituteDetailed buffer literal
  ⟨r.answer.map Outcome.isMatch, r.buffer, r.engine⟩

/-- The text that a substitution literal makes of a text. -/
def substituteToText (e : Engine) (haystack literal : Text) : Except EngineError Text × Engine :=
  e.withCompiled literal fun c => do
    ensureSubstitution c
    .ok ((c.runSubstitute haystack).substituted.getD haystack)

/-- Matches or substitutes, as the literal asks for. -/
def dispatch (e : Engine) (buffer literal : Text) : Edited Bool :=
  e.edit buffer literal fun c =>
    match c.mode with
    | .substitution => return (← substituteIn c).isMatch
    | .matching => return (c.runMatch (← get)).isMatch
    | .transliteration => throw (.unsupportedMode c.source c.mode)

end Engine
end RegexLiteral
