import RegexLiteral.Engine.Facade

/-!
# Sessions

A session is an engine at work on one text. It takes requests one after the other, and each request
has an answer and leads to the session after it. So a run is a list of requests, and what holds of
all runs is shown by what a single request does.
-/
namespace RegexLiteral

/-- Something asked of an engine. -/
inductive Request where
  | look
  | setCaching (on : Bool)
  | setPolicy (policy : Policy)
  | flush
  | cacheGet (literal : Text)
  /-- Compiles a literal and puts it into the cache under a key of its own. -/
  | cachePut (key literal : Text)
  | compile (literal : Text)
  | isMatch (literal : Text)
  | matchDetailed (literal : Text)
  | substitute (literal : Text)
  | substituteDetailed (literal : Text)
  | substituteToText (literal : Text)
  | dispatch (literal : Text)
  deriving DecidableEq, Repr

/-- What is answered to a request. -/
inductive Answer where
  | done
  | found (entry : Option CompiledLiteral)
  | literal (c : CompiledLiteral)
  | bool (b : Bool)
  | text (t : Text)
  | outcome (o : Outcome)
  | failed (e : EngineError)

/-- An engine and the text that it works on. -/
structure Session where
  engine : Engine := {}
  buffer : Text := []

namespace Session

/-- The answer that a result makes. -/
def answerOf {α : Type} (ok : α → Answer) : Except EngineError α → Answer
  | .ok a => ok a
  | .error e => .failed e

/-- The session after an operation that reads the text. -/
def reading {α : Type} (s : Session) (ok : α → Answer) (r : Except EngineError α × Engine) :
    Answer × Session := (answerOf ok r.1, { s with engine := r.2 })

/-- The session after an operation that may change the text. -/
def editing {α : Type} (ok : α → Answer) (r : Engine.Edited α) : Answer × Session :=
  (answerOf ok r.answer, ⟨r.engine, r.buffer⟩)

/-- The answer to a request, and the session after it. -/
def step (s : Session) : Request → Answer × Session
  | .look => (.done, s)
  | .setCaching on => (.done, { s with engine := s.engine.setCaching on })
  | .setPolicy policy => (.done, { s with engine := s.engine.setPolicy policy })
  | .flush => (.done, { s with engine := s.engine.flushCache })
  | .cacheGet literal => (.found (s.engine.cache.get? literal), s)
  | .cachePut key literal =>
    match s.engine.compile literal with
    | (.error e, engine) => (.failed e, { s with engine := engine })
    | (.ok c, engine) =>
      (.done, { s with engine := { engine with cache := engine.cache.put key c } })
  | .compile literal => s.reading .literal (s.engine.compile literal)
  | .isMatch literal => s.reading .bool (s.engine.isMatch s.buffer literal)
  | .matchDetailed literal => s.reading .outcome (s.engine.matchDetailed s.buffer literal)
  | .substitute literal => editing .bool (s.engine.substitute s.buffer literal)
  | .substituteDetailed literal => editing .outcome (s.engine.substituteDetailed s.buffer literal)
  | .substituteToText literal => s.reading .text (s.engine.substituteToText s.buffer literal)
  | .dispatch literal => editing .bool (s.engine.dispatch s.buffer literal)

end Session
end RegexLiteral
