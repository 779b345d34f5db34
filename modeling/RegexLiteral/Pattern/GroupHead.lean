import RegexLiteral.Pattern.Ast
import RegexLiteral.Pattern.Cursor
import RegexLiteral.Unicode.Letters

/-!
# Reading what opens a group

Behind a parenthesis stands what the group is for: its name, its flags, or neither. Flags followed
by a closing parenthesis open no group but hold for what follows.
-/
namespace RegexLiteral.Pattern

/-- What a parenthesis opens. -/
inductive GroupHead where
  | directive (span : Span) (items : List FlagItem)
  | plain (items : List FlagItem)
  | named (name : Text) (span : Span)
  | unnamed

/-- Whether a character may stand in the name of a group, at the start or further on. -/
def isNameChar (first : Bool) (c : Char) : Bool :=
  c = '_' ||
  if first then Unicode.isAlphabetic c
  else c = '.' || c = '[' || c = ']' || Unicode.isAlphanumeric c

/-- Reads the characters of a name up to the closing angle bracket. -/
def readNameChars (first : Bool) (pos : Nat) : Text → Except Fault (Text × Cursor)
  | [] => .ok ([], ⟨pos, []⟩)
  | x :: rest =>
    if x = '>' then .ok ([], ⟨pos, x :: rest⟩)
    else if !isNameChar first x then refuse .groupNameInvalid ⟨pos, pos + 1⟩
    else do
      let (name, d) ← readNameChars false (pos + 1) rest
      .ok (x :: name, d)

/-- Reads the name of a group and the bracket that closes it. -/
def readName (c : Cursor) : Except Fault (GroupHead × Cursor) := do
  let (name, d) ← readNameChars true c.pos c.rest
  if d.rest.isEmpty then refuse .groupNameUnexpectedEnd d.here
  else if name.isEmpty then refuse .groupNameEmpty c.here
  else .ok (.named name (c.spanTo d), d.bump)

/-- The part of a row of flags that a character stands for. -/
def flagItem? (c : Char) : Option FlagItem :=
  match c with
  | '-' => some .negation
  | 'i' => some (.flag .caseInsensitive)
  | 'm' => some (.flag .multiLine)
  | 's' => some (.flag .dotMatchesNewLine)
  | 'U' => some (.flag .swapGreed)
  | 'u' => some (.flag .unicode)
  | 'R' => some (.flag .crlf)
  | 'x' => some (.flag .ignoreWhitespace)
  | _ => none

/-- Reads flags up to a colon or a closing parenthesis; `seen` holds what has been read, last part
first. No part may stand twice, and a hyphen must have a flag behind it. -/
def readFlags (seen : List (FlagItem × Span)) (pos : Nat) :
    Text → Except Fault (List FlagItem × Cursor)
  | [] => refuse .flagUnexpectedEnd ⟨pos, pos⟩
  | x :: rest =>
    let span : Span := ⟨pos, pos + 1⟩
    if x = ':' || x = ')' then
      match seen with
      | (.negation, s) :: _ => refuse .flagDanglingNegation s
      | _ => .ok ((seen.map Prod.fst).reverse, ⟨pos, x :: rest⟩)
    else
      match flagItem? x with
      | none => refuse .flagUnrecognized span
      | some item =>
        match seen.find? fun p => p.1 = item with
        | some (.negation, s) => refuse (.flagRepeatedNegation s) span
        | some (.flag _, s) => refuse (.flagDuplicate s) span
        | none => readFlags ((item, span) :: seen) (pos + 1) rest

/-- Reads what opens a group; `c` stands on the parenthesis. -/
def readGroupHead (v : Bool) (c : Cursor) : Except Fault (GroupHead × Cursor) :=
  let d := c.next v
  match d.rest with
  | '?' :: '=' :: _ => refuse .lookAround ⟨c.pos, d.pos + 2⟩
  | '?' :: '!' :: _ => refuse .lookAround ⟨c.pos, d.pos + 2⟩
  | '?' :: '<' :: '=' :: _ => refuse .lookAround ⟨c.pos, d.pos + 3⟩
  | '?' :: '<' :: '!' :: _ => refuse .lookAround ⟨c.pos, d.pos + 3⟩
  | '?' :: 'P' :: '<' :: rest => readName ⟨d.pos + 3, rest⟩
  | '?' :: '<' :: rest => readName ⟨d.pos + 2, rest⟩
  | '?' :: rest =>
    if rest.isEmpty then refuse .groupUnclosed c.char
    else do
      let (items, e) ← readFlags [] (d.pos + 1) rest
      let f := e.bump
      if e.rest.head? = some ':' then .ok (.plain items, f)
      else if items.isEmpty then refuse .repetitionMissing d.here
      else .ok (.directive (c.spanTo f) items, f)
  | _ => .ok (.unnamed, d)

theorem readNameChars_left (first : Bool) (pos : Nat) (t : Text) :
    Onward ⟨pos, t⟩ (readNameChars first pos t) := by
  induction t generalizing first pos with
  | nil => exact .ok _ (Nat.le_refl _)
  | cons x t ih =>
    unfold readNameChars
    split
    · exact .ok _ (Nat.le_refl _)
    · split
      · exact .refuse _ _ _
      · have step : (Cursor.mk (pos + 1) t).left ≤ (Cursor.mk pos (x :: t)).left := by
          simp [Cursor.left]
        refine .bind (fun a d h => Nat.le_trans (ih _ _ a d h) step) ?_
        intro a d h
        exact .ok _ h

theorem readName_onward (c : Cursor) : Onward c (readName c) := by
  unfold readName
  refine .bind (readNameChars_left true c.pos c.rest) ?_
  intro name d h
  dsimp only
  split
  · exact .refuse _ _ _
  · split
    · exact .refuse _ _ _
    · exact .ok _ (Nat.le_trans (Cursor.bump_left d) h)

theorem readFlags_onward (seen : List (FlagItem × Span)) (pos : Nat) (t : Text) :
    Onward ⟨pos, t⟩ (readFlags seen pos t) := by
  induction t generalizing seen pos with
  | nil => exact .refuse _ _ _
  | cons x t ih =>
    have step : (Cursor.mk (pos + 1) t).left ≤ (Cursor.mk pos (x :: t)).left := by
      simp [Cursor.left]
    unfold readFlags
    dsimp only
    split
    · split
      · exact .refuse _ _ _
      · exact .ok _ (Nat.le_refl _)
    · split
      · exact .refuse _ _ _
      · split
        · exact .refuse _ _ _
        · exact .refuse _ _ _
        · exact fun a d h => Nat.le_trans (ih _ _ a d h) step

theorem readGroupHead_onward (v : Bool) (c : Cursor) :
    Onward (c.next v) (readGroupHead v c) := by
  unfold readGroupHead
  dsimp only
  split
  · exact .refuse _ _ _
  · exact .refuse _ _ _
  · exact .refuse _ _ _
  · exact .refuse _ _ _
  · rename_i h
    exact fun a d ha => Nat.le_trans (readName_onward _ a d ha) (by simp [Cursor.left, h]; omega)
  · rename_i h
    exact fun a d ha => Nat.le_trans (readName_onward _ a d ha) (by simp [Cursor.left, h]; omega)
  · rename_i h
    split
    · exact .refuse _ _ _
    · refine .bind (fun a d ha => Nat.le_trans (readFlags_onward _ _ _ a d ha)
        (by simp [Cursor.left, h])) ?_
      intro items e he
      have := Nat.le_trans (Cursor.bump_left e) he
      dsimp only
      split
      · exact .ok _ this
      · split
        · exact .refuse _ _ _
        · exact .ok _ this
  · exact .ok _ (Nat.le_refl _)

end RegexLiteral.Pattern
