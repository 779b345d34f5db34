import RegexLiteral.Compiled
import RegexLiteral.Proofs.Literal.Quoting

/-!
# Patterns that stand for a text

A text stands for itself in a pattern if each of its metacharacters has a backslash and no other
character has one with which it would mean something else. Such a pattern is read as one literal for
each character (`parse_backslashed`), which together match the text (`meaning_plain`). Main
statement: it compiles to the regex of the text, which has no groups (`compile_backslashed`), unless
the text is too long, which takes more than 300,000 bytes (`isTooBig_ofText`).
-/
namespace RegexLiteral.Pattern

/-- A choice of special characters under which quoted texts stand for themselves. -/
structure Neutral (special : Char → Bool) : Prop where
  /-- A backslash is put only where it makes a character stand for itself. -/
  escapable : ∀ {c}, special c → isEscapable c
  /-- A character without a backslash has no meaning. -/
  plain : ∀ {c}, special c = false → isMeta c = false

theorem isAlphanum_of_isEscapable {c : Char} (h : isEscapable c) : c.isAlphanum = false := by
  have hmeta : ['\\', '.', '+', '*', '?', '(', ')', '|', '[', ']', '\x7b', '\x7d', '^', '$', '#',
      '&', '-', '~'].all fun x => !x.isAlphanum := by decide
  rw [isEscapable, Bool.or_eq_true] at h
  rcases h with h | h
  · rw [isMeta, decide_eq_true_eq] at h
    simpa using List.all_eq_true.mp hmeta c h
  · simp only [Bool.and_eq_true, Bool.not_eq_true'] at h
    exact h.1.1.2

/-- An escapable character behind a backslash is read as itself. -/
theorem readEscape_of_isEscapable {c : Char} (hc : isEscapable c) (start pos : Nat) (t : Text) :
    readEscape false start ⟨pos, c :: t⟩ =
      .ok (.literal ⟨⟨start, pos + 1⟩, c, false⟩, ⟨pos + 1, t⟩) := by
  have halpha := isAlphanum_of_isEscapable hc
  have hne {x : Char} (hx : x.isAlphanum) : c ≠ x := by
    rintro rfl
    rw [halpha] at hx
    cases hx
  have hdigit : c.isDigit = false := by
    rw [Char.isAlphanum, Bool.or_eq_false_iff] at halpha
    exact halpha.2
  simp [readEscape, Cursor.bump, hc, hdigit, hne (x := 'p') rfl, hne (x := 'P') rfl,
    hne (x := 'b') rfl]

/-- The parts of a quoted text that starts at `pos`: a literal for each character. -/
def literals (special : Char → Bool) (pos : Nat) : Text → List Ast
  | [] => []
  | c :: t =>
    let stop := pos + if special c then 2 else 1
    .literal ⟨⟨pos, stop⟩, c, false⟩ :: literals special stop t

namespace Reader

variable {r s : Reader} {d : Cursor} {x : Char} {special : Char → Bool}

theorem skip_eq (hr : r.verbose = false) (c : Cursor) : c.skip r.verbose = c := by
  rw [hr]
  rfl

theorem readItems_nil (hr : r.verbose = false) (pos : Nat) :
    readItems r ⟨pos, []⟩ = r.finish ⟨pos, []⟩ := by
  have hskip := skip_eq hr ⟨pos, []⟩
  fun_cases readItems r ⟨pos, []⟩ with
  | case1 => rw [hskip]
  | case2 _ _ _ hnext =>
    rw [hskip] at hnext
    cases hnext
  | case3 _ _ _ hnext =>
    rw [hskip] at hnext
    cases hnext

theorem readItems_cons (hr : r.verbose = false) {pos : Nat} {t : Text}
    (hs : r.step x ⟨pos, x :: t⟩ = .ok (s, d)) : readItems r ⟨pos, x :: t⟩ = readItems s d := by
  have hskip := skip_eq hr ⟨pos, x :: t⟩
  fun_cases readItems r ⟨pos, x :: t⟩ with
  | case1 _ hend =>
    rw [hskip] at hend
    cases hend
  | case2 _ y rest hnext f hf =>
    rw [hskip] at hnext hf
    cases hnext
    cases hs.symm.trans hf
  | case3 _ y rest hnext s' d' hs' =>
    rw [hskip] at hnext hs'
    cases hnext
    cases hs.symm.trans hs'
    rfl

theorem step_backslash (hr : r.verbose = false) {c : Char} (hc : isEscapable c) (pos : Nat)
    (t : Text) :
    r.step '\\' ⟨pos, '\\' :: c :: t⟩ =
      .ok (r.add (.literal ⟨⟨pos, pos + 2⟩, c, false⟩), ⟨pos + 2, t⟩) := by
  have hescape := readEscape_of_isEscapable hc pos (pos + 1) t
  simp [step, hr, Cursor.bump, hescape, Primitive.toAst, bind, Except.bind]

theorem step_plain {c : Char} (hc : isMeta c = false) (pos : Nat) (t : Text) :
    r.step c ⟨pos, c :: t⟩ =
      .ok (r.add (.literal ⟨⟨pos, pos + 1⟩, c, false⟩), ⟨pos + 1, t⟩) := by
  simp only [isMeta, decide_eq_false_iff_not, List.mem_cons, not_or] at hc
  simp [step, plainPrimitive, hc, Cursor.bump, Primitive.toAst]

/-- A quoted text is read as its literals. -/
theorem readItems_backslashed (h : Neutral special) (t : Text) (hr : r.verbose = false)
    (pos : Nat) :
    readItems r ⟨pos, backslashed special t⟩ =
      ((literals special pos t).foldl add r).finish
        ⟨pos + (backslashed special t).length, []⟩ := by
  induction t generalizing r pos with
  | nil => exact readItems_nil hr pos
  | cons c t ih =>
    cases hc : special c with
    | true =>
      have hstep := step_backslash hr (h.escapable hc) pos (backslashed special t)
      have hstop : pos + ('\\' :: c :: backslashed special t).length =
          pos + 2 + (backslashed special t).length := by
        simp only [List.length_cons]
        omega
      rw [backslashed_cons, hc, if_pos rfl, List.cons_append, List.singleton_append,
        readItems_cons hr hstep, ih (r := r.add _) hr, hstop]
      simp [literals, hc]
    | false =>
      have hstep := step_plain (r := r) (h.plain hc) pos (backslashed special t)
      have hstop : pos + (c :: backslashed special t).length =
          pos + 1 + (backslashed special t).length := by
        simp only [List.length_cons]
        omega
      rw [backslashed_cons, hc, if_neg (by simp), List.singleton_append,
        readItems_cons hr hstep, ih (r := r.add _) hr, hstop]
      simp [literals, hc]

theorem foldl_add (as : List Ast) (r : Reader) :
    as.foldl add r = { r with level := { r.level with branch := { r.level.branch with
      items := as.reverse ++ r.level.branch.items } } } := by
  induction as generalizing r with
  | nil => rfl
  | cons a as ih =>
    rw [List.foldl_cons, ih]
    simp [add, Level.add]

end Reader

/-- The tree of a text of length `stop`. -/
def plainTree (special : Char → Bool) (t : Text) (stop : Nat) : Ast :=
  match t with
  | [] => .empty ⟨0, stop⟩
  | [c] => .literal ⟨⟨0, if special c then 2 else 1⟩, c, false⟩
  | t => .concat ⟨0, stop⟩ (literals special 0 t)

section PlainTree

variable {special : Char → Bool}

theorem Branch.close_of_two_le {b : Branch} (h : 2 ≤ b.items.length) (stop : Nat) :
    b.close stop = .concat ⟨b.start, stop⟩ b.items.reverse := by
  unfold Branch.close
  split
  · rename_i hb
    simp [hb] at h
  · rename_i hb
    simp [hb] at h
  · rfl

theorem close_literals (special : Char → Bool) (t : Text) (stop : Nat) :
    Branch.close ⟨0, (literals special 0 t).reverse⟩ stop = plainTree special t stop := by
  match t with
  | [] => rfl
  | [c] => simp [literals, Branch.close, plainTree]
  | c :: c' :: t =>
    rw [Branch.close_of_two_le (by simp [literals]), List.reverse_reverse]
    rfl

theorem tooDeepAny?_literals (special : Char → Bool) (depth pos : Nat) (t : Text) :
    Ast.tooDeepAny? depth (literals special pos t) = none := by
  induction t generalizing pos with
  | nil => simp [literals, Ast.tooDeepAny?]
  | cons c t ih => simp [literals, Ast.tooDeepAny?, Ast.tooDeep?, ih]

/-- A quoted text is read as the tree of the text. -/
theorem parse_backslashed (h : Neutral special) (t : Text) :
    parse (backslashed special t) = .ok (plainTree special t (backslashed special t).length) := by
  have hitems : Reader.readItems .new ⟨0, backslashed special t⟩ =
      .ok (plainTree special t (backslashed special t).length) := by
    rw [Reader.readItems_backslashed h t rfl, Reader.foldl_add, ← close_literals]
    simp [Reader.finish, Reader.new, Level.new, Level.close]
  have hdepth : (plainTree special t (backslashed special t).length).tooDeep? 0 = none := by
    unfold plainTree
    split
    · simp [Ast.tooDeep?]
    · simp [Ast.tooDeep?]
    · simp [Ast.tooDeep?, tooDeepAny?_literals, nestLimit]
  simp [parse, hitems, hdepth, bind, Except.bind]

theorem meanings_literals (special : Char → Bool) (pos : Nat) (t : Text) :
    Ast.meanings {} (literals special pos t) = .ok (t.map fun c => .text [c], {}) := by
  induction t generalizing pos with
  | nil => simp [literals, Ast.meanings]
  | cons c t ih =>
    simp [literals, Ast.meanings, Ast.meaning, ih, Settings.literalExpr, Settings.literalChar, bind,
      Except.bind]

/-- One character after the other is the text. -/
theorem mergeTexts_chars (c : Char) (t : Text) :
    Expr.mergeTexts ((c :: t).map fun c => .text [c]) = [.text (c :: t)] := by
  induction t generalizing c with
  | nil => rfl
  | cons c' t ih =>
    rw [List.map_cons, Expr.mergeTexts, ih]
    rfl

theorem inSequence_chars (t : Text) :
    Expr.inSequence (t.map fun c => .text [c]) = Expr.ofText t := by
  have hparts : (t.map fun c => Expr.text [c]).flatMap Expr.parts = t.map fun c => .text [c] := by
    rw [List.flatMap_map]
    exact List.map_eq_flatMap.symm
  rw [Expr.inSequence, hparts]
  cases t with
  | nil => rfl
  | cons c t => rw [mergeTexts_chars]; rfl

/-- The tree of a text matches the text. -/
theorem meaning_plain (special : Char → Bool) (t : Text) (stop : Nat) :
    (plainTree special t stop).meaning {} = .ok (Expr.ofText t, {}) := by
  unfold plainTree
  split
  · simp [Ast.meaning, Expr.ofText]
  · simp [Ast.meaning, Expr.ofText, Settings.literalExpr, Settings.literalChar, bind, Except.bind]
  · simp [Ast.meaning, meanings_literals, inSequence_chars, bind, Except.bind]

end PlainTree

namespace Building

/-- States can be added, and what follows can be built, if both stay under the limit. -/
theorem isSome_put_bind {α : Type} (part x : Extent) (k : Nat → Building α) :
    ((put part >>= k) x).isSome ↔
      (x.add part).bytes ≤ Extent.limit ∧ (k x.states (x.add part)).isSome := by
  have hput : (put part >>= k) x =
      (if (x.add part).bytes ≤ Extent.limit then some (x.states, x.add part) else none).bind
        fun p => k p.1 p.2 := rfl
  rw [hput]
  split <;> simp [*]

theorem isSome_pure (x : Extent) : ((pure () : Building Unit) x).isSome := rfl

end Building

/-- A text takes 32 bytes for each of its own and a few states more, so all but very long ones can
be searched for. -/
theorem isTooBig_ofText {t : Text} (h : byteLength t ≤ 327673) :
    (Expr.ofText t).isTooBig = false := by
  obtain ⟨n, hn, hbuild⟩ : ∃ n ≤ 327673, ∀ backwards, (Expr.ofText t).build backwards =
      Building.put (.ofPlain n) >>= fun _ => pure () := by
    cases t with
    | nil => exact ⟨1, by omega, fun backwards => by simp only [Expr.ofText, Expr.build]⟩
    | cons c t => exact ⟨_, h, fun backwards => by simp only [Expr.ofText, Expr.build]⟩
  have hwords : (Expr.ofText t).isWordList = false := by cases t <;> rfl
  have hstart : (Expr.ofText t).startsText = false := by cases t <;> rfl
  have hend : (Expr.ofText t).endsText = false := by cases t <;> rfl
  have hfits (backwards : Bool) : Building.fits ((Expr.ofText t).buildWhole backwards) := by
    cases backwards
    all_goals
      simp only [Building.fits, Expr.buildWhole, hbuild, hstart, hend, bind_assoc, pure_bind,
        Bool.false_eq_true, ↓reduceIte]
      simp only [Building.isSome_put_bind, Building.isSome_pure, Extent.bytes, Extent.add,
        Extent.limit, Extent.none, Extent.ofPlain, Extent.ofChoices, Extent.ofRanges,
        Extent.stateBytes, and_true]
      omega
  rw [Expr.isTooBig, hwords, hfits, hfits]
  rfl

/-- The regex that finds a text. The empty text is found by a program. -/
def Regex.ofText (t : Text) : Regex :=
  ⟨[none], if t.isEmpty then .program Expr.empty.program else .text t⟩

/-- A quoted text compiles to the regex of the text, unless it is too long. -/
theorem compile_backslashed {special : Char → Bool} (h : Neutral special) {t : Text}
    (hsize : (Expr.ofText t).isTooBig = false) :
    Regex.compile (backslashed special t) = .ok (.ofText t) := by
  have hmeaning : (parse (backslashed special t) >>= fun a => a.meaning {}) =
      .ok (Expr.ofText t, {}) := by
    rw [parse_backslashed h]
    exact meaning_plain special t _
  rw [Regex.compile, hmeaning]
  simp only [hsize]
  cases t <;> rfl

/-- There is nothing in a quoted text that the engine lacks. -/
theorem usedBy?_backslashed {special : Char → Bool} (h : Neutral special) (t : Text) :
    Feature.usedBy? (backslashed special t) = none := by
  rw [Feature.usedBy?, parse_backslashed h]

end RegexLiteral.Pattern
