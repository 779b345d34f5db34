import RegexLiteral.Proofs.Pattern.Steps

/-!
# Where groups open

A capturing group of a pattern was opened by a parenthesis that is not escaped, and the text behind
that parenthesis shows what kind of group it is. `Shown` says so of a group by its number and name.
Main statement: all groups of a pattern that can be read are shown in it (`parse_shown`). Reading
keeps the groups that are still open and those that are closed, and a step adds one group at most,
the one at hand.
-/
namespace RegexLiteral.Pattern

/-- Whether a character can start layout in a verbose pattern. -/
def startsLayout (c : Char) : Bool := isBlank c || c = '#'

/-- Whether a text starts as the head of a named group does. What follows the angle bracket is not
what makes it a look-behind. -/
def StartsName (t : Text) : Prop :=
  (∃ r, t = '?' :: 'P' :: '<' :: r) ∨ ∃ x r, t = '?' :: '<' :: x :: r ∧ x ≠ '=' ∧ x ≠ '!'

/-- A text without the layout at its start. -/
def skipped (verbose : Bool) (t : Text) : Text := ((Cursor.mk 0 t).skip verbose).rest

/-- What follows the parenthesis of a group with this name, or with none. In a verbose pattern
layout may stand before the head of a named group. -/
def Reveals (verbose : Bool) : Option Text → Text → Prop
  | none, t => t ≠ [] ∧ t.head? ≠ some '?'
  | some _, t => StartsName (skipped verbose t)

/-- A group, by its number and name, opens somewhere in a pattern. -/
def Shown (t : Text) (p : Nat × Option Text) : Prop :=
  0 < p.1 ∧ ∃ u rest, t = u ++ '(' :: rest ∧ escapes false u = false ∧
    Reveals (asksSpacing t) p.2 rest

/-- The groups that a parenthesis opens itself. -/
def GroupKind.captures : GroupKind → List (Nat × Option Text)
  | .capture index name => [(index, name)]
  | .plain _ => []

mutual

/-- The groups of a pattern as it is written: their numbers and names. -/
def Ast.captures : Ast → List (Nat × Option Text)
  | .repetition _ _ _ _ body => body.captures
  | .group _ kind body => kind.captures ++ body.captures
  | .alternation _ branches => Ast.capturesAll branches
  | .concat _ items => Ast.capturesAll items
  | _ => []

def Ast.capturesAll : List Ast → List (Nat × Option Text)
  | [] => []
  | a :: as => a.captures ++ Ast.capturesAll as

end

variable {p : Nat × Option Text}

theorem Ast.mem_capturesAll {as : List Ast} :
    p ∈ Ast.capturesAll as ↔ ∃ a ∈ as, p ∈ a.captures := by
  induction as with
  | nil => simp [Ast.capturesAll]
  | cons a as ih => simp [Ast.capturesAll, ih]

theorem Primitive.captures_toAst (q : Primitive) : q.toAst.captures = [] := by
  cases q <;> rfl

/-- The groups of a level whose branches are not all read. -/
def Level.captures (l : Level) : List (Nat × Option Text) :=
  Ast.capturesAll l.complete ++ Ast.capturesAll l.branch.items

theorem Branch.mem_captures_close {b : Branch} {stop : Nat} :
    p ∈ (b.close stop).captures ↔ p ∈ Ast.capturesAll b.items := by
  unfold Branch.close
  split
  · rename_i h
    simp [h, Ast.captures, Ast.capturesAll]
  · rename_i a h
    simp [h, Ast.capturesAll]
  · simp [Ast.captures, Ast.mem_capturesAll]

theorem Level.mem_captures_close {l : Level} {stop : Nat} :
    p ∈ (l.close stop).captures ↔ p ∈ l.captures := by
  unfold Level.close Level.captures
  split
  · rename_i h
    simp [h, Branch.mem_captures_close, Ast.capturesAll]
  · simp only [Ast.captures, Ast.mem_capturesAll, List.mem_reverse, List.mem_cons,
      exists_eq_or_imp, Branch.mem_captures_close, List.mem_append]
    exact or_comm

theorem Level.mem_captures_add {l : Level} {a : Ast} :
    p ∈ (l.add a).captures ↔ p ∈ a.captures ∨ p ∈ l.captures := by
  simp only [Level.captures, Level.add, Ast.capturesAll, List.mem_append]
  exact or_left_comm

theorem Level.mem_captures_alternate {l : Level} {bar : Cursor} :
    p ∈ (l.alternate bar).captures ↔ p ∈ l.captures := by
  simp [Level.captures, Level.alternate, Ast.capturesAll, Branch.mem_captures_close, or_comm]

/-- The groups of an open group: itself, and those around it on its level. -/
def OpenGroup.captures (g : OpenGroup) : List (Nat × Option Text) :=
  g.kind.captures ++ g.level.captures

/-- The groups that have been read, open and closed. -/
def Reader.heads (r : Reader) : List (Nat × Option Text) :=
  r.level.captures ++ r.outer.flatMap OpenGroup.captures

/-- The name of the capturing group that a head opens, if it opens one. -/
def GroupHead.capture? : GroupHead → Option (Option Text)
  | .named name _ => some (some name)
  | .unnamed => some none
  | _ => none

namespace Reader

variable {r s : Reader} {c d : Cursor}

theorem mem_heads_add {a : Ast} : p ∈ (r.add a).heads ↔ p ∈ a.captures ∨ p ∈ r.heads := by
  simp only [heads, add, List.mem_append, Level.mem_captures_add]
  exact or_assoc

theorem mem_heads_enter {span : Span} {kind : GroupKind} {verbose : Bool} {start : Nat} :
    p ∈ (r.enter span kind verbose start).heads ↔ p ∈ kind.captures ∨ p ∈ r.heads := by
  simp [heads, enter, OpenGroup.captures, Level.new, Level.captures, Ast.capturesAll]

/-- A group that is added by a parenthesis: it has the next number, and it stays open. -/
theorem mem_heads_openGroup (h : r.openGroup c = .ok (s, d)) (hp : p ∈ s.heads) :
    p ∈ r.heads ∨ ∃ head name, readGroupHead r.verbose c = .ok (head, d) ∧
      head.capture? = some name ∧ p = (r.captures + 1, name) ∧ s.outer ≠ [] := by
  unfold openGroup at h
  obtain ⟨⟨head, e⟩, hhead, h⟩ := bind_eq_ok.mp h
  cases head with
  | directive span items =>
    cases h
    rcases mem_heads_add.mp hp with hnone | hp
    · cases hnone
    · exact .inl hp
  | plain items =>
    cases h
    rcases mem_heads_enter.mp hp with hnone | hp
    · cases hnone
    · exact .inl hp
  | named name span =>
    dsimp only at h
    split at h
    · cases h
    · cases h
      replace hp : p ∈
          (r.enter c.char (.capture (r.captures + 1) (some name)) r.verbose d.pos).heads := hp
      rcases mem_heads_enter.mp hp with hnew | hp
      · exact .inr ⟨_, some name, hhead, rfl, List.mem_singleton.mp hnew, List.cons_ne_nil _ _⟩
      · exact .inl hp
  | unnamed =>
    cases h
    replace hp : p ∈ (r.enter c.char (.capture (r.captures + 1) none) r.verbose d.pos).heads := hp
    rcases mem_heads_enter.mp hp with hnew | hp
    · exact .inr ⟨_, none, hhead, rfl, List.mem_singleton.mp hnew, List.cons_ne_nil _ _⟩
    · exact .inl hp

theorem mem_heads_closeGroup (h : r.closeGroup c = .ok (s, d)) (hp : p ∈ s.heads) :
    p ∈ r.heads := by
  unfold closeGroup at h
  split at h
  · cases h
  · rename_i g outer hout
    cases h
    simp only [heads, List.mem_append, Level.mem_captures_add, Ast.captures,
      Level.mem_captures_close, hout, List.flatMap_cons, OpenGroup.captures] at hp ⊢
    rcases hp with ((hkind | hlevel) | houter) | hmore
    · exact .inr (.inl (.inl hkind))
    · exact .inl hlevel
    · exact .inr (.inl (.inr houter))
    · exact .inr (.inr hmore)

theorem mem_heads_takeLast {a : Ast} (h : r.takeLast c = .ok (a, s)) :
    p ∈ r.heads ↔ p ∈ a.captures ∨ p ∈ s.heads := by
  unfold takeLast at h
  split at h
  · cases h
  · cases h
  · rename_i b items hitems
    cases h
    simp only [heads, Level.captures, hitems, Ast.capturesAll, List.mem_append]
    constructor
    · rintro ((hcomplete | hlast | hitems) | houter)
      · exact .inr (.inl (.inl hcomplete))
      · exact .inl hlast
      · exact .inr (.inl (.inr hitems))
      · exact .inr (.inr houter)
    · rintro (hlast | (hcomplete | hitems) | houter)
      · exact .inl (.inr (.inl hlast))
      · exact .inl (.inl hcomplete)
      · exact .inl (.inr (.inr hitems))
      · exact .inr houter

theorem mem_heads_repeatLast {a : Ast} {count : Count} {stop : Nat} :
    p ∈ (s.repeatLast a count stop).heads ↔ p ∈ a.captures ∨ p ∈ s.heads :=
  mem_heads_add

theorem mem_heads_signRepetition {min : Nat} {max : Option Nat}
    (h : r.signRepetition c min max = .ok (s, d)) (hp : p ∈ s.heads) : p ∈ r.heads := by
  unfold signRepetition at h
  obtain ⟨⟨a, r'⟩, hlast, h⟩ := bind_eq_ok.mp h
  rw [mem_heads_takeLast hlast]
  dsimp only at h
  split at h
  · cases h
    exact mem_heads_repeatLast.mp hp
  · cases h
    exact mem_heads_repeatLast.mp hp

theorem mem_heads_countRepetition (h : r.countRepetition c = .ok (s, d)) (hp : p ∈ s.heads) :
    p ∈ r.heads := by
  unfold countRepetition at h
  obtain ⟨⟨a, r'⟩, hlast, h⟩ := bind_eq_ok.mp h
  obtain ⟨⟨count, e⟩, -, h⟩ := bind_eq_ok.mp h
  rw [mem_heads_takeLast hlast]
  cases h
  exact mem_heads_repeatLast.mp hp

theorem captures_of_readBracket {v : Bool} {a : Ast} (h : readBracket v c = .ok (a, d)) :
    a.captures = [] := by
  unfold readBracket at h
  obtain ⟨⟨o, e⟩, -, h⟩ := bind_eq_ok.mp h
  obtain ⟨⟨⟨span, negated, tree⟩, f⟩, -, h⟩ := bind_eq_ok.mp h
  cases h
  rfl

/-- What the groups are behind a step: those before it and, at a parenthesis, one more. -/
theorem mem_heads_step {x : Char} (h : r.step x c = .ok (s, d)) (hp : p ∈ s.heads) :
    p ∈ r.heads ∨ x = '(' ∧ ∃ head name, readGroupHead r.verbose c = .ok (head, d) ∧
      head.capture? = some name ∧ p = (r.captures + 1, name) ∧ s.outer ≠ [] := by
  have hprimitive {q : Primitive} (hp : p ∈ (r.add q.toAst).heads) : p ∈ r.heads := by
    rcases mem_heads_add.mp hp with hnone | hp
    · rw [Primitive.captures_toAst] at hnone
      cases hnone
    · exact hp
  have hcase := r.stepCase x c
  rw [h] at hcase
  generalize hresult : Except.ok (s, d) = result at hcase
  cases hcase with
  | openGroup =>
    rcases mem_heads_openGroup hresult.symm hp with hold | hnew
    · exact .inl hold
    · exact .inr ⟨rfl, hnew⟩
  | closeGroup => exact .inl (mem_heads_closeGroup hresult.symm hp)
  | alternate =>
    cases hresult
    left
    simpa only [heads, List.mem_append, Level.mem_captures_alternate] using hp
  | bracket =>
    obtain ⟨q, hread, hq⟩ := bind_eq_ok.mp hresult.symm
    cases hq
    left
    rcases mem_heads_add.mp hp with hnone | hp
    · rw [captures_of_readBracket hread] at hnone
      cases hnone
    · exact hp
  | sign hx min max => exact .inl (mem_heads_signRepetition hresult.symm hp)
  | count => exact .inl (mem_heads_countRepetition hresult.symm hp)
  | escape =>
    obtain ⟨q, -, hq⟩ := bind_eq_ok.mp hresult.symm
    cases hq
    exact .inl (hprimitive hp)
  | plain hx =>
    cases hresult
    exact .inl (hprimitive hp)

theorem signRepetition_passes {x : Char} {t : Text} (h : c.rest = x :: t) (hx : x ≠ '\\')
    (min : Nat) (max : Option Nat) : Passes false c (r.signRepetition c min max) := by
  have hc : Passed false c c.bump := .bump h hx
  unfold signRepetition
  refine .bind_check fun a => ?_
  dsimp only
  split
  · rename_i hmark
    obtain ⟨t', ht'⟩ := List.head?_eq_some_iff.mp hmark
    exact .ok _ (hc.trans (.bump ht' (by decide)))
  · exact .ok _ hc

theorem countRepetition_passes {t : Text} (h : c.rest = '\x7b' :: t) :
    Passes false c (r.countRepetition c) := by
  unfold countRepetition
  refine .bind_check fun a => ?_
  refine .bind (readCount_passes _ h) ?_
  intro count d hd
  exact .ok _ hd

theorem openGroup_passes {t : Text} (h : c.rest = '(' :: t) : Passes false c (r.openGroup c) := by
  unfold openGroup
  refine .bind (readGroupHead_passes r.verbose h) ?_
  intro head d hd
  dsimp only
  split
  · exact .ok _ hd
  · exact .ok _ hd
  · split
    · exact .refuse _ _ _ _
    · exact .ok _ hd
  · exact .ok _ hd

theorem closeGroup_passes {t : Text} (h : c.rest = ')' :: t) :
    Passes false c (r.closeGroup c) := by
  unfold closeGroup
  split
  · exact .refuse _ _ _ _
  · exact .ok _ (.bump h (by decide))

theorem step_passes (r : Reader) {x : Char} {t : Text} (h : c.rest = x :: t) :
    Passes false c (r.step x c) := by
  have hcase := r.stepCase x c
  generalize r.step x c = result at hcase
  cases hcase with
  | openGroup => exact openGroup_passes h
  | closeGroup => exact closeGroup_passes h
  | alternate => exact .ok _ (.bump h (by decide))
  | bracket => exact .bind (readBracket_passes _ h) fun a d hd => .ok _ hd
  | sign hx min max => exact signRepetition_passes h hx min max
  | count => exact countRepetition_passes h
  | escape =>
    intro s d hs
    obtain ⟨q, hread, hs⟩ := bind_eq_ok.mp hs
    cases hs
    exact .of_escape h (readEscape_passes _ _ _ q.1 q.2 hread)
  | plain hx => exact .ok _ (.bump h hx)

end Reader

/-- Only layout is skipped. -/
theorem Cursor.skip_eq_self (v : Bool) {c : Cursor} (h : ∀ x ∈ c.rest.head?, ¬startsLayout x) :
    c.skip v = c := by
  unfold skip
  split
  · cases hc : c.rest with
    | nil => simp [skipLayout, ← hc]
    | cons x t =>
      have hx := h x (by simp [hc])
      simp only [startsLayout, Bool.or_eq_true, decide_eq_true_eq, not_or] at hx
      simp [skipLayout, hx.1, hx.2, ← hc]
  · rfl

theorem Cursor.rest_skipLayout (inComment : Bool) (pos pos' : Nat) (t : Text) :
    (skipLayout inComment pos t).rest = (skipLayout inComment pos' t).rest := by
  induction t generalizing inComment pos pos' with
  | nil => rfl
  | cons x t ih =>
    unfold skipLayout
    split
    · exact ih _ _ _
    · split
      · exact ih _ _ _
      · split
        · exact ih _ _ _
        · rfl

/-- What is skipped does not depend on where the text stands. -/
theorem Cursor.rest_skip (v : Bool) (c : Cursor) : (c.skip v).rest = skipped v c.rest := by
  unfold skipped skip
  split
  · exact rest_skipLayout false c.pos 0 c.rest
  · rfl

theorem skipped_eq_self (v : Bool) {t : Text} (h : ∀ x ∈ t.head?, ¬startsLayout x) :
    skipped v t = t :=
  congrArg Cursor.rest (Cursor.skip_eq_self v (c := ⟨0, t⟩) h)

theorem StartsName.head? {t : Text} (h : StartsName t) : t.head? = some '?' := by
  obtain ⟨r, rfl⟩ | ⟨x, r, rfl, -, -⟩ := h <;> rfl

/-- Before the question mark of a head nothing is skipped. -/
theorem skipped_of_mark (v : Bool) {t : Text} (h : t.head? = some '?') : skipped v t = t := by
  refine skipped_eq_self v fun x hx => ?_
  rw [h] at hx
  cases hx
  decide

/-- What follows the parenthesis shows the group that its head opens. -/
theorem reveals_of_readGroupHead {v w : Bool} {c d : Cursor} {t : Text} {head : GroupHead}
    {name : Option Text} (h : readGroupHead v c = .ok (head, d)) (hc : c.rest = '(' :: t)
    (hname : head.capture? = some name) (hd : d.rest ≠ []) (hv : v → w) : Reveals w name t := by
  have hbump : c.bump.rest = t := by simp [Cursor.bump, hc]
  have hnext : (c.next v).rest = skipped v t := by rw [Cursor.next, Cursor.rest_skip, hbump]
  have hnamed {rest : Text} {e : Cursor} (hrest : (c.next v).rest = rest) (hstart : StartsName rest)
      (hread : readName e = .ok (head, d)) : Reveals w name t := by
    obtain ⟨⟨n, span, rfl⟩, -⟩ := capture?_of_readName hread
    cases hname
    rw [← hrest, hnext] at hstart
    cases v with
    | true => rwa [Reveals, hv rfl]
    | false =>
      have hstart' : StartsName t := hstart
      rwa [Reveals, skipped_of_mark w hstart'.head?]
  unfold readGroupHead at h
  dsimp only at h
  split at h
  · cases h
  · cases h
  · cases h
  · cases h
  · rename_i rest hrest
    exact hnamed hrest (.inl ⟨rest, rfl⟩) h
  · rename_i rest heq hne hrest
    refine hnamed hrest (.inr ?_) h
    obtain ⟨x, r, hr⟩ := List.exists_cons_of_ne_nil (capture?_of_readName h).2
    replace hr : rest = x :: r := hr
    subst hr
    exact ⟨x, r, rfl, fun hx => heq r (hx ▸ rfl), fun hx => hne r (hx ▸ rfl)⟩
  · rename_i rest _ _ _ _ _ _ hrest
    split at h
    · cases h
    · obtain ⟨⟨items, e⟩, -, h⟩ := bind_eq_ok.mp h
      dsimp only at h
      split at h
      · cases h
        cases hname
      · split at h
        · cases h
        · cases h
          cases hname
  · rename_i hmark
    cases h
    cases hname
    rw [hnext] at hd
    constructor
    · rintro rfl
      exact hd (skipped_eq_self v (by simp))
    · intro hhead
      obtain ⟨t', ht'⟩ := List.head?_eq_some_iff.mp hhead
      exact hmark t' (by rw [hnext, skipped_of_mark v hhead, ht'])

namespace Reader

theorem finish_ok {r : Reader} {c : Cursor} {a : Ast} (h : r.finish c = .ok a) :
    r.outer = [] ∧ a = r.level.close c.pos := by
  unfold finish at h
  split at h
  · rename_i hout
    cases h
    exact ⟨hout, rfl⟩
  · cases h

theorem outer_eq_nil_of_readItems {r : Reader} {c : Cursor} {a : Ast}
    (h : r.readItems c = .ok a) (hc : c.rest = []) : r.outer = [] := by
  have hskip : (c.skip r.verbose).rest = [] :=
    List.suffix_nil.mp (hc ▸ (Passed.skip r.verbose c).suffix)
  unfold readItems at h
  split at h
  · exact (finish_ok h).1
  · rename_i hrest
    rw [hskip] at hrest
    cases hrest

/-- The groups of what is read are shown, if those read before are. -/
theorem readItems_shown {t : Text} {r : Reader} {c : Cursor} {a : Ast}
    (h : r.readItems c = .ok a) (hc : Passed false ⟨0, t⟩ c) (hspaced : r.Spaced t)
    (hr : ∀ p ∈ r.heads, Shown t p) : ∀ p ∈ a.captures, Shown t p := by
  fun_induction readItems r c with
  | case1 r c _ hrest =>
    obtain ⟨hout, rfl⟩ := finish_ok h
    intro p hp
    refine hr p ?_
    rw [heads, List.mem_append]
    exact .inl (Level.mem_captures_close.mp hp)
  | case2 => cases h
  | case3 r c _ x rest hrest s d hstep _ _ ih =>
    have hskip : Passed false ⟨0, t⟩ (c.skip r.verbose) := hc.trans (.skip _ c)
    have hpass := step_passes r hrest s d hstep
    refine ih h (hskip.trans hpass) (hspaced.step hskip.suffix hrest hstep) ?_
    intro p hp
    rcases mem_heads_step hstep hp with hold | ⟨rfl, head, name, hhead, hname, rfl, hout⟩
    · exact hr p hold
    · have hd : d.rest ≠ [] := fun hd => hout (outer_eq_nil_of_readItems h hd)
      obtain ⟨u, hu, hend⟩ := hskip
      have hu' : escapes false u = false := by
        rcases hend with hnil | hend
        · rw [hrest] at hnil
          cases hnil
        · exact hend
      exact ⟨Nat.succ_pos _, u, rest, hrest ▸ hu, hu',
        reveals_of_readGroupHead hhead hrest hname hd hspaced.here⟩

end Reader

/-- Every group of a pattern is opened by a parenthesis in it that shows it. -/
theorem parse_shown {t : Text} {a : Ast} (h : parse t = .ok a) : ∀ p ∈ a.captures, Shown t p := by
  unfold parse at h
  obtain ⟨a', hread, h⟩ := bind_eq_ok.mp h
  split at h
  · cases h
  · cases h
    exact Reader.readItems_shown hread (.refl _) (Reader.spaced_new t) nofun

end RegexLiteral.Pattern
