import RegexLiteral.Pattern.Reader
import RegexLiteral.Proofs.Pattern.Readers

/-!
# Steps of reading

A step of reading opens a group, closes one, or changes nothing but the level at hand
(`Reader.step_cases`). Whether what follows is verbose is settled at parentheses: a group of flags
says so, and behind a group it is as it was before. Main statement: a pattern that is read as
verbose somewhere asks for it, by a group of flags with `x` among them (`Reader.Spaced.step`).
-/
namespace RegexLiteral.Pattern

/-- Whether the text behind a parenthesis is a row of flags that turns on free spacing. What stands
behind a hyphen is turned off. -/
def turnsSpacingOn : Text → Bool
  | '?' :: t => (t.takeWhile fun x => x ≠ '-' && (flagItem? x).isSome).contains 'x'
  | _ => false

/-- Whether a pattern turns on free spacing anywhere. -/
def asksSpacing : Text → Bool
  | [] => false
  | c :: t => (c = '(' && turnsSpacingOn t) || asksSpacing t

theorem asksSpacing_of_suffix {t u : Text} (h : u <:+ t) (hu : asksSpacing u) : asksSpacing t := by
  obtain ⟨w, rfl⟩ := h
  induction w with
  | nil => exact hu
  | cons c w ih => simp [asksSpacing, ih]

/-- Without a parenthesis a text asks for nothing. -/
theorem asksSpacing_append {w : Text} (hw : '(' ∉ w) (t : Text) :
    asksSpacing (w ++ t) = asksSpacing t := by
  induction w with
  | nil => rfl
  | cons c w ih =>
    have hc : c ≠ '(' := fun hc => hw (hc ▸ List.mem_cons_self ..)
    rw [List.cons_append, asksSpacing, ih (List.not_mem_of_not_mem_cons hw)]
    simp [hc]

theorem eq_of_flagItem? {x : Char} (h : flagItem? x = some (.flag .ignoreWhitespace)) :
    x = 'x' := by
  unfold flagItem? at h
  split at h <;> first | rfl | cases h

/-- Flags that are read turn on free spacing by an `x` before any hyphen. -/
theorem spacing_of_readFlags {seen : List (FlagItem × Span)} {pos : Nat} {t : Text}
    {items : List FlagItem} {d : Cursor} (h : readFlags seen pos t = .ok (items, d)) :
    ∃ more, items = (seen.map Prod.fst).reverse ++ more ∧
      (flagState? .ignoreWhitespace more = some true →
        'x' ∈ t.takeWhile fun x => x ≠ '-' && (flagItem? x).isSome) := by
  induction t generalizing seen pos with
  | nil => cases h
  | cons x t ih =>
    unfold readFlags at h
    dsimp only at h
    split at h
    · split at h
      · cases h
      · cases h
        exact ⟨[], by simp, nofun⟩
    · split at h
      · cases h
      · rename_i item hitem
        split at h
        · cases h
        · cases h
        · obtain ⟨more, hmore, hspacing⟩ := ih h
          refine ⟨item :: more, by simp [hmore], fun hstate => ?_⟩
          have hflag : item ≠ .negation := by
            rintro rfl
            rw [flagState?] at hstate
            cases hrest : flagState? .ignoreWhitespace more <;> simp [hrest] at hstate
          have hx : x ≠ '-' := by
            rintro rfl
            exact hflag (Option.some.inj hitem).symm
          rw [List.takeWhile_cons_of_pos (by simp [hx, hitem])]
          cases item with
          | negation => exact absurd rfl hflag
          | flag g =>
            rw [flagState?] at hstate
            split at hstate
            · rename_i hg
              subst hg
              rw [eq_of_flagItem? hitem]
              exact List.mem_cons_self ..
            · exact List.mem_cons_of_mem _ (hspacing hstate)

theorem capture?_of_readName {c d : Cursor} {head : GroupHead}
    (h : readName c = .ok (head, d)) : (∃ n span, head = .named n span) ∧ c.rest ≠ [] := by
  unfold readName at h
  obtain ⟨⟨n, e⟩, hchars, h⟩ := bind_eq_ok.mp h
  dsimp only at h
  split at h
  · cases h
  · rename_i hne
    split at h
    · cases h
    · cases h
      refine ⟨⟨n, _, rfl⟩, ?_⟩
      intro hnil
      have hsuffix := readNameChars_suffix _ _ _ hchars
      rw [hnil, List.suffix_nil] at hsuffix
      simp [hsuffix] at hne

/-- What the head of a group turns on stands at its parenthesis. -/
theorem turnsSpacingOn_of_readGroupHead {c d : Cursor} {t : Text} {head : GroupHead}
    {items : List FlagItem} (h : readGroupHead false c = .ok (head, d)) (hc : c.rest = '(' :: t)
    (hhead : head = .plain items ∨ ∃ span, head = .directive span items)
    (hon : flagState? .ignoreWhitespace items = some true) : turnsSpacingOn t := by
  have hnext : (c.next false).rest = t := by simp [Cursor.next, Cursor.skip, Cursor.bump, hc]
  have hname {e : Cursor} (hread : readName e = .ok (head, d)) : turnsSpacingOn t := by
    obtain ⟨⟨n, span, rfl⟩, -⟩ := capture?_of_readName hread
    rcases hhead with hhead | ⟨span, hhead⟩ <;> cases hhead
  unfold readGroupHead at h
  dsimp only at h
  rw [hnext] at h
  split at h
  · cases h
  · cases h
  · cases h
  · cases h
  · exact hname h
  · exact hname h
  · split at h
    · cases h
    · obtain ⟨⟨items', e⟩, hflags, h⟩ := bind_eq_ok.mp h
      obtain ⟨more, hmore, hspacing⟩ := spacing_of_readFlags hflags
      have hitems : items' = items := by
        dsimp only at h
        split at h
        · cases h
          simpa using hhead
        · split at h
          · cases h
          · cases h
            simpa using hhead
      obtain rfl : items = more := by simpa [hitems] using hmore
      simpa [turnsSpacingOn] using hspacing hon
  · cases h
    simp at hhead

namespace Reader

variable {r s : Reader} {c d : Cursor}

/-- What a step is, by the character it stands on. -/
inductive StepCase (r : Reader) (c : Cursor) : Char → Except Fault (Reader × Cursor) → Prop where
  | openGroup : StepCase r c '(' (r.openGroup c)
  | closeGroup : StepCase r c ')' (r.closeGroup c)
  | alternate : StepCase r c '|' (.ok ({ r with level := r.level.alternate c }, c.bump))
  | bracket : StepCase r c '[' (readBracket r.verbose c >>= fun q => .ok (r.add q.1, q.2))
  | sign {x : Char} (hx : x ≠ '\\') (min : Nat) (max : Option Nat) :
    StepCase r c x (r.signRepetition c min max)
  | count : StepCase r c '\x7b' (r.countRepetition c)
  | escape :
    StepCase r c '\\'
      (readEscape r.verbose c.pos c.bump >>= fun q => .ok (r.add q.1.toAst, q.2))
  | plain {x : Char} (hx : x ≠ '\\') :
    StepCase r c x (.ok (r.add (plainPrimitive c.pos x).toAst, c.bump))

theorem stepCase (r : Reader) (x : Char) (c : Cursor) : StepCase r c x (r.step x c) := by
  unfold step
  by_cases hopen : x = '('
  · subst hopen
    exact .openGroup
  rw [if_neg hopen]
  by_cases hclose : x = ')'
  · subst hclose
    exact .closeGroup
  rw [if_neg hclose]
  by_cases hbar : x = '|'
  · subst hbar
    exact .alternate
  rw [if_neg hbar]
  by_cases hbracket : x = '['
  · subst hbracket
    exact .bracket
  rw [if_neg hbracket]
  by_cases hmark : x = '?'
  · subst hmark
    exact .sign (by decide) _ _
  rw [if_neg hmark]
  by_cases hstar : x = '*'
  · subst hstar
    exact .sign (by decide) _ _
  rw [if_neg hstar]
  by_cases hplus : x = '+'
  · subst hplus
    exact .sign (by decide) _ _
  rw [if_neg hplus]
  by_cases hbrace : x = '\x7b'
  · subst hbrace
    exact .count
  rw [if_neg hbrace]
  by_cases hbackslash : x = '\\'
  · subst hbackslash
    exact .escape
  rw [if_neg hbackslash]
  exact .plain hbackslash

theorem eq_of_takeLast {a : Ast} (h : r.takeLast c = .ok (a, s)) :
    s = { r with level := s.level } := by
  unfold takeLast at h
  split at h
  · cases h
  · cases h
  · cases h
    rfl

theorem eq_of_signRepetition {min : Nat} {max : Option Nat}
    (h : r.signRepetition c min max = .ok (s, d)) : s = { r with level := s.level } := by
  unfold signRepetition at h
  obtain ⟨⟨a, r'⟩, hlast, h⟩ := bind_eq_ok.mp h
  have hr' := eq_of_takeLast hlast
  dsimp only at h
  split at h
  · cases h
    rw [hr']
    rfl
  · cases h
    rw [hr']
    rfl

theorem eq_of_countRepetition (h : r.countRepetition c = .ok (s, d)) :
    s = { r with level := s.level } := by
  unfold countRepetition at h
  obtain ⟨⟨a, r'⟩, hlast, h⟩ := bind_eq_ok.mp h
  obtain ⟨⟨count, e⟩, -, h⟩ := bind_eq_ok.mp h
  have hr' := eq_of_takeLast hlast
  cases h
  rw [hr']
  rfl

/-- A step opens a group, closes one, or changes nothing but the level at hand. -/
theorem step_cases {x : Char} (h : r.step x c = .ok (s, d)) :
    (x = '(' ∧ r.openGroup c = .ok (s, d)) ∨ (x = ')' ∧ r.closeGroup c = .ok (s, d)) ∨
      s = { r with level := s.level } := by
  have hcase := r.stepCase x c
  generalize r.step x c = result at h hcase
  cases hcase with
  | openGroup => exact .inl ⟨rfl, h⟩
  | closeGroup => exact .inr (.inl ⟨rfl, h⟩)
  | alternate =>
    cases h
    exact .inr (.inr rfl)
  | bracket =>
    obtain ⟨q, -, hq⟩ := bind_eq_ok.mp h
    cases hq
    exact .inr (.inr rfl)
  | sign hx min max => exact .inr (.inr (eq_of_signRepetition h))
  | count => exact .inr (.inr (eq_of_countRepetition h))
  | escape =>
    obtain ⟨q, -, hq⟩ := bind_eq_ok.mp h
    cases hq
    exact .inr (.inr rfl)
  | plain hx =>
    cases h
    exact .inr (.inr rfl)

/-- What is read as verbose, at hand or around an open group, was asked for by the pattern. -/
structure Spaced (t : Text) (r : Reader) : Prop where
  here : r.verbose → asksSpacing t
  around : ∀ g ∈ r.outer, g.verbose → asksSpacing t

theorem spaced_new (t : Text) : Reader.new.Spaced t where
  here := nofun
  around := nofun

namespace Spaced

variable {t : Text}

/-- Flags turn free spacing on if they say so themselves. -/
theorem of_flags (hr : r.Spaced t) (hc : c.rest <:+ t) {rest : Text} (hrest : c.rest = '(' :: rest)
    {head : GroupHead} {items : List FlagItem}
    (hread : readGroupHead r.verbose c = .ok (head, d))
    (hhead : head = .plain items ∨ ∃ span, head = .directive span items)
    (hon : (flagState? .ignoreWhitespace items).getD r.verbose) : asksSpacing t := by
  cases hverbose : r.verbose with
  | true => exact hr.here hverbose
  | false =>
    rw [hverbose] at hread hon
    have hstate : flagState? .ignoreWhitespace items = some true := by
      cases hitems : flagState? .ignoreWhitespace items with
      | none => simp [hitems] at hon
      | some b => simpa [hitems] using hon
    have hturns := turnsSpacingOn_of_readGroupHead hread hrest hhead hstate
    exact asksSpacing_of_suffix hc (by simp [hrest, asksSpacing, hturns])

theorem openGroup (hr : r.Spaced t) (hc : c.rest <:+ t) {rest : Text}
    (hrest : c.rest = '(' :: rest) (h : r.openGroup c = .ok (s, d)) : s.Spaced t := by
  have henter (span : Span) (kind : GroupKind) (start : Nat) {verbose : Bool}
      (hv : verbose → asksSpacing t) : (r.enter span kind verbose start).Spaced t := by
    refine ⟨hv, fun g hg => ?_⟩
    rcases List.mem_cons.mp hg with rfl | hg
    · exact hr.here
    · exact hr.around g hg
  unfold Reader.openGroup at h
  obtain ⟨⟨head, e⟩, hread, h⟩ := bind_eq_ok.mp h
  cases head with
  | directive span items =>
    cases h
    exact ⟨hr.of_flags hc hrest hread (.inr ⟨span, rfl⟩), hr.around⟩
  | plain items =>
    cases h
    exact henter _ _ _ (hr.of_flags hc hrest hread (.inl rfl))
  | named name span =>
    dsimp only at h
    split at h
    · cases h
    · cases h
      have hgroup := henter c.char (.capture (r.captures + 1) (some name)) d.pos hr.here
      exact ⟨hgroup.here, hgroup.around⟩
  | unnamed =>
    cases h
    have hgroup := henter c.char (.capture (r.captures + 1) none) d.pos hr.here
    exact ⟨hgroup.here, hgroup.around⟩

theorem closeGroup (hr : r.Spaced t) (h : r.closeGroup c = .ok (s, d)) : s.Spaced t := by
  unfold Reader.closeGroup at h
  split at h
  · cases h
  · rename_i g outer hout
    cases h
    refine ⟨hr.around g (hout ▸ List.mem_cons_self ..), fun g' hg' => ?_⟩
    exact hr.around g' (hout ▸ List.mem_cons_of_mem _ hg')

/-- A step keeps it so that the pattern asks for what is verbose. -/
theorem step (hr : r.Spaced t) (hc : c.rest <:+ t) {x : Char} {rest : Text}
    (hrest : c.rest = x :: rest) (h : r.step x c = .ok (s, d)) : s.Spaced t := by
  rcases step_cases h with ⟨rfl, hopen⟩ | ⟨-, hclose⟩ | hlevel
  · exact hr.openGroup hc hrest hopen
  · exact hr.closeGroup hclose
  · rw [hlevel]
    exact ⟨hr.here, hr.around⟩

end Spaced

end Reader

end RegexLiteral.Pattern
