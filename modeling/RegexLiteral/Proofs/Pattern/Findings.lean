import RegexLiteral.Pattern.Regex

/-!
# What searches find

A regex can be searched with or without its groups. The two searches run different programs, but
threads that note nothing move like threads that do: leaving out the marks commutes with every step
of a search (`settle_withoutMarks`), so both find the same spans in the same order
(`Regex.findSpans_eq`). The spans found stand in order in the text, none reaching into another
(`Regex.inOrder_findAll`), and the first group of a match is the whole of it. There is at most one
finding more than there are characters, so all of them are found by a search that gives up after so
many (`Regex.findAll_eq_upTo`).
-/
namespace RegexLiteral.Pattern

/-- The thread without the places it has noted. -/
def Thread.bare (t : Thread) : Thread := { t with marks := [] }

/-- The match without the places noted on the way. -/
def Hit.bare (h : Hit) : Hit := { h with marks := [] }

/-- What has become of threads, without the places they have noted. -/
def Settled.bare (s : Settled) : Settled := ⟨s.waiting.map Thread.bare, s.hit.map Hit.bare⟩

@[simp] theorem Thread.bare_pc (t : Thread) : t.bare.pc = t.pc := rfl

@[simp] theorem Thread.bare_start (t : Thread) : t.bare.start = t.start := rfl

theorem Thread.fork_bare (t : Thread) (targets : List Nat) :
    t.bare.fork targets = (t.fork targets).map Thread.bare := by
  simp [fork, bare]

theorem getElem?_withoutMark (code : Array Instr) (pc : Nat) :
    (code.map Instr.withoutMark)[pc]? = code[pc]?.map Instr.withoutMark := Array.getElem?_map

/-- Threads of the program without marks go on like those of the program. -/
theorem settle_withoutMarks (code : Array Instr) (before after : Option Char) (pos : Nat)
    (seen : Array Bool) (waiting todo : List Thread) :
    settle (code.map Instr.withoutMark) before after pos seen (waiting.map Thread.bare)
        (todo.map Thread.bare) =
      (settle code before after pos seen waiting todo).bare := by
  fun_induction settle code before after pos seen waiting todo with
  | case1 => simp [settle, Settled.bare]
  | case2 | case3 =>
    rename_i hpc hseen _ _ _ _ hcode ih
    rw [← ih, List.map_cons, settle]
    simp +zetaDelta [hpc, hseen, hcode, Instr.withoutMark]
  | case4 | case5 =>
    rename_i hpc hseen _ _ _ _ hcode hlook ih
    rw [← ih, List.map_cons, settle]
    simp +zetaDelta [hpc, hseen, hcode, hlook, Instr.withoutMark, Thread.bare]
  | case6 seen waiting t todo hpc hseen _ _ targets hcode ih =>
    rw [← ih, List.map_append, ← Thread.fork_bare, List.map_cons, settle]
    simp +zetaDelta [hpc, hseen, hcode, Instr.withoutMark]
  | case7 seen waiting t todo hpc hseen _ _ slot next hcode ih =>
    rw [← ih, List.map_cons, settle]
    simp +zetaDelta [hpc, hseen, hcode, Instr.withoutMark, Thread.fork, Thread.bare]
  | case8 seen waiting t todo hpc hseen _ hcode =>
    rw [List.map_cons, settle]
    simp +zetaDelta [hpc, hseen, hcode, Instr.withoutMark, Settled.bare, Hit.bare, Thread.bare]
  | case9 seen waiting t todo hpc hseen _ _ hcode ih =>
    rw [← ih, List.map_cons, settle]
    simp +zetaDelta [hpc, hseen, hcode]
  | case10 seen waiting t todo hpc hseen ih =>
    rw [← ih, List.map_cons, settle]
    simp [hpc, hseen]
  | case11 seen waiting t todo hpc ih =>
    rw [← ih, List.map_cons, settle]
    simp [hpc]

theorem Thread.read_withoutMarks (code : Array Instr) (c : Char) (t : Thread) :
    t.bare.read (code.map Instr.withoutMark) c = (t.read code c).map Thread.bare := by
  unfold read
  rw [bare_pc, getElem?_withoutMark]
  cases hcode : code[t.pc]? with
  | none => rfl
  | some i =>
    cases i with
    | char d next => simp only [Option.map_some, Instr.withoutMark]; split <;> rfl
    | set s next => simp only [Option.map_some, Instr.withoutMark]; split <;> rfl
    | look l next => rfl
    | fork targets => rfl
    | save slot next => rfl
    | accept => rfl

theorem settleAt_withoutMarks (p : Program) (threads : List Thread) (best : Option Hit)
    (before after : Option Char) (pos : Nat) :
    p.withoutMarks.settleAt (threads.map Thread.bare) (best.map Hit.bare) before after pos =
      (p.settleAt threads best before after pos).bare := by
  have hthreads : p.withoutMarks.threadsAt (threads.map Thread.bare) (best.map Hit.bare) pos =
      (p.threadsAt threads best pos).map Thread.bare := by
    cases best <;> simp [Program.threadsAt, Program.withoutMarks, Thread.bare]
  unfold Program.settleAt
  rw [hthreads, ← settle_withoutMarks]
  simp [Program.withoutMarks]

theorem scan_withoutMarks (p : Program) (threads : List Thread) (best : Option Hit)
    (before : Option Char) (pos : Nat) (t : Text) :
    p.withoutMarks.scan (threads.map Thread.bare) (best.map Hit.bare) before pos t =
      (p.scan threads best before pos t).map Hit.bare := by
  induction t generalizing threads best before pos with
  | nil =>
    unfold Program.scan
    rw [settleAt_withoutMarks]
    cases h : (p.settleAt threads best before none pos).hit <;> simp [Settled.bare, h]
  | cons c t ih =>
    unfold Program.scan
    rw [settleAt_withoutMarks]
    have hbest : ((p.settleAt threads best before (some c) pos).bare.hit <|> best.map Hit.bare) =
        ((p.settleAt threads best before (some c) pos).hit <|> best).map Hit.bare := by
      cases h : (p.settleAt threads best before (some c) pos).hit <;> simp [Settled.bare, h]
    have hread : ((p.settleAt threads best before (some c) pos).bare.waiting.filterMap
        (Thread.read p.withoutMarks.code c)) =
        ((p.settleAt threads best before (some c) pos).waiting.filterMap
          (Thread.read p.code c)).map Thread.bare := by
      rw [List.map_filterMap, Settled.bare, List.filterMap_map]
      exact congrArg (List.filterMap · _) (funext fun u => Thread.read_withoutMarks p.code c u)
    dsimp only
    rw [hbest, hread, ih]
    simp only [Settled.bare, List.isEmpty_map, Option.isSome_map]
    split <;> rfl

/-- A program without marks finds the same matches. -/
theorem find_withoutMarks (p : Program) (s : Spot) :
    p.withoutMarks.find s = (p.find s).map Hit.bare :=
  scan_withoutMarks p [] none s.before s.pos s.rest


/-- Spans that stand one behind the other between two places of a text: none starts before the one
in front of it has stopped. -/
def Span.InOrder (start stop : Nat) : List Span → Prop
  | [] => start ≤ stop
  | a :: rest => start ≤ a.start ∧ a.start ≤ a.stop ∧ InOrder a.stop stop rest

namespace Finder

variable {α β : Type} {f : Finder α} {g : Finder β} {view : α → β}

/-- A finder finds what another one finds, but sees less of it. -/
structure Views (f : Finder α) (g : Finder β) (view : α → β) : Prop where
  find : ∀ s, g.find s = (f.find s).map view
  span : ∀ a, g.span (view a) = f.span a

theorem Views.findNext (h : Views f g view) (lastStop : Option Nat) (s : Spot) :
    g.findNext lastStop s = (f.findNext lastStop s).map view := by
  unfold Finder.findNext
  rw [h.find]
  cases f.find s with
  | none => rfl
  | some a =>
    simp only [Option.map_some, h.span]
    split
    · cases s.rest with
      | nil => rfl
      | cons c rest => exact h.find _
    · rfl

/-- All findings are seen in the same order. -/
theorem Views.allFrom (h : Views f g view) (lastStop : Option Nat) (s : Spot) :
    g.allFrom lastStop s = (f.allFrom lastStop s).map view := by
  fun_induction Finder.allFrom f lastStop s with
  | case1 lastStop s hfound =>
    rw [Finder.allFrom]
    have hnone := h.findNext lastStop s
    rw [hfound] at hnone
    split <;> simp_all
  | case2 lastStop s a hfound ih =>
    rw [Finder.allFrom]
    have hsome := h.findNext lastStop s
    rw [hfound] at hsome
    split <;> simp_all [h.span]

theorem Views.all (h : Views f g view) (t : Text) : g.all t = (f.all t).map view :=
  h.allFrom none (.first t)

theorem exists_find_of_findNext {lastStop : Option Nat} {s : Spot} {a : α}
    (h : f.findNext lastStop s = some a) : ∃ s', f.find s' = some a := by
  unfold findNext at h
  split at h
  · cases h
  · rename_i b hb
    split at h
    · split at h
      · cases h
      · exact ⟨_, h⟩
    · cases h
      exact ⟨s, hb⟩

theorem exists_find_of_allFrom {lastStop : Option Nat} {s : Spot} {a : α}
    (h : a ∈ f.allFrom lastStop s) : ∃ s', f.find s' = some a := by
  fun_induction allFrom f lastStop s with
  | case1 => cases h
  | case2 lastStop s b hfound ih =>
    rcases List.mem_cons.mp h with rfl | h
    · exact exists_find_of_findNext hfound
    · exact ih h

/-- Findings stand in order in the text that is searched. -/
theorem inOrder_allFrom (f : Finder α) (lastStop : Option Nat) (s : Spot) :
    Span.InOrder s.pos (s.pos + s.rest.length) ((f.allFrom lastStop s).map f.span) := by
  fun_induction Finder.allFrom f lastStop s with
  | case1 => exact Nat.le_add_right _ _
  | case2 lastStop s a hfound ih =>
    obtain ⟨hstart, hspan, hstop⟩ := (findNext_bounds hfound).1
    obtain ⟨hpos, hrest⟩ := advance_eq s ((f.span a).stop - s.pos) (by omega)
    have hplace : s.pos + ((f.span a).stop - s.pos) = (f.span a).stop := by omega
    have hend : (f.span a).stop + (s.rest.length - ((f.span a).stop - s.pos)) =
        s.pos + s.rest.length := by omega
    rw [hpos, hrest, List.length_drop, hplace, hend] at ih
    exact ⟨hstart, hspan, ih⟩

/-- A search takes in a character for each finding, except that the first one may be empty where the
search starts. -/
theorem length_allFrom_le (f : Finder α) (lastStop : Option Nat) (s : Spot) :
    (f.allFrom lastStop s).length ≤ s.rest.length + if lastStop = some s.pos then 0 else 1 := by
  fun_induction Finder.allFrom f lastStop s with
  | case1 => exact Nat.zero_le _
  | case2 lastStop s a hfound ih =>
    obtain ⟨⟨hstart, hspan, hstop⟩, hbehind⟩ := findNext_bounds hfound
    obtain ⟨hpos, hrest⟩ := advance_eq s ((f.span a).stop - s.pos) (by omega)
    have hplace : some (f.span a).stop = some (s.pos + ((f.span a).stop - s.pos)) := by
      congr 1
      omega
    rw [hpos, hrest, List.length_drop, if_pos hplace] at ih
    rw [List.length_cons]
    split
    · rename_i hlast
      have := hbehind hlast
      omega
    · omega

/-- The first findings from a place on, no more of them than a number. -/
def upTo (f : Finder α) : Nat → Option Nat → Spot → List α
  | 0, _, _ => []
  | n + 1, lastStop, s =>
    match f.findNext lastStop s with
    | none => []
    | some a => a :: upTo f n (some (f.span a).stop) (s.advance ((f.span a).stop - s.pos))

theorem upTo_eq_take (f : Finder α) (n : Nat) (lastStop : Option Nat) (s : Spot) :
    f.upTo n lastStop s = (f.allFrom lastStop s).take n := by
  induction n generalizing lastStop s with
  | zero => rfl
  | succ n ih =>
    rw [upTo, allFrom]
    cases f.findNext lastStop s with
    | none => rfl
    | some a =>
      dsimp only
      rw [ih, List.take_succ_cons]

theorem all_eq_upTo (f : Finder α) (t : Text) :
    f.all t = f.upTo (t.length + 1) none (.first t) := by
  rw [upTo_eq_take, all, List.take_of_length_le]
  simpa [Spot.first] using f.length_allFrom_le none (.first t)

theorem inOrder_all (f : Finder α) (t : Text) :
    Span.InOrder 0 t.length ((f.all t).map f.span) := by
  simpa [Spot.first, all] using f.inOrder_allFrom none (.first t)

/-- Nothing is passed over before there was a finding. -/
theorem findNext_none (f : Finder α) (s : Spot) : f.findNext none s = f.find s := by
  unfold findNext
  cases f.find s with
  | none => rfl
  | some a => simp

/-- The first of all findings is what a single search finds. -/
theorem head?_all (f : Finder α) (t : Text) : (f.all t).head? = f.find (.first t) := by
  unfold all
  rw [allFrom]
  split
  · rename_i hfound
    rw [findNext_none] at hfound
    rw [hfound]
    rfl
  · rename_i a hfound
    rw [findNext_none] at hfound
    rw [hfound]
    rfl

end Finder

namespace Regex

variable {r : Regex}

theorem span_matchFinder (r : Regex) : r.matchFinder.span = Match.span := by
  unfold matchFinder
  split <;> rfl

theorem views_spanFinder (r : Regex) : Finder.Views r.matchFinder r.spanFinder Match.span := by
  obtain ⟨names, matcher⟩ := r
  cases matcher with
  | text needle =>
    refine ⟨fun s => ?_, fun a => rfl⟩
    simp only [matchFinder, spanFinder]
    cases findNeedle needle s <;> rfl
  | program p =>
    refine ⟨fun s => ?_, fun a => rfl⟩
    simp only [matchFinder, spanFinder, find_withoutMarks]
    cases p.find s <;> rfl

/-- Searches with and without groups visit the same spans in the same order. -/
theorem findSpans_eq (r : Regex) (t : Text) : r.findSpans t = (r.findAll t).map Match.span :=
  r.views_spanFinder.all t

theorem findAll_eq_upTo (r : Regex) (t : Text) :
    r.findAll t = r.matchFinder.upTo (t.length + 1) none (.first t) := r.matchFinder.all_eq_upTo t

theorem head?_findAll (r : Regex) (t : Text) : (r.findAll t).head? = r.findFirst t :=
  r.matchFinder.head?_all t

/-- Asking for a match only answers whether there is a first one. -/
theorem isMatch_eq (r : Regex) (t : Text) : r.isMatch t = (r.findFirst t).isSome := by
  unfold isMatch findFirst
  rw [r.views_spanFinder.find, Option.isSome_map]

/-- The first group of a match is the whole of it. -/
theorem group?_zero_of_find {s : Spot} {m : Match} (h : r.matchFinder.find s = some m) :
    m.group? 0 = some m.span := by
  obtain ⟨names, matcher⟩ := r
  cases matcher with
  | text needle =>
    obtain ⟨a, -, rfl⟩ := Option.map_eq_some_iff.mp h
    rfl
  | program p =>
    obtain ⟨x, -, rfl⟩ := Option.map_eq_some_iff.mp h
    rfl

theorem group?_zero_of_findAll {t : Text} {m : Match} (h : m ∈ r.findAll t) :
    m.group? 0 = some m.span := by
  obtain ⟨s, hs⟩ := Finder.exists_find_of_allFrom h
  exact group?_zero_of_find hs

theorem inOrder_findFirst (r : Regex) (t : Text) :
    Span.InOrder 0 t.length ((r.findFirst t).toList.map Match.span) := by
  cases h : r.findFirst t with
  | none => exact Nat.zero_le _
  | some m =>
    obtain ⟨hstart, hspan, hstop⟩ := r.matchFinder.bounds h
    rw [span_matchFinder] at hstart hspan hstop
    exact ⟨hstart, hspan, by simpa [Span.InOrder, Spot.first] using hstop⟩

theorem inOrder_findAll (r : Regex) (t : Text) :
    Span.InOrder 0 t.length ((r.findAll t).map Match.span) := by
  have h := r.matchFinder.inOrder_all t
  rwa [span_matchFinder] at h

end Regex
end RegexLiteral.Pattern
