import RegexLiteral.Pattern.Fault
import RegexLiteral.Pattern.Program
import RegexLiteral.Unicode.Property

/-!
# Running programs

A program is run over a text by threads. A thread is an instruction with the start of its match and
the places it has noted. At each place of the text the threads stand in order of preference; they go
on until they wait for a character, and no two wait at the same instruction, since the second could
do nothing that the first does not do with more right. The first thread to complete a match ends
all threads behind it. So the match found is the leftmost one, and of these the most preferred one.

Main statement: a match lies in the text that is searched (`scan_bounds`).
-/
namespace RegexLiteral.Pattern

/-- A place in a text: the character before it, the number of characters before it, and the rest. -/
structure Spot where
  before : Option Char
  pos : Nat
  rest : Text

namespace Spot

/-- The start of a text. -/
def first (t : Text) : Spot := ⟨none, 0, t⟩

/-- The place a number of characters further on. -/
def advance (s : Spot) : Nat → Spot
  | 0 => s
  | n + 1 =>
    match s.rest with
    | [] => s
    | c :: rest => advance ⟨some c, s.pos + 1, rest⟩ n

end Spot

/-- Whether a character belongs to words. -/
def isWordChar (unicode : Bool) (c : Char) : Bool :=
  if c.toNat ≤ 0x7F then c.isAlphanum || c = '_' else unicode && Unicode.wordChars.contains c

def WordLook.holds (before after : Bool) : WordLook → Bool
  | boundary => before != after
  | notBoundary => before == after
  | start => !before && after
  | stop => before && !after
  | startHalf => !before
  | stopHalf => !after

/-- Whether a condition holds between two characters, or the ends of the text. -/
def Look.holds (before after : Option Char) : Look → Bool
  | textStart => before.isNone
  | textEnd => after.isNone
  | lineStart false => before.isNone || before = some '\n'
  | lineEnd false => after.isNone || after = some '\n'
  | lineStart true =>
    before.isNone || before = some '\n' || (before = some '\r' && after ≠ some '\n')
  | lineEnd true =>
    after.isNone || after = some '\r' || (after = some '\n' && before ≠ some '\r')
  | word unicode kind =>
    kind.holds (before.any (isWordChar unicode)) (after.any (isWordChar unicode))

/-- A way to go on with a match: the instruction it stands at, where the match started, and the
places noted in slots, last one first. -/
structure Thread where
  pc : Nat
  start : Nat
  marks : List (Nat × Nat)

/-- The thread at each of several instructions. -/
def Thread.fork (t : Thread) (targets : List Nat) : List Thread :=
  targets.map fun pc => { t with pc := pc }

/-- A complete match. -/
structure Hit where
  start : Nat
  stop : Nat
  marks : List (Nat × Nat)

/-- What has become of the threads at a place: those that wait for a character, and the match that
ended the others. -/
structure Settled where
  waiting : List Thread
  hit : Option Hit

theorem count_false_set {seen : Array Bool} {i : Nat} (h : i < seen.size) (hf : seen[i] = false) :
    (seen.set i true h).count false < seen.count false := by
  have hm : false ∈ seen := hf ▸ Array.getElem_mem h
  have := Array.count_pos_iff.mpr hm
  rw [Array.count_set]
  simp [hf]
  omega

/-- Lets threads go on in order until they wait for a character. `seen` tells the instructions that
have been reached at this place, `waiting` holds the threads that wait, last one first. -/
def settle (code : Array Instr) (before after : Option Char) (pos : Nat) (seen : Array Bool)
    (waiting : List Thread) : List Thread → Settled
  | [] => ⟨waiting.reverse, none⟩
  | t :: todo =>
    if h : t.pc < seen.size then
      if hf : seen[t.pc] = false then
        have := count_false_set h hf
        let seen := seen.set t.pc true h
        match code[t.pc]? with
        | some (.char ..) => settle code before after pos seen (t :: waiting) todo
        | some (.set ..) => settle code before after pos seen (t :: waiting) todo
        | some (.look l next) =>
          if l.holds before after then
            settle code before after pos seen waiting (⟨next, t.start, t.marks⟩ :: todo)
          else settle code before after pos seen waiting todo
        | some (.fork targets) =>
          settle code before after pos seen waiting (t.fork targets ++ todo)
        | some (.save slot next) =>
          settle code before after pos seen waiting
            (⟨next, t.start, (slot, pos) :: t.marks⟩ :: todo)
        | some .accept => ⟨waiting.reverse, some ⟨t.start, pos, t.marks⟩⟩
        | none => settle code before after pos seen waiting todo
      else settle code before after pos seen waiting todo
    else settle code before after pos seen waiting todo
termination_by todo => (seen.count false, todo.length)
decreasing_by
  all_goals
    simp_wf
    omega

/-- The thread behind a character, if it reads that character. -/
def Thread.read (code : Array Instr) (c : Char) (t : Thread) : Option Thread :=
  match code[t.pc]? with
  | some (.char d next) => if c = d then some ⟨next, t.start, t.marks⟩ else none
  | some (.set s next) => if s.contains c then some ⟨next, t.start, t.marks⟩ else none
  | _ => none

/-- The threads at a place. As long as there is no match, one may start at every place. -/
def Program.threadsAt (p : Program) (threads : List Thread) (best : Option Hit) (pos : Nat) :
    List Thread :=
  if best.isNone then threads ++ [⟨p.start, pos, []⟩] else threads

/-- What becomes of the threads at a place. -/
def Program.settleAt (p : Program) (threads : List Thread) (best : Option Hit)
    (before after : Option Char) (pos : Nat) : Settled :=
  settle p.code before after pos (Array.replicate p.code.size false) []
    (p.threadsAt threads best pos)

/-- Runs threads over the rest of a text; `best` is the match found so far. -/
def Program.scan (p : Program) (threads : List Thread) (best : Option Hit) (before : Option Char)
    (pos : Nat) : Text → Option Hit
  | [] => (p.settleAt threads best before none pos).hit <|> best
  | c :: rest =>
    let settled := p.settleAt threads best before (some c) pos
    let best := settled.hit <|> best
    if settled.waiting.isEmpty && best.isSome then best
    else
      Program.scan p (settled.waiting.filterMap (Thread.read p.code c)) best (some c) (pos + 1) rest

/-- The first match from a place on. -/
def Program.find (p : Program) (s : Spot) : Option Hit := p.scan [] none s.before s.pos s.rest

/-- All threads started between two places. -/
def StartedIn (low high : Nat) (threads : List Thread) : Prop :=
  ∀ t ∈ threads, low ≤ t.start ∧ t.start ≤ high

/-- The match, if there is one, lies between two places. -/
def HitIn (low high : Nat) (hit : Option Hit) : Prop :=
  ∀ h ∈ hit, low ≤ h.start ∧ h.start ≤ h.stop ∧ h.stop ≤ high

theorem settle_bounds {code : Array Instr} {before after : Option Char} {pos low : Nat}
    {seen : Array Bool} {waiting todo : List Thread} (hw : StartedIn low pos waiting)
    (ht : StartedIn low pos todo) :
    StartedIn low pos (settle code before after pos seen waiting todo).waiting ∧
      HitIn low pos (settle code before after pos seen waiting todo).hit := by
  fun_induction settle code before after pos seen waiting todo with
  | case1 => exact ⟨fun t h => hw t (by simpa using h), by simp [HitIn]⟩
  | case2 | case3 =>
    rename_i ih
    refine ih (fun t h => ?_) fun t h => ht t (List.mem_cons_of_mem _ h)
    rcases List.mem_cons.mp h with rfl | h
    · exact ht _ List.mem_cons_self
    · exact hw t h
  | case4 | case7 =>
    rename_i ih
    have h0 := ht _ List.mem_cons_self
    refine ih hw fun t h => ?_
    rcases List.mem_cons.mp h with rfl | h
    · exact h0
    · exact ht t (List.mem_cons_of_mem _ h)
  | case6 =>
    rename_i ih
    have h0 := ht _ List.mem_cons_self
    refine ih hw fun t h => ?_
    rcases List.mem_append.mp h with h | h
    · obtain ⟨a, -, rfl⟩ := List.mem_map.mp h
      exact h0
    · exact ht t (List.mem_cons_of_mem _ h)
  | case8 =>
    refine ⟨fun t h => hw t (by simpa using h), fun h hh => ?_⟩
    cases hh
    have := ht _ List.mem_cons_self
    exact ⟨this.1, this.2, Nat.le_refl _⟩
  | case5 | case9 | case10 | case11 =>
    rename_i ih
    exact ih hw fun t h => ht t (List.mem_cons_of_mem _ h)

theorem Thread.read_start {code : Array Instr} {c : Char} {t u : Thread}
    (h : t.read code c = some u) : u.start = t.start := by
  unfold Thread.read at h
  split at h
  · split at h
    · cases h; rfl
    · cases h
  · split at h
    · cases h; rfl
    · cases h
  · cases h

theorem HitIn.mono {low high high' : Nat} {hit : Option Hit} (h : HitIn low high hit)
    (hle : high ≤ high') : HitIn low high' hit := fun x hx =>
  ⟨(h x hx).1, (h x hx).2.1, Nat.le_trans (h x hx).2.2 hle⟩

theorem HitIn.orElse {low high : Nat} {a b : Option Hit} (ha : HitIn low high a)
    (hb : HitIn low high b) : HitIn low high (a <|> b) := by
  cases a with
  | none => exact hb
  | some x => exact ha

theorem settleAt_bounds {p : Program} {threads : List Thread} {best : Option Hit}
    {before after : Option Char} {pos low : Nat} (ht : StartedIn low pos threads)
    (hl : low ≤ pos) :
    StartedIn low pos (p.settleAt threads best before after pos).waiting ∧
      HitIn low pos (p.settleAt threads best before after pos).hit := by
  refine settle_bounds (by simp [StartedIn]) fun t h => ?_
  unfold Program.threadsAt at h
  split at h
  · rcases List.mem_append.mp h with h | h
    · exact ht t h
    · rw [List.mem_singleton.mp h]
      exact ⟨hl, Nat.le_refl _⟩
  · exact ht t h

/-- A match found from a place on lies between that place and the end of the text. -/
theorem scan_bounds {p : Program} {threads : List Thread} {best : Option Hit}
    {before : Option Char} {pos low : Nat} {t : Text} (ht : StartedIn low pos threads)
    (hb : HitIn low pos best) (hl : low ≤ pos) :
    HitIn low (pos + t.length) (p.scan threads best before pos t) := by
  induction t generalizing threads best before pos with
  | nil => exact (settleAt_bounds ht hl).2.orElse hb
  | cons c t ih =>
    have hs := @settleAt_bounds p threads best before (some c) pos low ht hl
    have hbest := hs.2.orElse hb
    unfold Program.scan
    dsimp only
    split
    · exact hbest.mono (Nat.le_add_right _ _)
    · refine (ih (fun u hu => ?_) (hbest.mono (Nat.le_succ pos)) (Nat.le_succ_of_le hl)).mono ?_
      · obtain ⟨v, hv, hr⟩ := List.mem_filterMap.mp hu
        rw [Thread.read_start hr]
        exact ⟨(hs.1 v hv).1, Nat.le_succ_of_le (hs.1 v hv).2⟩
      · simp only [List.length_cons]
        omega

end RegexLiteral.Pattern
