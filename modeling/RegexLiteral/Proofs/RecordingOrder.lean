import Mathlib
import RegexLiteral.Proofs.Recording

/-!
# Records in any order

A recorder may be given the matches of a call in any order, some of them more than once, others not
at all, and under numbers that it was not told of. The row grows as needed, so no record writes
beside it: a run in which such a write is a failure does not fail (`Recorder.recordEach?_eq`). Main
statement: whatever the records are, each entry of the row is told by the records of its own match
number, so records of different match numbers may change places (`Recorder.groups_placed`).
-/
namespace RegexLiteral

open Pattern

namespace Recorder

/-- The text of a group in the last record of a match number in which the group took part. It is
empty if there is no such record. -/
def lastText (calls : List Call) (i j : Nat) : Text :=
  ((calls.filter fun c => c.iteration = i).filterMap fun c => c.text? j).getLast?.getD []

/-- Enters a group of a match, if it took part, and fails if its place is beside the row. -/
def enterGroup? (haystack : Text) (m : Match) (iteration : Nat) (r : Recorder) (j : Nat) :
    Option Recorder :=
  match m.group? (j + 1) with
  | none => some r
  | some span =>
    if iteration * r.groupsPerMatch + (j + 1) < r.groups.size then
      some (r.enter iteration (j + 1) (slice haystack span))
    else none

/-- Makes a call, and fails if one of its writes is beside the row. -/
def record? (r : Recorder) (c : Call) : Option Recorder :=
  (List.range r.groupsPerMatch).foldlM (enterGroup? c.haystack c.found c.iteration)
    (r.reserve (c.iteration * r.groupsPerMatch + r.groupsPerMatch + 1))

/-- Makes calls one after the other, and fails if a write is beside the row. -/
def recordEach? (r : Recorder) (calls : List Call) : Option Recorder := calls.foldlM record? r

section Writes

variable {r : Recorder} {haystack : Text} {m : Match} {iteration : Nat}

theorem enterGroup?_eq {j : Nat} (h : iteration * r.groupsPerMatch + (j + 1) < r.groups.size) :
    enterGroup? haystack m iteration r j = some (enterGroup haystack m iteration r j) := by
  unfold enterGroup? enterGroup
  cases m.group? (j + 1) with
  | none => rfl
  | some span => exact if_pos h

/-- In a row that is long enough for the groups of a match none is entered beside it. -/
theorem foldlM_enterGroup? {n : Nat} (h : iteration * r.groupsPerMatch + n < r.groups.size) :
    (List.range n).foldlM (enterGroup? haystack m iteration) r =
      some ((List.range n).foldl (enterGroup haystack m iteration) r) := by
  induction n with
  | zero => rfl
  | succ n ih =>
    have hn : iteration * r.groupsPerMatch + n < r.groups.size := by omega
    have hentered := Entered.of_loop haystack m iteration hn
    rw [List.range_succ, List.foldlM_append, ih hn, List.foldl_append]
    generalize (List.range n).foldl (enterGroup haystack m iteration) r = s at hentered
    have hplace : iteration * s.groupsPerMatch + (n + 1) < s.groups.size := by
      rw [hentered.groupsPerMatch, hentered.size]
      exact h
    simp only [Option.bind_eq_bind, Option.bind_some, List.foldlM_cons, enterGroup?_eq hplace]
    rfl

theorem record?_eq (r : Recorder) (c : Call) :
    r.record? c = some (r.record c.haystack c.found c.iteration) := by
  rw [record?, record_eq]
  apply foldlM_enterGroup?
  rw [size_reserve]
  exact Nat.lt_of_lt_of_le (Nat.lt_succ_self _) (Nat.le_max_right _ _)

/-- No write of any calls is beside the row. -/
theorem recordEach?_eq (r : Recorder) (calls : List Call) :
    r.recordEach? calls = some (r.recordEach calls) := by
  induction calls generalizing r with
  | nil => rfl
  | cons c calls ih =>
    rw [recordEach?, List.foldlM_cons, record?_eq]
    exact ih _

end Writes

section Entries

variable (names : List (Option Text)) (collectNamed : Bool) (matchCount : Nat)
variable {calls calls' : List Call}

/-- The row reaches to the end of the last match number that is announced or recorded. -/
theorem size_recordEach_eq (r : Recorder) (calls : List Call) :
    (r.recordEach calls).groups.size =
      (calls.map Call.iteration).max?.elim r.groups.size
        fun last => max r.groups.size ((last + 1) * r.groupsPerMatch + 1) := by
  induction calls generalizing r with
  | nil => rfl
  | cons c calls ih =>
    rw [recordEach_cons, ih, size_record, groupsPerMatch_record, List.map_cons, List.max?_cons,
      ← Nat.add_one_mul]
    cases (calls.map Call.iteration).max? with
    | none => rfl
    | some last =>
      have hmono : Monotone fun n => (n + 1) * r.groupsPerMatch + 1 := fun n n' hle =>
        Nat.succ_le_succ (Nat.mul_le_mul_right _ (Nat.succ_le_succ hle))
      simp only [Option.elim_some]
      rw [Nat.max_assoc]
      exact congrArg (max r.groups.size) hmono.map_max.symm

theorem size_le_recordEach (r : Recorder) (calls : List Call) :
    r.groups.size ≤ (r.recordEach calls).groups.size := by
  rw [size_recordEach_eq]
  cases (calls.map Call.iteration).max? with
  | none => exact Nat.le_refl _
  | some last => exact Nat.le_max_left ..

theorem entry_recordEach_new (calls : List Call) {i j : Nat} (hj : 1 ≤ j)
    (hg : j ≤ names.length - 1) :
    ((new names collectNamed matchCount).recordEach calls).entry (i * (names.length - 1) + j) =
      lastText calls i j := by
  have hentry := (new names collectNamed matchCount).entry_recordEach calls (i := i) hj hg
  rw [entry_new] at hentry
  refine hentry.trans ?_
  rw [lastText, List.filterMap_filter]
  simp only [decide_eq_true_eq]

theorem size_of_no_groups (hnone : names.length - 1 = 0) (calls : List Call) :
    ((new names collectNamed matchCount).recordEach calls).groups.size = 1 := by
  rw [size_recordEach_eq, size_new, groupsPerMatch_new, hnone]
  cases (calls.map Call.iteration).max? with
  | none => rfl
  | some last => rfl

/-- Behind the first one each place of the row is that of a group. -/
theorem exists_place {k : Nat} (hk : 0 < k)
    (hsize : k < ((new names collectNamed matchCount).recordEach calls).groups.size) :
    ∃ i j, 1 ≤ j ∧ j ≤ names.length - 1 ∧ k = i * (names.length - 1) + j := by
  have hpos : 0 < names.length - 1 := by
    by_contra hnone
    rw [size_of_no_groups names collectNamed matchCount (by omega)] at hsize
    omega
  refine ⟨(k - 1) / (names.length - 1), (k - 1) % (names.length - 1) + 1, Nat.le_add_left ..,
    Nat.mod_lt _ hpos, ?_⟩
  have := Nat.div_add_mod' (k - 1) (names.length - 1)
  omega

/-- Which records there are of each match number decides on the row. -/
theorem groups_eq (hsize : ((new names collectNamed matchCount).recordEach calls).groups.size =
      ((new names collectNamed matchCount).recordEach calls').groups.size)
    (htext : ∀ i j, lastText calls i j = lastText calls' i j) :
    ((new names collectNamed matchCount).recordEach calls).groups =
      ((new names collectNamed matchCount).recordEach calls').groups := by
  refine Array.ext hsize fun k hk hk' => ?_
  apply Option.some.inj
  rw [← Array.getElem?_eq_getElem hk, ← Array.getElem?_eq_getElem hk', getElem?_eq_entry hk,
    getElem?_eq_entry hk']
  rcases Nat.eq_zero_or_pos k with rfl | hpos
  · rw [entry_zero_recordEach, entry_zero_recordEach]
  · obtain ⟨i, j, hj, hg, rfl⟩ := exists_place names collectNamed matchCount hpos hk
    rw [entry_recordEach_new names collectNamed matchCount calls hj hg,
      entry_recordEach_new names collectNamed matchCount calls' hj hg, htext]

/-- Where no match number is recorded twice, the records of one are the same in any order. -/
theorem filter_eq_of_perm (h : calls.Perm calls') (hdistinct : (calls.map Call.iteration).Nodup)
    (i : Nat) :
    (calls.filter fun c => c.iteration = i) = calls'.filter fun c => c.iteration = i := by
  -- One record at most has the number, so there is nothing to put in another order.
  have hone : (calls.filter fun c => c.iteration = i).length ≤ 1 := by
    have hcount := List.nodup_iff_count_le_one.mp hdistinct i
    rw [List.count_eq_countP, List.countP_map, List.countP_eq_length_filter] at hcount
    exact hcount
  have hperm := h.filter fun c => c.iteration = i
  generalize (calls.filter fun c => c.iteration = i) = rest at hone hperm
  match rest with
  | [] => exact hperm.nil_eq
  | [c] => exact (List.perm_singleton.mp hperm.symm).symm
  | _ :: _ :: _ =>
    simp only [List.length_cons] at hone
    omega

end Entries

/-- Where recording places groups. With `g` groups besides the whole match no write is beside the
row, the first entry stays empty, and the row reaches to the end of the last match number that is
announced or recorded. The entry of a group is its text in the last record of the match number in
which it took part. So records of different match numbers make the same row in any order. -/
theorem groups_placed (names : List (Option Text)) (collectNamed : Bool) (matchCount : Nat) :
    let g := names.length - 1
    let start := new names collectNamed matchCount
    (∀ calls : List Call,
      let r := start.recordEach calls
      start.recordEach? calls = some r ∧
      r.groups[0]? = some [] ∧
      r.groups.size = (calls.map Call.iteration).max?.elim (matchCount * g + 1)
        (fun last => max (matchCount * g + 1) ((last + 1) * g + 1)) ∧
      ∀ i j, 1 ≤ j → j ≤ g → i * g + j < r.groups.size →
        r.groups[i * g + j]? = some (lastText calls i j)) ∧
    ∀ calls calls' : List Call, calls.Perm calls' → (calls.map Call.iteration).Nodup →
      (start.recordEach calls).groups = (start.recordEach calls').groups := by
  intro g start
  constructor
  · intro calls r
    have hsize := start.size_recordEach_eq calls
    rw [size_new] at hsize
    refine ⟨start.recordEach?_eq calls, ?_, hsize, ?_⟩
    · have hpos : 0 < r.groups.size :=
        Nat.lt_of_lt_of_le (size_new .. ▸ Nat.succ_pos _) (start.size_le_recordEach calls)
      rw [getElem?_eq_entry hpos, entry_zero_recordEach, entry_new]
    · intro i j hj hg hplace
      rw [getElem?_eq_entry hplace]
      exact congrArg some (entry_recordEach_new names collectNamed matchCount calls hj hg)
  · intro calls calls' hperm hdistinct
    apply groups_eq
    · rw [size_recordEach, size_recordEach]
      apply hperm.foldl_eq'
      intro c _ d _ size
      exact Nat.max_right_comm ..
    · intro i j
      rw [lastText, lastText, filter_eq_of_perm hperm hdistinct]

/-- The match of the higher number is recorded first or last, and one group takes no part in each.
The row has room for a match between the two, which is not recorded. -/
theorem groups_placed_swapped :
    let early : Call := ⟨"ab".toList, ⟨⟨0, 2⟩, [some ⟨0, 2⟩, none, some ⟨1, 2⟩]⟩, 0⟩
    let late : Call := ⟨"cd".toList, ⟨⟨0, 2⟩, [some ⟨0, 2⟩, some ⟨0, 1⟩, none]⟩, 2⟩
    let start := new [none, none, none] false 1
    (start.recordEach [late, early]).groups = (start.recordEach [early, late]).groups ∧
      (start.recordEach [late, early]).groups.size = 7 ∧
      (start.recordEach [late, early]).groups[2 * 2 + 1]? = some ['c'] := by
  intro early late start
  obtain ⟨hplaced, hperm⟩ := groups_placed [none, none, none] false 1
  obtain ⟨-, -, hsize, htext⟩ := hplaced [late, early]
  have hplace : 2 * 2 + 1 < (start.recordEach [late, early]).groups.size := by
    rw [hsize]
    decide
  exact ⟨hperm _ _ (.swap early late []) (by decide), hsize,
    htext 2 1 (by decide) (by decide) hplace⟩

end Recorder
end RegexLiteral
