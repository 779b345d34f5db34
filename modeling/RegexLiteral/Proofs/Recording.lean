import Mathlib
import RegexLiteral.Captures

/-!
# What a recorder holds

Each record writes the groups of one match into places of its own, so an entry of the row is told
by the records of one match number alone: it is what the last of them wrote there
(`Recorder.entry_recordEach`). The names are told by what all records name, one after the other: a
name has the last text that it was given, and the names stand in the order in which they were first
given one (`Recorder.lookup_assign`, `Recorder.keys_assign`).
-/
namespace RegexLiteral

open Pattern

namespace Recorder

/-- The text at a place of the row. Behind the end of the row it is empty, as it is in a place that
has not been written. -/
def entry (r : Recorder) (k : Nat) : Text := r.groups[k]?.getD []

/-- The names that are recorded. -/
def heeded (r : Recorder) : List (Option Text) := if r.collectNamed then r.names else []

/-- What a text gives to the name of its group, if it is not empty and the group has a name. -/
def naming? (names : List (Option Text)) (group : Nat) (value : Text) : Option (Text × Text) :=
  if value.isEmpty then none else names[group]?.join.map fun name => (name, value)

/-- What a match gives to names, group by group. -/
def namings (names : List (Option Text)) (groups : Nat) (haystack : Text) (m : Match) :
    List (Text × Text) :=
  (List.range groups).filterMap fun j =>
    ((m.group? (j + 1)).map (slice haystack)).bind (naming? names (j + 1))

/-- Gives texts to names, one after the other. -/
def assign (named given : List (Text × Text)) : List (Text × Text) :=
  given.foldl (fun named p => setNamed p.1 p.2 named) named

/-- Enters a group of a match, if it took part. -/
def enterGroup (haystack : Text) (m : Match) (iteration : Nat) (r : Recorder) (j : Nat) :
    Recorder :=
  match m.group? (j + 1) with
  | none => r
  | some span => r.enter iteration (j + 1) (slice haystack span)

variable {r : Recorder} {haystack : Text} {m : Match} {iteration : Nat}

theorem record_eq (r : Recorder) (haystack : Text) (m : Match) (iteration : Nat) :
    r.record haystack m iteration =
      (List.range r.groupsPerMatch).foldl (enterGroup haystack m iteration)
        (r.reserve (iteration * r.groupsPerMatch + r.groupsPerMatch + 1)) := rfl

section Assign

variable {name value : Text} {named given : List (Text × Text)}

theorem lookup_cons_eq (key : Text) (p : Text × Text) (named : List (Text × Text)) :
    (p :: named).lookup key = if key = p.1 then some p.2 else named.lookup key := by
  rw [List.lookup_cons]
  by_cases h : key = p.1
  · simp [h]
  · rw [beq_eq_false_iff_ne.mpr h, if_neg h]

theorem lookup_setNamed (name value key : Text) (named : List (Text × Text)) :
    (setNamed name value named).lookup key =
      if key = name then some value else named.lookup key := by
  induction named with
  | nil => rw [setNamed, lookup_cons_eq]
  | cons p named ih =>
    by_cases hp : p.1 = name
    · rw [setNamed, if_pos hp, lookup_cons_eq, lookup_cons_eq, hp]
      by_cases h : key = name <;> simp [h]
    · rw [setNamed, if_neg hp, lookup_cons_eq, lookup_cons_eq, ih]
      by_cases h : key = p.1
      · simp [h, hp]
      · simp [h]

theorem keys_setNamed (name value : Text) (named : List (Text × Text)) :
    (setNamed name value named).map Prod.fst =
      if name ∈ named.map Prod.fst then named.map Prod.fst
      else named.map Prod.fst ++ [name] := by
  induction named with
  | nil => rfl
  | cons p named ih =>
    by_cases hp : p.1 = name
    · simp [setNamed, hp]
    · have hne : name ≠ p.1 := fun h => hp h.symm
      rw [setNamed, if_neg hp, List.map_cons, ih]
      by_cases h : name ∈ named.map Prod.fst <;> simp_all

/-- A new name gets its place behind the others. -/
theorem setNamed_of_notMem (h : name ∉ named.map Prod.fst) :
    setNamed name value named = named ++ [(name, value)] := by
  induction named with
  | nil => rfl
  | cons p named ih =>
    rw [List.map_cons, List.mem_cons, not_or] at h
    rw [setNamed, if_neg (Ne.symm h.1), ih h.2, List.cons_append]

theorem assign_append (named given more : List (Text × Text)) :
    assign named (given ++ more) = assign (assign named given) more := List.foldl_append

/-- A name has the last text that was given to it. -/
theorem lookup_assign (key : Text) (given : List (Text × Text)) :
    (assign [] given).lookup key =
      ((given.filter fun p => p.1 = key).getLast?).map Prod.snd := by
  induction given using List.reverseRecOn with
  | nil => rfl
  | append_singleton given p ih =>
    rw [assign_append, List.filter_append]
    by_cases h : p.1 = key
    · simp [assign, lookup_setNamed, h]
    · have hne : key ≠ p.1 := fun hkey => h hkey.symm
      simp [assign, lookup_setNamed, h, hne] at ih ⊢
      exact ih

/-- The names stand in the order in which they were first given a text. -/
theorem keys_assign (given : List (Text × Text)) :
    (assign [] given).map Prod.fst = (given.map Prod.fst).eraseDups := by
  induction given using List.reverseRecOn with
  | nil => rfl
  | append_singleton given p ih =>
    rw [assign_append, List.map_append, List.eraseDups_append, ← ih]
    have hstep : assign (assign [] given) [p] = setNamed p.1 p.2 (assign [] given) := rfl
    rw [hstep, keys_setNamed, ih]
    by_cases h : p.1 ∈ given.map Prod.fst
    · rw [if_pos (List.mem_eraseDups.mpr h)]
      simp_all [List.removeAll]
    · rw [if_neg fun hmem => h (List.mem_eraseDups.mp hmem)]
      simp_all [List.removeAll, List.eraseDups_cons]

end Assign

section Row

theorem getElem?_eq_entry {r : Recorder} {k : Nat} (hk : k < r.groups.size) :
    r.groups[k]? = some (r.entry k) := by
  rw [entry, Array.getElem?_eq_getElem hk]
  rfl

theorem entry_new (names : List (Option Text)) (collectNamed : Bool) (count k : Nat) :
    (new names collectNamed count).entry k = [] := by
  simp only [new, entry, Array.getElem?_replicate]
  split <;> rfl

@[simp] theorem groupsPerMatch_new (names : List (Option Text)) (collectNamed : Bool)
    (count : Nat) : (new names collectNamed count).groupsPerMatch = names.length - 1 := rfl

theorem size_new (names : List (Option Text)) (collectNamed : Bool) (count : Nat) :
    (new names collectNamed count).groups.size = count * (names.length - 1) + 1 := by
  simp [new]

theorem entry_reserve (r : Recorder) (size k : Nat) : (r.reserve size).entry k = r.entry k := by
  obtain ⟨names, collectNamed, groups, named⟩ := r
  simp only [reserve, entry, Array.getElem?_append, Array.getElem?_replicate]
  split
  · rfl
  · rename_i hk
    rw [Array.getElem?_eq_none (Nat.le_of_not_lt hk)]
    split <;> rfl

theorem size_reserve (r : Recorder) (size : Nat) :
    (r.reserve size).groups.size = max r.groups.size size := by
  obtain ⟨names, collectNamed, groups, named⟩ := r
  simp only [reserve, Array.size_append, Array.size_replicate]
  omega

theorem size_enter (r : Recorder) (iteration group : Nat) (value : Text) :
    (r.enter iteration group value).groups.size = r.groups.size := by
  obtain ⟨names, collectNamed, groups, named⟩ := r
  simp [enter]

/-- Entering writes one place of the row. -/
theorem entry_enter (r : Recorder) (iteration group : Nat) (value : Text) (k : Nat)
    (h : iteration * r.groupsPerMatch + group < r.groups.size) :
    (r.enter iteration group value).entry k =
      if k = iteration * r.groupsPerMatch + group then value else r.entry k := by
  obtain ⟨names, collectNamed, groups, named⟩ := r
  simp only [groupsPerMatch] at h ⊢
  simp only [enter, entry, Array.getElem?_setIfInBounds]
  by_cases hk : k = iteration * (names.length - 1) + group
  · simp [hk, h]
  · simp [hk, Ne.symm hk]

theorem named_enter (r : Recorder) (iteration group : Nat) (value : Text) :
    (r.enter iteration group value).named =
      assign r.named (naming? r.heeded group value).toList := by
  obtain ⟨names, collectNamed, groups, named⟩ := r
  cases collectNamed with
  | false =>
    have hnone : naming? [] group value = none := by simp [naming?]
    simp only [enter, heeded, Bool.false_eq_true, if_false, hnone]
    cases names[group]?.join <;> simp [assign]
  | true =>
    simp only [enter, heeded, if_true, naming?]
    cases hname : names[group]?.join with
    | none => simp [assign]
    | some name => cases value <;> simp [assign]

end Row

theorem namings_succ (names : List (Option Text)) (n : Nat) (haystack : Text) (m : Match) :
    namings names (n + 1) haystack m = namings names n haystack m ++
      (((m.group? (n + 1)).map (slice haystack)).bind (naming? names (n + 1))).toList := by
  have hone (f : Nat → Option (Text × Text)) : [n].filterMap f = (f n).toList := by
    cases h : f n <;> simp [h]
  rw [namings, List.range_succ, List.filterMap_append, hone]
  rfl

/-- What a recorder has become when the first `n` groups of a match are entered. -/
structure Entered (haystack : Text) (m : Match) (iteration : Nat) (r : Recorder) (n : Nat)
    (s : Recorder) : Prop where
  names : s.names = r.names
  collectNamed : s.collectNamed = r.collectNamed
  size : s.groups.size = r.groups.size
  entry : ∀ k, s.entry k =
    if iteration * r.groupsPerMatch < k ∧ k ≤ iteration * r.groupsPerMatch + n then
      ((m.group? (k - iteration * r.groupsPerMatch)).map (slice haystack)).getD (r.entry k)
    else r.entry k
  named : s.named = assign r.named (namings r.heeded n haystack m)

namespace Entered

variable {s : Recorder} {n : Nat}

theorem zero (haystack : Text) (m : Match) (iteration : Nat) (r : Recorder) :
    Entered haystack m iteration r 0 r where
  names := rfl
  collectNamed := rfl
  size := rfl
  entry k := by rw [if_neg]; omega
  named := rfl

theorem groupsPerMatch (h : Entered haystack m iteration r n s) :
    s.groupsPerMatch = r.groupsPerMatch := by rw [Recorder.groupsPerMatch, h.names]; rfl

theorem heeded (h : Entered haystack m iteration r n s) : s.heeded = r.heeded := by
  rw [Recorder.heeded, h.names, h.collectNamed]
  rfl

/-- The next group writes its own place and no other. -/
theorem succ (h : Entered haystack m iteration r n s)
    (hsize : iteration * r.groupsPerMatch + (n + 1) < r.groups.size) :
    Entered haystack m iteration r (n + 1) (enterGroup haystack m iteration s n) := by
  unfold enterGroup
  have hplace (k : Nat) : iteration * r.groupsPerMatch < k ∧
      k ≤ iteration * r.groupsPerMatch + (n + 1) ↔
      (iteration * r.groupsPerMatch < k ∧ k ≤ iteration * r.groupsPerMatch + n) ∨
        k = iteration * r.groupsPerMatch + (n + 1) := by omega
  split
  · rename_i hgroup
    refine ⟨h.names, h.collectNamed, h.size, fun k => ?_, ?_⟩
    · rw [h.entry]
      by_cases hk : k = iteration * r.groupsPerMatch + (n + 1)
      · rw [if_neg (by omega), if_pos (by omega), hk, Nat.add_sub_cancel_left, hgroup]
        rfl
      · simp [hplace, hk]
    · rw [h.named, namings_succ, hgroup]
      simp
  · rename_i span hgroup
    have hs : iteration * s.groupsPerMatch + (n + 1) < s.groups.size := by
      rw [h.groupsPerMatch, h.size]
      exact hsize
    refine ⟨?_, ?_, ?_, fun k => ?_, ?_⟩
    · exact h.names
    · exact h.collectNamed
    · rw [size_enter, h.size]
    · rw [entry_enter _ _ _ _ _ hs, h.groupsPerMatch, h.entry]
      by_cases hk : k = iteration * r.groupsPerMatch + (n + 1)
      · rw [if_pos hk, if_pos (by omega), hk, Nat.add_sub_cancel_left, hgroup]
        rfl
      · simp [hplace, hk]
    · rw [named_enter, h.named, h.heeded, namings_succ, hgroup, assign_append]
      rfl

theorem of_loop {n : Nat} (haystack : Text) (m : Match) (iteration : Nat)
    (hsize : iteration * r.groupsPerMatch + n < r.groups.size) :
    Entered haystack m iteration r n
      ((List.range n).foldl (enterGroup haystack m iteration) r) := by
  induction n with
  | zero => exact .zero haystack m iteration r
  | succ n ih =>
    rw [List.range_succ, List.foldl_append]
    exact (ih (by omega)).succ hsize

end Entered

section Record

/-- Recording enters all groups of a match in a row that is long enough for them. -/
theorem entered_record (r : Recorder) (haystack : Text) (m : Match) (iteration : Nat) :
    Entered haystack m iteration
      (r.reserve (iteration * r.groupsPerMatch + r.groupsPerMatch + 1)) r.groupsPerMatch
      (r.record haystack m iteration) := by
  rw [record_eq]
  refine .of_loop haystack m iteration ?_
  rw [size_reserve]
  exact Nat.lt_of_lt_of_le (Nat.lt_succ_self _) (Nat.le_max_right _ _)

theorem collectNamed_record : (r.record haystack m iteration).collectNamed = r.collectNamed :=
  (r.entered_record haystack m iteration).collectNamed

theorem groupsPerMatch_record :
    (r.record haystack m iteration).groupsPerMatch = r.groupsPerMatch :=
  (r.entered_record haystack m iteration).groupsPerMatch

theorem heeded_record : (r.record haystack m iteration).heeded = r.heeded :=
  (r.entered_record haystack m iteration).heeded

theorem size_record : (r.record haystack m iteration).groups.size =
    max r.groups.size (iteration * r.groupsPerMatch + r.groupsPerMatch + 1) := by
  rw [(r.entered_record haystack m iteration).size, size_reserve]

theorem named_record : (r.record haystack m iteration).named =
    assign r.named (namings r.heeded r.groupsPerMatch haystack m) :=
  (r.entered_record haystack m iteration).named

/-- The places of one match number do not reach into those of another. -/
theorem place_iff {g i i' j : Nat} (hj : 1 ≤ j) (hg : j ≤ g) :
    i * g < i' * g + j ∧ i' * g + j ≤ i * g + g ↔ i = i' := by
  constructor
  · rintro ⟨hlow, hhigh⟩
    rcases Nat.lt_trichotomy i i' with hlt | heq | hgt
    · have := Nat.mul_le_mul_right g (Nat.succ_le_of_lt hlt)
      rw [Nat.succ_mul] at this
      omega
    · exact heq
    · have := Nat.mul_le_mul_right g (Nat.succ_le_of_lt hgt)
      rw [Nat.succ_mul] at this
      omega
  · rintro rfl
    omega

/-- A record writes the groups that took part at the places of its match number. -/
theorem entry_record {i j : Nat} (hj : 1 ≤ j) (hg : j ≤ r.groupsPerMatch) :
    (r.record haystack m iteration).entry (i * r.groupsPerMatch + j) =
      if iteration = i then
        ((m.group? j).map (slice haystack)).getD (r.entry (i * r.groupsPerMatch + j))
      else r.entry (i * r.groupsPerMatch + j) := by
  have hentry := (r.entered_record haystack m iteration).entry (i * r.groupsPerMatch + j)
  have hgroups (size : Nat) : (r.reserve size).groupsPerMatch = r.groupsPerMatch := rfl
  rw [hentry, entry_reserve, hgroups]
  by_cases h : iteration = i
  · rw [if_pos ((place_iff hj hg).mpr h), if_pos h, h, Nat.add_sub_cancel_left]
  · rw [if_neg fun hplace => h ((place_iff hj hg).mp hplace), if_neg h]

theorem entry_zero_record : (r.record haystack m iteration).entry 0 = r.entry 0 := by
  rw [(r.entered_record haystack m iteration).entry, entry_reserve, if_neg]
  omega

end Record

/-- A call that records the groups of a match in a text as those of a match number. -/
structure Call where
  haystack : Text
  found : Match
  iteration : Nat

/-- The text of a group in the match that a call records, if the group took part. -/
def Call.text? (c : Call) (j : Nat) : Option Text := (c.found.group? j).map (slice c.haystack)

/-- Makes calls one after the other. -/
def recordEach (r : Recorder) (calls : List Call) : Recorder :=
  calls.foldl (fun r c => r.record c.haystack c.found c.iteration) r

section RecordEach

variable {calls : List Call}

theorem recordEach_cons (r : Recorder) (c : Call) : r.recordEach (c :: calls) =
    (r.record c.haystack c.found c.iteration).recordEach calls := rfl

/-- An entry is what the last record of its match number wrote, leaving aside those in which its
group took no part. -/
theorem entry_recordEach (r : Recorder) (calls : List Call) {i j : Nat} (hj : 1 ≤ j)
    (hg : j ≤ r.groupsPerMatch) :
    (r.recordEach calls).entry (i * r.groupsPerMatch + j) =
      (calls.filterMap fun c => if c.iteration = i then c.text? j else none).getLast?.getD
        (r.entry (i * r.groupsPerMatch + j)) := by
  induction calls generalizing r with
  | nil => rfl
  | cons c calls ih =>
    have hrest := ih (r.record c.haystack c.found c.iteration) (by rwa [groupsPerMatch_record])
    rw [groupsPerMatch_record, entry_record hj hg] at hrest
    rw [recordEach_cons, hrest, List.filterMap_cons, Call.text?]
    by_cases h : c.iteration = i
    · cases (c.found.group? j).map (slice c.haystack) <;> simp [h, List.getLast?_cons]
    · simp [h]

theorem entry_zero_recordEach (r : Recorder) (calls : List Call) :
    (r.recordEach calls).entry 0 = r.entry 0 := by
  induction calls generalizing r with
  | nil => rfl
  | cons c calls ih => rw [recordEach_cons, ih, entry_zero_record]

/-- The row grows to the end of the last match number that is recorded. -/
theorem size_recordEach (r : Recorder) (calls : List Call) :
    (r.recordEach calls).groups.size =
      calls.foldl (fun size c => max size (c.iteration * r.groupsPerMatch + r.groupsPerMatch + 1))
        r.groups.size := by
  induction calls generalizing r with
  | nil => rfl
  | cons c calls ih =>
    rw [recordEach_cons, ih, groupsPerMatch_record, size_record]
    rfl

end RecordEach

section RecordAll

variable {records : List (Match × Nat)}

theorem recordAll_cons (r : Recorder) (haystack : Text) (p : Match × Nat) :
    r.recordAll haystack (p :: records) = (r.record haystack p.1 p.2).recordAll haystack records :=
  rfl

/-- The calls that record matches of one text. -/
theorem recordAll_eq (r : Recorder) (haystack : Text) (records : List (Match × Nat)) :
    r.recordAll haystack records = r.recordEach (records.map fun p => ⟨haystack, p.1, p.2⟩) := by
  rw [recordEach, List.foldl_map]
  rfl

theorem collectNamed_recordAll (r : Recorder) (haystack : Text) (records : List (Match × Nat)) :
    (r.recordAll haystack records).collectNamed = r.collectNamed := by
  induction records generalizing r with
  | nil => rfl
  | cons p records ih => rw [recordAll_cons, ih, collectNamed_record]

theorem entry_recordAll (r : Recorder) (haystack : Text) (records : List (Match × Nat)) {i j : Nat}
    (hj : 1 ≤ j) (hg : j ≤ r.groupsPerMatch) :
    (r.recordAll haystack records).entry (i * r.groupsPerMatch + j) =
      (records.filterMap fun p =>
        if p.2 = i then (p.1.group? j).map (slice haystack) else none).getLast?.getD
        (r.entry (i * r.groupsPerMatch + j)) := by
  rw [recordAll_eq, entry_recordEach r _ hj hg, List.filterMap_map]
  rfl

theorem entry_zero_recordAll (r : Recorder) (haystack : Text) (records : List (Match × Nat)) :
    (r.recordAll haystack records).entry 0 = r.entry 0 := by
  rw [recordAll_eq, entry_zero_recordEach]

theorem size_recordAll (r : Recorder) (haystack : Text) (records : List (Match × Nat)) :
    (r.recordAll haystack records).groups.size =
      records.foldl (fun size p => max size (p.2 * r.groupsPerMatch + r.groupsPerMatch + 1))
        r.groups.size := by
  rw [recordAll_eq, size_recordEach, List.foldl_map]

theorem named_recordAll (r : Recorder) (haystack : Text) (records : List (Match × Nat)) :
    (r.recordAll haystack records).named =
      assign r.named
        (records.flatMap fun p => namings r.heeded r.groupsPerMatch haystack p.1) := by
  induction records generalizing r with
  | nil => rfl
  | cons p records ih =>
    rw [recordAll_cons, ih, named_record, heeded_record, groupsPerMatch_record,
      List.flatMap_cons, assign_append]

theorem isSome_namedTexts : r.namedTexts.isSome = r.collectNamed := by
  unfold namedTexts
  split <;> simp_all

end RecordAll

end Recorder
end RegexLiteral
