import Mathlib
import RegexLiteral.Proofs.CaptureFields
import RegexLiteral.Proofs.Pattern.GroupNames
import RegexLiteral.Proofs.Recording
import RegexLiteral.Proofs.Substituting

/-!
# Rows of groups and lists of names

When the matches of a call are recorded in order, the row is an empty entry and the groups of one
match after the other (`Recorder.row_recordAll`), and the names are given the texts of the same
entries, those that are empty left out (`Recorder.namesInOrder_row`). So both fields of an outcome
can be read off the matches, and the names can be read off the row as well: a name has the last text
in the column of its group, and the names stand in the order of their first texts in the row
(`captures_laid_out`).
-/
namespace RegexLiteral

open Pattern

/-- The text of a group in a match. It is empty if the group took no part. -/
def groupText (haystack : Text) (m : Match) (j : Nat) : Text :=
  ((m.group? j).map (slice haystack)).getD []

/-- The texts of the groups of a match besides the whole. -/
def groupTexts (groups : Nat) (haystack : Text) (m : Match) : List Text :=
  (List.range groups).map fun j => groupText haystack m (j + 1)

/-- The entries of a group in a row, one for each match. -/
def column (row : List Text) (groups count j : Nat) : List Text :=
  (List.range count).filterMap fun i => row[i * groups + j]?

/-- The names of the entries of a row that are not empty, in the order of the row. -/
def namesInOrder (names : List (Option Text)) (row : List Text) : List Text :=
  row.tail.zipIdx.filterMap fun p =>
    if p.1.isEmpty then none else names[p.2 % (names.length - 1) + 1]?.join

section Lists

variable {α β : Type}

/-- Where all blocks are of one length, a place in a row of blocks is told by its block and its
place in the block. -/
theorem getElem?_flatMap_of_length {f : α → List β} {g : Nat} (hf : ∀ a, (f a).length = g)
    (as : List α) (i : Nat) {j : Nat} (hj : j < g) :
    (as.flatMap f)[i * g + j]? = as[i]?.bind fun a => (f a)[j]? := by
  induction as generalizing i with
  | nil => rfl
  | cons a as ih =>
    rw [List.flatMap_cons]
    cases i with
    | zero =>
      rw [Nat.zero_mul, Nat.zero_add, List.getElem?_append_left (by rw [hf]; exact hj)]
      rfl
    | succ i =>
      have hplace : (i + 1) * g + j - g = i * g + j := by rw [Nat.succ_mul]; omega
      have hle : g ≤ (i + 1) * g + j := by rw [Nat.succ_mul]; omega
      rw [List.getElem?_append_right (by rw [hf]; exact hle), hf, hplace, ih,
        List.getElem?_cons_succ]

/-- Of numbered members those with one number are one member at most. -/
theorem filterMap_zipIdx (f : α → Option β) (as : List α) (i : Nat) :
    (as.zipIdx.filterMap fun p => if p.2 = i then f p.1 else none) = (as[i]?.bind f).toList := by
  induction as using List.reverseRecOn with
  | nil => rfl
  | append_singleton as a ih =>
    rw [List.zipIdx_append, List.filterMap_append, ih, List.getElem?_append]
    by_cases hlt : i < as.length
    · simp [hlt, Nat.ne_of_gt hlt]
    · by_cases heq : i = as.length
      · subst heq
        cases h : f a <;> simp [h]
      · have hnone : [a][i - as.length]? = none := by
          rw [List.getElem?_eq_none]
          simp
          omega
        simp [hlt, hnone, Ne.symm heq]

theorem filterMap_range_of_single {f : Nat → Option β} {g j : Nat} (hj : j < g)
    (hf : ∀ k, k ≠ j → f k = none) : (List.range g).filterMap f = (f j).toList := by
  induction g with
  | zero => omega
  | succ g ih =>
    rw [List.range_succ, List.filterMap_append]
    rcases Nat.lt_succ_iff_lt_or_eq.mp hj with hlt | rfl
    · rw [ih hlt]
      simp [hf g (Nat.ne_of_gt hlt)]
    · have hnil : (List.range j).filterMap f = [] := by
        rw [List.filterMap_eq_nil_iff]
        intro k hk
        exact hf k (Nat.ne_of_lt (List.mem_range.mp hk))
      rw [hnil]
      cases h : f j <;> simp [h]

theorem filterMap_range_getElem? (f : α → β) (as : List α) :
    (List.range as.length).filterMap (fun i => as[i]?.map f) = as.map f := by
  induction as with
  | nil => rfl
  | cons a as ih =>
    rw [List.length_cons, List.range_succ_eq_map, List.filterMap_cons, List.filterMap_map]
    exact congrArg (f a :: ·) ih

theorem zipIdx_map_range (f : Nat → α) (g start : Nat) :
    ((List.range g).map f).zipIdx start = (List.range g).map fun j => (f j, start + j) := by
  refine List.ext_getElem? fun k => ?_
  rw [List.getElem?_zipIdx, List.getElem?_map, List.getElem?_map]
  cases h : (List.range g)[k]? with
  | none => rfl
  | some j =>
    obtain ⟨hk, rfl⟩ := List.getElem?_eq_some_iff.mp h
    simp

end Lists

section Texts

variable {names : List (Option Text)} {haystack : Text} {m : Match}

theorem length_groupTexts (groups : Nat) (haystack : Text) (m : Match) :
    (groupTexts groups haystack m).length = groups := by simp [groupTexts]

theorem getElem?_groupTexts {groups j : Nat} (hj : j < groups) (haystack : Text) (m : Match) :
    (groupTexts groups haystack m)[j]? = some (groupText haystack m (j + 1)) := by
  simp [groupTexts, hj]

/-- What a match gives to names is told by the texts of its groups. -/
theorem Recorder.namings_eq (names : List (Option Text)) (groups : Nat) (haystack : Text)
    (m : Match) : namings names groups haystack m =
      (List.range groups).filterMap fun j =>
        naming? names (j + 1) (groupText haystack m (j + 1)) := by
  unfold namings
  refine congrArg (List.filterMap · _) (funext fun j => ?_)
  unfold groupText
  cases (m.group? (j + 1)).map (slice haystack) <;> rfl

end Texts

namespace Recorder

variable {haystack : Text} {ms : List Match}

/-- Records that stay in a row do not make it longer. -/
theorem size_recordAll_of_le {r : Recorder} {records : List (Match × Nat)}
    (h : ∀ p ∈ records, p.2 * r.groupsPerMatch + r.groupsPerMatch + 1 ≤ r.groups.size) :
    (r.recordAll haystack records).groups.size = r.groups.size := by
  rw [size_recordAll]
  generalize r.groups.size = size at h
  induction records with
  | nil => rfl
  | cons p records ih =>
    rw [List.foldl_cons, Nat.max_eq_left (h p (List.mem_cons_self ..))]
    exact ih fun q hq => h q (List.mem_cons_of_mem _ hq)

section InOrder

variable (names : List (Option Text)) (collectNamed : Bool) (haystack : Text) (ms : List Match)

/-- The recorder after matches have been recorded in order. -/
def inOrder : Recorder := (new names collectNamed ms.length).recordAll haystack ms.zipIdx

theorem size_inOrder : (inOrder names collectNamed haystack ms).groups.size =
    ms.length * (names.length - 1) + 1 := by
  rw [inOrder, size_recordAll_of_le, size_new]
  intro p hp
  obtain ⟨k, hk, rfl⟩ := List.mem_iff_getElem.mp hp
  rw [List.length_zipIdx] at hk
  have hle := Nat.mul_le_mul_right (names.length - 1) (Nat.succ_le_of_lt hk)
  rw [Nat.succ_mul] at hle
  rw [List.getElem_zipIdx, Nat.zero_add, size_new]
  exact Nat.succ_le_succ hle

theorem entry_inOrder {i j : Nat} (hi : i < ms.length) (hj : j < names.length - 1) :
    (inOrder names collectNamed haystack ms).entry (i * (names.length - 1) + (j + 1)) =
      groupText haystack ms[i] (j + 1) := by
  have hplace := (new names collectNamed ms.length).entry_recordAll haystack ms.zipIdx
    (i := i) (Nat.le_add_left 1 j) hj
  rw [filterMap_zipIdx (fun m => (m.group? (j + 1)).map (slice haystack)) ms i, entry_new,
    List.getElem?_eq_getElem hi, Option.bind_some] at hplace
  refine hplace.trans ?_
  unfold groupText
  cases (ms[i].group? (j + 1)).map (slice haystack) <;> rfl

theorem getElem?_inOrder {k : Nat} (hk : k < ms.length * (names.length - 1) + 1) :
    (inOrder names collectNamed haystack ms).groups.toList[k]? =
      some ((inOrder names collectNamed haystack ms).entry k) := by
  rw [Array.getElem?_toList, getElem?_eq_entry (size_inOrder .. ▸ hk)]

/-- Recording matches in order makes a row of their groups behind an empty entry. -/
theorem row_inOrder : (inOrder names collectNamed haystack ms).groups.toList =
    [] :: ms.flatMap (groupTexts (names.length - 1) haystack) := by
  have hlength := size_inOrder names collectNamed haystack ms
  have hplace (k : Nat) := @getElem?_inOrder names collectNamed haystack ms k
  have hentry (i j : Nat) := @entry_inOrder names collectNamed haystack ms i j
  generalize names.length - 1 = g at *
  refine List.ext_getElem? fun k => ?_
  rcases Nat.lt_or_ge k (ms.length * g + 1) with hk | hk
  · rw [hplace k hk]
    cases k with
    | zero =>
      rw [inOrder, entry_zero_recordAll, entry_new]
      rfl
    | succ k =>
      have hpos : 0 < g := by
        rcases Nat.eq_zero_or_pos g with rfl | hpos
        · omega
        · exact hpos
      -- The place is that of a group of a match.
      obtain ⟨i, j, hj, rfl⟩ : ∃ i j, j < g ∧ k = i * g + j :=
        ⟨k / g, k % g, Nat.mod_lt k hpos, (Nat.div_add_mod' k g).symm⟩
      have hi : i < ms.length := by
        by_contra hge
        have := Nat.mul_le_mul_right g (Nat.le_of_not_lt hge)
        omega
      rw [Nat.add_assoc, hentry i j hi hj, ← Nat.add_assoc, List.getElem?_cons_succ,
        getElem?_flatMap_of_length (length_groupTexts g haystack) ms i hj,
        List.getElem?_eq_getElem hi, Option.bind_some, getElem?_groupTexts hj]
  · rw [List.getElem?_eq_none (by simpa [hlength] using hk), List.getElem?_eq_none]
    simpa [List.length_flatMap, length_groupTexts] using hk

theorem named_inOrder : (inOrder names true haystack ms).named =
    assign [] (ms.flatMap (namings names (names.length - 1) haystack)) := by
  rw [inOrder, named_recordAll]
  have hfst := List.flatMap_map Prod.fst (namings names (names.length - 1) haystack)
    (l := ms.zipIdx)
  rw [List.zipIdx_map_fst] at hfst
  rw [hfst]
  rfl

/-- The names that are given texts are those of the entries of the row that are not empty. -/
theorem namesInOrder_row :
    namesInOrder names ([] :: ms.flatMap (groupTexts (names.length - 1) haystack)) =
      (ms.flatMap (namings names (names.length - 1) haystack)).map Prod.fst := by
  unfold namesInOrder
  rw [List.tail_cons]
  generalize hg : names.length - 1 = g
  induction ms using List.reverseRecOn with
  | nil => rfl
  | append_singleton ms m ih =>
    have hlength : (ms.flatMap (groupTexts g haystack)).length = ms.length * g := by
      simp [List.length_flatMap, length_groupTexts]
    have hlast : ((groupTexts g haystack m).zipIdx (ms.length * g)).filterMap (fun p =>
        if p.1.isEmpty then none else names[p.2 % g + 1]?.join) =
        (namings names g haystack m).map Prod.fst := by
      rw [namings_eq, groupTexts, zipIdx_map_range, List.filterMap_map, List.map_filterMap]
      refine List.filterMap_congr fun j hj => ?_
      have hmod : (ms.length * g + j) % g = j := by
        rw [Nat.mul_comm, Nat.mul_add_mod, Nat.mod_eq_of_lt (List.mem_range.mp hj)]
      simp only [Function.comp_apply, hmod, naming?]
      split
      · rfl
      · cases names[j + 1]?.join <;> rfl
    rw [List.flatMap_append, List.flatMap_append, List.zipIdx_append, List.filterMap_append, ih,
      List.map_append, Nat.zero_add, hlength, List.flatMap_singleton, List.flatMap_singleton, hlast]

end InOrder

section Column

variable {names : List (Option Text)} {name : Text} {j : Nat}

/-- If only one group has a name, a match gives the name the text of this group. -/
theorem filter_namings (hj : 1 ≤ j) (hlength : j ≤ names.length - 1)
    (hname : names[j]? = some (some name)) (honly : ∀ i, names[i]? = some (some name) → i = j)
    (haystack : Text) (m : Match) :
    (namings names (names.length - 1) haystack m).filter (fun p => p.1 = name) =
      if (groupText haystack m j).isEmpty then [] else [(name, groupText haystack m j)] := by
  obtain ⟨k, rfl⟩ := Nat.exists_eq_add_of_le' hj
  rw [namings_eq, List.filter_filterMap, filterMap_range_of_single (Nat.lt_of_succ_le hlength)]
  · unfold naming?
    split <;> simp_all
  · intro i hi
    unfold naming?
    split
    · rfl
    · cases hother : names[i + 1]?.join with
      | none => rfl
      | some other =>
        have hne : other ≠ name := by
          rintro rfl
          exact hi (Nat.succ.inj (honly (i + 1) (Option.join_eq_some_iff.mp hother)))
        simp [hne]

/-- A name has the last text of its group that is not empty. -/
theorem lookup_inOrder (hj : 1 ≤ j) (hlength : j ≤ names.length - 1)
    (hname : names[j]? = some (some name)) (honly : ∀ i, names[i]? = some (some name) → i = j)
    (haystack : Text) (ms : List Match) :
    (inOrder names true haystack ms).named.lookup name =
      ((ms.map fun m => groupText haystack m j).filter fun t => !t.isEmpty).getLast? := by
  have hgiven : (ms.flatMap (namings names (names.length - 1) haystack)).filter
      (fun p => p.1 = name) =
      ((ms.map fun m => groupText haystack m j).filter fun t => !t.isEmpty).map (name, ·) := by
    rw [List.filter_flatMap]
    induction ms with
    | nil => rfl
    | cons m ms ih =>
      rw [List.flatMap_cons, ih, filter_namings hj hlength hname honly, List.map_cons,
        List.filter_cons]
      cases (groupText haystack m j).isEmpty <;> rfl
  rw [named_inOrder, lookup_assign, hgiven, List.getLast?_map, Option.map_map]
  exact Option.map_id'

theorem column_row (hj : 1 ≤ j) {groups : Nat} (hgroups : j ≤ groups) (haystack : Text)
    (ms : List Match) :
    column ([] :: ms.flatMap (groupTexts groups haystack)) groups ms.length j =
      ms.map fun m => groupText haystack m j := by
  obtain ⟨k, rfl⟩ := Nat.exists_eq_add_of_le' hj
  have hentry (i : Nat) : ([] :: ms.flatMap (groupTexts groups haystack))[i * groups + (k + 1)]? =
      (ms[i]?).map fun m => groupText haystack m (k + 1) := by
    rw [← Nat.add_assoc, List.getElem?_cons_succ,
      getElem?_flatMap_of_length (length_groupTexts groups haystack) ms i
        (Nat.lt_of_succ_le hgroups)]
    cases ms[i]? with
    | none => rfl
    | some m => exact getElem?_groupTexts (Nat.lt_of_succ_le hgroups) haystack m
  unfold column
  simp only [hentry]
  exact filterMap_range_getElem? (fun m => groupText haystack m (k + 1)) ms

end Column

end Recorder

namespace CompiledLiteral

variable {c : CompiledLiteral} {haystack : Text} {ms : List Match}

theorem captureFields_eq (c : CompiledLiteral) (haystack : Text) (ms : List Match) :
    c.captureFields haystack ms =
      if c.reportsCaptures then
        (some ([] :: ms.flatMap (groupTexts c.regex.groupCount haystack)),
          if c.reportsNames then some (Recorder.inOrder c.regex.groupNames true haystack ms).named
          else none)
      else (none, none) := by
  have hcollect : (Recorder.inOrder c.regex.groupNames c.reportsNames haystack ms).collectNamed =
      c.reportsNames := Recorder.collectNamed_recordAll _ _ _
  unfold captureFields
  split
  · refine Prod.ext (congrArg some (Recorder.row_inOrder c.regex.groupNames _ haystack ms)) ?_
    show (Recorder.inOrder c.regex.groupNames c.reportsNames haystack ms).namedTexts = _
    rw [Recorder.namedTexts, hcollect]
    cases c.reportsNames <;> rfl
  · rfl

/-- The groups that are reported of matches. -/
theorem groups_report (c : CompiledLiteral) (haystack : Text) (ms : List Match) :
    (c.report haystack ms).groups =
      if ms.isEmpty || !c.reportsCaptures then none
      else some ([] :: ms.flatMap (groupTexts c.regex.groupCount haystack)) := by
  cases ms with
  | nil => rfl
  | cons m ms =>
    simp only [report, captureFields_eq, List.isEmpty_cons, Bool.false_or]
    cases c.reportsCaptures <;> rfl

/-- The names that are reported of matches, where groups are. -/
theorem named_report (c : CompiledLiteral) (haystack : Text) (ms : List Match) :
    (c.report haystack ms).named =
      if (ms.isEmpty || !c.reportsCaptures) || !c.reportsNames then none
      else some (Recorder.inOrder c.regex.groupNames true haystack ms).named := by
  cases ms with
  | nil => rfl
  | cons m ms =>
    simp only [report, captureFields_eq, List.isEmpty_cons, Bool.false_or]
    cases c.reportsCaptures <;> cases c.reportsNames <;> rfl

/-- Matching and substituting report the matches that the literal takes. -/
theorem report_taken {o : Outcome} (ho : o = c.runMatch haystack ∨ o = c.runSubstitute haystack) :
    o.matchCount = (c.taken haystack).length ∧
      o.groups = (c.report haystack (c.taken haystack)).groups ∧
      o.named = (c.report haystack (c.taken haystack)).named := by
  have hcount := c.matchCount_report haystack (c.taken haystack)
  rcases ho with rfl | rfl
  · rw [runMatch_eq_report]
    exact ⟨hcount, rfl, rfl⟩
  · rw [runSubstitute_eq_report]
    exact ⟨hcount, rfl, rfl⟩

/-- No two groups of a compiled literal have one name. -/
theorem eq_of_groupNames {source : Text} {policy : Policy}
    (h : compileLiteral source policy = .ok c) {i j : Nat} {name : Text}
    (hi : c.regex.groupNames[i]? = some (some name))
    (hj : c.regex.groupNames[j]? = some (some name)) : i = j := by
  obtain ⟨d, body, -, -, -, -, hregex⟩ := compileLiteral_ok h
  exact Regex.eq_of_groupNames hregex hi hj

end CompiledLiteral

open CompiledLiteral

/-- What stands in the capture fields of an outcome. The row has one entry for each group of each
match behind an empty one, and the entry of a group is its text in that match, or empty if it took
no part. The names can be told from the row: a name has the last entry of its group that is not
empty, and is missing if there is none; there are no names but those of groups, and they stand in
the order of their first entries that are not empty. -/
theorem captures_laid_out {source : Text} {policy : Policy} {c : CompiledLiteral}
    (h : compileLiteral source policy = .ok c) (haystack : Text) {o : Outcome}
    (ho : o = c.runMatch haystack ∨ o = c.runSubstitute haystack) {row : List Text}
    (hrow : o.groups = some row) :
    let g := c.regex.groupCount
    let n := o.matchCount
    let ms :=
      if c.flags.global then c.regex.findAll haystack else (c.regex.findFirst haystack).toList
    n = ms.length ∧ row.length = n * g + 1 ∧ row[0]? = some [] ∧
    (∀ i m j, ms[i]? = some m → 1 ≤ j → j ≤ g →
      row[i * g + j]? = some (((m.group? j).map (slice haystack)).getD [])) ∧
    ∀ named, o.named = some named →
      (∀ j name, 1 ≤ j → j ≤ g → c.regex.groupNames[j]? = some (some name) →
        named.lookup name = ((column row g n j).filter fun t => !t.isEmpty).getLast?) ∧
      named.map Prod.fst = (namesInOrder c.regex.groupNames row).eraseDups := by
  intro g n ms
  obtain ⟨hcount, hgroups, hnames⟩ := report_taken ho
  have hms : c.taken haystack = ms := rfl
  rw [hms] at hcount hgroups hnames
  rw [hrow, groups_report] at hgroups
  split at hgroups
  · cases hgroups
  · cases hgroups
    refine ⟨hcount, ?_, rfl, fun i m j hi hj hg => ?_, fun named hnamed => ?_⟩
    · simp [n, hcount, List.length_flatMap, length_groupTexts, g]
    · obtain ⟨k, rfl⟩ := Nat.exists_eq_add_of_le' hj
      rw [← Nat.add_assoc, List.getElem?_cons_succ,
        getElem?_flatMap_of_length (length_groupTexts g haystack) ms i (Nat.lt_of_succ_le hg), hi,
        Option.bind_some, getElem?_groupTexts (Nat.lt_of_succ_le hg)]
      rfl
    · rw [hnamed, named_report] at hnames
      split at hnames
      · cases hnames
      · cases hnames
        refine ⟨fun j name hj hg hname => ?_, ?_⟩
        · rw [Recorder.lookup_inOrder hj hg hname fun i hi => eq_of_groupNames h hi hname]
          have hn : n = ms.length := hcount
          rw [hn, Recorder.column_row hj hg]
        · rw [Recorder.named_inOrder, Recorder.keys_assign]
          exact congrArg _ (Recorder.namesInOrder_row c.regex.groupNames haystack ms).symm

/-- In each match one of the two groups takes no part. The second name comes first, and it has the
text of the last match. -/
theorem captures_laid_out_branches :
    ∃ c row named, compileLiteral "m/(?<x>a)|(?<y>.)/g".toList .strict = .ok c ∧
      (c.runMatch "bac".toList).matchCount = 3 ∧
      (c.runMatch "bac".toList).groups = some row ∧
      (c.runMatch "bac".toList).named = some named ∧
      row = ["", "", "b", "a", "", "", "c"].map String.toList ∧
      named = [("y".toList, "c".toList), ("x".toList, "a".toList)] ∧
      row.length = (c.runMatch "bac".toList).matchCount * c.regex.groupCount + 1 ∧
      named.lookup "y".toList =
        ((column row c.regex.groupCount 3 2).filter fun t => !t.isEmpty).getLast? ∧
      named.map Prod.fst = (namesInOrder c.regex.groupNames row).eraseDups := by
  have houtcome : (compileLiteral "m/(?<x>a)|(?<y>.)/g".toList .strict).toOption.any fun c =>
      c.regex.groupNames = [none, some "x".toList, some "y".toList] &&
      c.runMatch "bac".toList =
        { matchCount := 3
          groups := some (["", "", "b", "a", "", "", "c"].map String.toList)
          named := some [("y".toList, "c".toList), ("x".toList, "a".toList)] } := by
    simp only [runMatch_eq_report, taken, Regex.findAll_eq_upTo]
    cbv
  obtain ⟨c, h, hc⟩ := exists_of_any_compileLiteral houtcome
  simp only [Bool.and_eq_true, decide_eq_true_eq] at hc
  obtain ⟨hgroups, hmatch⟩ := hc
  have hcount : c.regex.groupCount = 2 := congrArg (·.length - 1) hgroups
  have hrow := congrArg Outcome.groups hmatch
  have hnamed := congrArg Outcome.named hmatch
  have hthree := congrArg Outcome.matchCount hmatch
  obtain ⟨-, hlength, -, -, hnames⟩ := captures_laid_out h "bac".toList (.inl rfl) hrow
  obtain ⟨hlast, horder⟩ := hnames _ hnamed
  have hy := hlast 2 "y".toList (by decide) (le_of_eq hcount.symm) (by rw [hgroups]; rfl)
  rw [hthree] at hy
  exact ⟨c, _, _, h, hthree, hrow, hnamed, rfl, rfl, hlength, hy, horder⟩

end RegexLiteral
