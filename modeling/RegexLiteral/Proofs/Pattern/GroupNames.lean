import RegexLiteral.Proofs.Pattern.Groups

/-!
# The names of groups

A reader keeps a list of the names it has read and refuses one that is in it. So each name in the
list belongs to one group, whether this is still open or closed, and a step keeps it so
(`Reader.NamesApart.step`). Main statement: no two groups of a regex have one name
(`Regex.eq_of_groupNames`).
-/
namespace RegexLiteral.Pattern

namespace Reader

variable {r s : Reader} {c d : Cursor} {x : Char}

/-- The names of the groups that have been read are listed, and each belongs to one group only. -/
structure NamesApart (r : Reader) : Prop where
  listed : ∀ {i n}, (i, some n) ∈ r.heads → n ∈ r.names.map Prod.fst
  apart : ∀ {i j n}, (i, some n) ∈ r.heads → (j, some n) ∈ r.heads → i = j

theorem namesApart_new : Reader.new.NamesApart where
  listed hp := by cases hp
  apart hi := by cases hi

/-- A parenthesis lists the name of the group that it opens, which was not listed before. -/
theorem names_openGroup (h : r.openGroup c = .ok (s, d)) :
    r.names.map Prod.fst ⊆ s.names.map Prod.fst ∧
      ∀ n span e, readGroupHead r.verbose c = .ok (.named n span, e) →
        n ∉ r.names.map Prod.fst ∧ n ∈ s.names.map Prod.fst := by
  unfold openGroup at h
  obtain ⟨⟨head, e⟩, hhead, h⟩ := bind_eq_ok.mp h
  rw [hhead]
  cases head with
  | directive span items =>
    cases h
    exact ⟨fun _ hn => hn, nofun⟩
  | plain items =>
    cases h
    exact ⟨fun _ hn => hn, nofun⟩
  | named name span =>
    dsimp only at h
    split at h
    · cases h
    · rename_i hfind
      cases h
      refine ⟨List.subset_cons_self _ _, ?_⟩
      rintro n span' e' heq
      cases heq
      refine ⟨fun hmem => ?_, List.mem_cons_self ..⟩
      obtain ⟨p, hp, rfl⟩ := List.mem_map.mp hmem
      have hother := List.find?_eq_none.mp hfind p hp
      simp at hother
  | unnamed =>
    cases h
    exact ⟨fun _ hn => hn, nofun⟩

theorem names_closeGroup (h : r.closeGroup c = .ok (s, d)) : s.names = r.names := by
  unfold closeGroup at h
  split at h
  · cases h
  · cases h
    rfl

theorem names_step (h : r.step x c = .ok (s, d)) :
    r.names.map Prod.fst ⊆ s.names.map Prod.fst := by
  rcases step_cases h with ⟨-, hopen⟩ | ⟨-, hclose⟩ | hlevel
  · exact (names_openGroup hopen).1
  · rw [names_closeGroup hclose]
    exact fun _ hn => hn
  · rw [hlevel]
    exact fun _ hn => hn

/-- A named group that a step adds has a name that was not listed before and is now. -/
theorem names_of_new {i : Nat} {n : Text} (h : r.step x c = .ok (s, d))
    (hp : (i, some n) ∈ s.heads) :
    (i, some n) ∈ r.heads ∨
      i = r.captures + 1 ∧ n ∉ r.names.map Prod.fst ∧ n ∈ s.names.map Prod.fst := by
  rcases mem_heads_step h hp with hold | ⟨rfl, head, name, hhead, hname, heq, -⟩
  · exact .inl hold
  · cases heq
    have hopen : r.openGroup c = .ok (s, d) := by simpa [Reader.step] using h
    cases head with
    | named n' span =>
      cases hname
      exact .inr ⟨rfl, (names_openGroup hopen).2 n span d hhead⟩
    | _ => cases hname

theorem NamesApart.step (hr : r.NamesApart) (h : r.step x c = .ok (s, d)) : s.NamesApart where
  listed hp := by
    rcases names_of_new h hp with hold | ⟨-, -, hnew⟩
    · exact names_step h (hr.listed hold)
    · exact hnew
  apart hi hj := by
    rcases names_of_new h hi with hi | ⟨hi, hfresh, -⟩
    · rcases names_of_new h hj with hj | ⟨-, hfresh, -⟩
      · exact hr.apart hi hj
      · exact absurd (hr.listed hi) hfresh
    · rcases names_of_new h hj with hj | ⟨hj, -, -⟩
      · exact absurd (hr.listed hj) hfresh
      · exact hi.trans hj.symm

/-- No two groups of what is read have one name, if those read before have none. -/
theorem NamesApart.readItems {a : Ast} (hr : r.NamesApart) (h : r.readItems c = .ok a)
    {i j : Nat} {n : Text} (hi : (i, some n) ∈ a.captures) (hj : (j, some n) ∈ a.captures) :
    i = j := by
  fun_induction Reader.readItems r c with
  | case1 r c _ hrest =>
    obtain ⟨-, rfl⟩ := finish_ok h
    exact hr.apart (List.mem_append_left _ (Level.mem_captures_close.mp hi))
      (List.mem_append_left _ (Level.mem_captures_close.mp hj))
  | case2 => cases h
  | case3 r c _ x rest hrest s d hstep _ _ ih => exact ih (hr.step hstep) h

end Reader

theorem eq_of_parse_captures {t : Text} {a : Ast} (h : parse t = .ok a) {i j : Nat} {n : Text}
    (hi : (i, some n) ∈ a.captures) (hj : (j, some n) ∈ a.captures) : i = j := by
  unfold parse at h
  obtain ⟨a', hread, h⟩ := bind_eq_ok.mp h
  split at h
  · cases h
  · cases h
    exact Reader.namesApart_new.readItems hread hi hj

theorem Expr.mem_captures_of_groupNames {e : Expr} {i : Nat} {n : Text}
    (h : e.groupNames[i]? = some (some n)) : (i, some n) ∈ e.captures := by
  unfold groupNames at h
  rw [List.getElem?_map] at h
  obtain ⟨k, hk, hlookup⟩ := Option.map_eq_some_iff.mp h
  obtain ⟨_, rfl⟩ := List.getElem?_eq_some_iff.mp hk
  rw [List.getElem_range] at hlookup
  cases hl : e.captures.lookup i with
  | none => simp [hl] at hlookup
  | some name =>
    rw [hl] at hlookup
    cases hlookup
    obtain ⟨l₁, l₂, hfound, -⟩ := List.lookup_eq_some_iff.mp hl
    simp [hfound]

/-- No two groups of a regex have one name. -/
theorem Regex.eq_of_groupNames {t : Text} {r : Regex} (h : compile t = .ok r) {i j : Nat}
    {n : Text} (hi : r.groupNames[i]? = some (some n)) (hj : r.groupNames[j]? = some (some n)) :
    i = j := by
  obtain ⟨a, e, s, ha, he, hnames⟩ := compile_ok h
  rw [hnames] at hi hj
  exact eq_of_parse_captures ha
    (a.mem_of_captures_meaning he (Expr.mem_captures_of_groupNames hi))
    (a.mem_of_captures_meaning he (Expr.mem_captures_of_groupNames hj))

end RegexLiteral.Pattern
