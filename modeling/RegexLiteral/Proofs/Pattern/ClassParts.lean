import RegexLiteral.Pattern.Bracket

/-!
# The parts of a bracketed class

A class that has been read is a tree of members, inner classes and operators. Its leaves are the
characters, the ends of ranges, the properties and the classes with a letter that it is made of, and
reading goes on without dropping one of them (`mem_leaves_of_readClassBody`). So the leaves tell how
the class is written: which of its brackets stand for themselves without a backslash
(`Primitive.holdsBracket`), and whether one of them is the closing bracket that may come first
(`leadingBracket`).
-/
namespace RegexLiteral.Pattern

/-- Whether a character opens or closes a class or escapes what follows. -/
def isClassSign (c : Char) : Bool := c = '[' || c = ']' || c = '\\'

/-- Whether the name of a property has a bracket or a backslash in it. -/
def PropertyQuery.holdsSign : PropertyQuery → Bool
  | letter c => isClassSign c
  | name n => n.any isClassSign
  | value n x _ => n.any isClassSign || x.any isClassSign

/-- Whether a part of a class has a bracket that stands for itself without a backslash: the part is
this bracket, or it names a property with a bracket or a backslash in the name. -/
def Primitive.holdsBracket : Primitive → Bool
  | literal l => (l.char = '[' || l.char = ']') && l.span.stop = l.span.start + 1
  | property p => p.query.holdsSign
  | _ => false

/-- The closing bracket that comes first in a class that opens at character `pos` of a pattern. -/
def leadingBracket (pos : Nat) (negated : Bool) : Primitive :=
  let first := pos + 1 + negated.toNat
  .literal ⟨⟨first, first + 1⟩, ']', false⟩

mutual

/-- The parts that a class is made of in the end: characters, ends of ranges, properties and the
classes with a letter. -/
def ClassTree.leaves : ClassTree → List Primitive
  | .literal l => [.literal l]
  | .range _ low high => [.literal low, .literal high]
  | .property p => [.property p]
  | .shorthand s k n => [.shorthand s k n]
  | .bracketed _ _ body => body.leaves
  | .union _ items => ClassTree.leavesAll items
  | .binary _ _ left right => left.leaves ++ right.leaves
  | _ => []

def ClassTree.leavesAll : List ClassTree → List Primitive
  | [] => []
  | t :: ts => t.leaves ++ ClassTree.leavesAll ts

end

theorem ClassTree.mem_leavesAll {p : Primitive} {ts : List ClassTree} :
    p ∈ leavesAll ts ↔ ∃ t ∈ ts, p ∈ t.leaves := by
  induction ts with
  | nil => simp [leavesAll]
  | cons t ts ih => simp [leavesAll, ih]

theorem Members.mem_leaves {p : Primitive} {m : Members} :
    p ∈ m.tree.leaves ↔ ∃ t ∈ m.items, p ∈ t.leaves := by
  unfold tree
  split
  · rename_i h
    simp [h, ClassTree.leaves]
  · rename_i t h
    simp [h]
  · rw [ClassTree.leaves, ClassTree.mem_leavesAll]
    simp

theorem Members.mem_leaves_add {p : Primitive} {m : Members} {t : ClassTree}
    (h : p ∈ m.tree.leaves ∨ p ∈ t.leaves) : p ∈ (m.add t).tree.leaves := by
  rw [mem_leaves]
  rcases h with h | h
  · obtain ⟨u, hu, hp⟩ := mem_leaves.mp h
    exact ⟨u, List.mem_cons_of_mem _ hu, hp⟩
  · exact ⟨t, List.mem_cons_self, h⟩

namespace OpenClass

theorem mem_leaves_of_members {p : Primitive} {o : OpenClass} (h : p ∈ o.members.tree.leaves) :
    p ∈ o.tree.leaves := by
  unfold tree
  split
  · exact h
  · exact List.mem_append_right _ h

theorem mem_leaves_add {p : Primitive} {o : OpenClass} {t : ClassTree}
    (h : p ∈ o.tree.leaves ∨ p ∈ t.leaves) : p ∈ (o.add t).tree.leaves := by
  rcases h with h | h
  · unfold tree at h ⊢
    dsimp only [add]
    split at h
    · exact Members.mem_leaves_add (.inl h)
    · rcases List.mem_append.mp h with h | h
      · exact List.mem_append_left _ h
      · exact List.mem_append_right _ (Members.mem_leaves_add (.inl h))
  · exact mem_leaves_of_members (Members.mem_leaves_add (.inr h))

theorem mem_leaves_operator {p : Primitive} {o : OpenClass} (op : ClassOp) (c : Cursor)
    (h : p ∈ o.tree.leaves) : p ∈ (o.operator op c).tree.leaves := List.mem_append_left _ h

end OpenClass

/-- Reading the rest of a class drops no part of it nor of the classes around it. -/
theorem mem_leaves_of_readClassBody {v : Bool} {outer : List OpenClass} {o : OpenClass}
    {c d : Cursor} {span : Span} {negated : Bool} {tree : ClassTree}
    (h : readClassBody v outer o c = .ok ((span, negated, tree), d)) {p : Primitive}
    (hp : p ∈ o.tree.leaves ∨ ∃ q ∈ outer, p ∈ q.tree.leaves) : p ∈ tree.leaves := by
  fun_induction readClassBody v outer o c with
  | case1 | case3 | case8 => cases h
  | case2 | case9 =>
    rename_i ih
    exact ih h (hp.imp_left fun hp => OpenClass.mem_leaves_add (.inl hp))
  | case4 =>
    rename_i ih
    refine ih h (.inr ?_)
    rcases hp with hp | ⟨q, hq, hp⟩
    · exact ⟨_, List.mem_cons_self, hp⟩
    · exact ⟨q, List.mem_cons_of_mem _ hq, hp⟩
  | case5 =>
    simp only [OpenClass.close, Except.ok.injEq, Prod.mk.injEq] at h
    rcases hp with hp | ⟨q, hq, -⟩
    · exact h.1.2.2 ▸ hp
    · cases hq
  | case6 =>
    rename_i hclose _ _ _ ih
    refine ih h ?_
    cases hclose
    rcases hp with hp | ⟨q, hq, hp⟩
    · exact .inl (OpenClass.mem_leaves_add (.inr hp))
    · rcases List.mem_cons.mp hq with rfl | hq
      · exact .inl (OpenClass.mem_leaves_add (.inl hp))
      · exact .inr ⟨q, hq, hp⟩
  | case7 =>
    rename_i ih
    exact ih h (hp.imp_left (OpenClass.mem_leaves_operator _ _))

/-- The negation of a class is told by what opens it. -/
theorem negated_of_readClassBody {v : Bool} {outer : List OpenClass} {o : OpenClass}
    {c d : Cursor} {span : Span} {negated : Bool} {tree : ClassTree}
    (h : readClassBody v outer o c = .ok ((span, negated, tree), d)) :
    negated = (outer.getLast?.getD o).negated := by
  fun_induction readClassBody v outer o c with
  | case1 | case3 | case8 => cases h
  | case2 outer | case7 outer | case9 outer =>
    rename_i ih
    rw [ih h]
    cases outer <;> rfl
  | case4 outer =>
    rename_i ih
    rw [ih h]
    cases outer <;> rfl
  | case5 =>
    simp only [OpenClass.close, Except.ok.injEq, Prod.mk.injEq] at h
    exact h.1.2.1.symm
  | case6 o c _ d _ _ p outer =>
    rename_i ih
    rw [ih h]
    cases outer <;> rfl

end RegexLiteral.Pattern
