import Mathlib.Data.List.Basic

/-!
# Linked lists

A list of elements that is stored as a link from each to the next, with a mark after the last one.
-/

namespace LinkedList

variable {α : Type*} {mark a : α} {next next' : α → α} {xs : List α}

/-- From `a` on, the links lead through the elements of the list to the mark. -/
def Linked (mark : α) (next : α → α) : α → List α → Prop
  | a, [] => a = mark
  | a, x :: xs => a = x ∧ x ≠ mark ∧ Linked mark next (next x) xs

/-- The list is kept by writes to the links of other elements. -/
theorem Linked.congr (h : Linked mark next a xs) (he : ∀ x ∈ xs, next' x = next x) : Linked mark next' a xs := by
  induction xs generalizing a with
  | nil => exact h
  | cons x xs ih =>
    obtain ⟨hx, hne, hrest⟩ := h
    refine ⟨hx, hne, ?_⟩
    rw [he x List.mem_cons_self]
    exact ih hrest fun y hy => he y (List.mem_cons_of_mem _ hy)

/-- An element whose link is the mark, linked to from the last element, is added at the end. -/
theorem Linked.concat {c d : α} (h : Linked mark next a (xs ++ [c])) (hd : d ≠ mark) (hc : next' c = d) (hend : next' d = mark)
    (he : ∀ x ∈ xs, next' x = next x) : Linked mark next' a (xs ++ [c] ++ [d]) := by
  induction xs generalizing a with
  | nil => exact ⟨h.1, h.2.1, hc, hd, hend⟩
  | cons x xs ih =>
    obtain ⟨hx, hne, hrest⟩ := h
    refine ⟨hx, hne, ?_⟩
    rw [he x List.mem_cons_self]
    exact ih hrest fun y hy => he y (List.mem_cons_of_mem _ hy)

end LinkedList
