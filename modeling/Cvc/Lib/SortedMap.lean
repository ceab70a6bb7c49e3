import Mathlib.Order.Lattice
import Mathlib.Data.List.Pairwise

/-!
# Sorted maps

A map as the list of its entries in increasing order of the key, the order in which a map that is walked from its first entry
shows them. `put` keeps the order, and the first entry is the one with the least key.
-/

namespace SortedMap

open List

variable {κ β : Type*} [LinearOrder κ] {k k' : κ} {m : List (κ × β)} {b : β} {x : κ × β}

/-- The value stored under a key. -/
def find (k : κ) : List (κ × β) → Option β
  | [] => none
  | (k', b) :: m => if k = k' then some b else find k m

/-- Store a value under a key, over the one that is there. -/
def put (k : κ) (b : β) : List (κ × β) → List (κ × β)
  | [] => [(k, b)]
  | (k', b') :: m => if k < k' then (k, b) :: (k', b') :: m else if k = k' then (k, b) :: m else (k', b') :: put k b m

/-- The keys increase. -/
def Sorted (m : List (κ × β)) : Prop := m.Pairwise (fun x y => x.1 < y.1)

@[simp] theorem find_nil (k : κ) : find k ([] : List (κ × β)) = none := rfl

@[simp] theorem find_cons_self (k : κ) (b : β) (m : List (κ × β)) : find k ((k, b) :: m) = some b := by
  simp [find]

theorem find_cons_of_ne (h : k ≠ k') (b : β) (m : List (κ × β)) : find k ((k', b) :: m) = find k m := by
  simp [find, h]

@[simp] theorem find_put_self (k : κ) (b : β) (m : List (κ × β)) : find k (put k b m) = some b := by
  induction m with
  | nil => simp [put]
  | cons x m ih =>
    obtain ⟨k', b'⟩ := x
    unfold put
    split
    · simp
    · split
      · simp
      · rename_i h
        rw [find_cons_of_ne h, ih]

theorem find_put_of_ne (h : k' ≠ k) (b : β) (m : List (κ × β)) : find k' (put k b m) = find k' m := by
  induction m with
  | nil => simp [put, find_cons_of_ne h]
  | cons x m ih =>
    obtain ⟨k1, b1⟩ := x
    unfold put
    split
    · rw [find_cons_of_ne h]
    split
    · rename_i h1
      subst h1
      rw [find_cons_of_ne h, find_cons_of_ne h]
    · by_cases hk : k' = k1
      · subst hk; simp
      · rw [find_cons_of_ne hk, find_cons_of_ne hk, ih]

/-- The entries of `put` are those of the map and the new one. -/
theorem mem_put (hx : x ∈ put k b m) : x = (k, b) ∨ x ∈ m := by
  induction m with
  | nil => exact .inl (mem_singleton.1 hx)
  | cons y m ih =>
    obtain ⟨k', b'⟩ := y
    unfold put at hx
    split at hx
    · exact mem_cons.1 hx
    split at hx
    · exact (mem_cons.1 hx).imp_right (mem_cons_of_mem _)
    · rcases mem_cons.1 hx with rfl | hx
      · exact .inr mem_cons_self
      · exact (ih hx).imp_right (mem_cons_of_mem _)

theorem Sorted.put (h : Sorted m) (k : κ) (b : β) : Sorted (put k b m) := by
  induction m with
  | nil => simp [SortedMap.put, Sorted]
  | cons y m ih =>
    obtain ⟨k', b'⟩ := y
    have hhead := (pairwise_cons.1 h).1
    have htail := (pairwise_cons.1 h).2
    unfold SortedMap.put
    split
    · rename_i hk
      refine pairwise_cons.2 ⟨?_, h⟩
      intro x hx
      rcases mem_cons.1 hx with rfl | hx
      · exact hk
      · exact hk.trans (hhead x hx)
    · split
      · rename_i hk
        subst hk
        exact pairwise_cons.2 ⟨hhead, htail⟩
      rename_i hlt hne
      refine pairwise_cons.2 ⟨?_, ih htail⟩
      intro x hx
      rcases mem_put hx with rfl | hx
      · exact lt_of_le_of_ne (not_lt.1 hlt) (.symm hne)
      · exact hhead x hx

/-- A stored key is the key of an entry. -/
theorem mem_of_find (h : find k m = some b) : (k, b) ∈ m := by
  induction m with
  | nil => simp at h
  | cons y m ih =>
    obtain ⟨k', b'⟩ := y
    unfold find at h
    split at h
    · rename_i hk
      rw [hk, Option.some.inj h]
      exact mem_cons_self
    · exact mem_cons_of_mem _ (ih h)

/-- An entry of a sorted map is the one stored under its key. -/
theorem Sorted.find_of_mem (h : Sorted m) (hm : (k, b) ∈ m) : find k m = some b := by
  induction m with
  | nil => nomatch hm
  | cons y m ih =>
    obtain ⟨k', b'⟩ := y
    obtain ⟨hhead, htail⟩ := pairwise_cons.1 h
    rcases mem_cons.1 hm with he | hm
    · obtain ⟨rfl, rfl⟩ := Prod.mk.inj he
      exact find_cons_self ..
    · rw [find_cons_of_ne (hhead _ hm).ne', ih htail hm]

/-- The first key of a sorted map is below every key stored after it, so it is not stored there again. -/
theorem Sorted.find_tail_head (h : Sorted ((k, b) :: m)) : find k m = none := by
  cases hf : find k m with
  | none => rfl
  | some b' => exact absurd ((pairwise_cons.1 h).1 _ (mem_of_find hf)) (lt_irrefl k)

/-- The first key of a sorted map is the least of its keys. -/
theorem Sorted.head_le {b' : β} (h : Sorted ((k, b) :: m)) (hf : find k' ((k, b) :: m) = some b') : k ≤ k' := by
  rcases mem_cons.1 (mem_of_find hf) with he | hm
  · exact (congrArg Prod.fst he).ge
  · exact ((pairwise_cons.1 h).1 _ hm).le

theorem Sorted.tail (h : Sorted (x :: m)) : Sorted m := (pairwise_cons.1 h).2

/-- Changing the value of the first entry keeps the order. -/
theorem Sorted.setHead (h : Sorted ((k, b) :: m)) (b' : β) : Sorted ((k, b') :: m) :=
  pairwise_cons.2 ⟨(pairwise_cons.1 h).1, (pairwise_cons.1 h).2⟩

end SortedMap
