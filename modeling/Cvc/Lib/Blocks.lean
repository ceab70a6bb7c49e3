import Mathlib.Data.List.Basic

/-!
# Blocks of a table

A table that is filled block by block: every key has a run of consecutive entries that hold its owner. The blocks of a table
cover it, and a block that is added at its end keeps the others.
-/

namespace Blocks

variable {α : Type*} {keys : List α} {first len owner : α → Nat} {table : List Nat} {k : α} {n : Nat}

/-- The entry `n` lies in the block of the key. -/
def In (first len : α → Nat) (k : α) (n : Nat) : Prop := first k ≤ n ∧ n < first k + len k

/-- The blocks of the keys fill the table with their owners. -/
structure Fill (keys : List α) (first len owner : α → Nat) (table : List Nat) : Prop where
  owned : ∀ k ∈ keys, ∀ n, In first len k n → table[n]? = some (owner k)
  cover : ∀ n < table.length, ∃ k ∈ keys, In first len k n

section
variable (h : Fill keys first len owner table)
include h

/-- Entries of the table are within its length. -/
theorem Fill.lt_length (hk : k ∈ keys) (hn : In first len k n) : n < table.length := by
  have := h.owned k hk n hn
  exact (List.getElem?_eq_some_iff.1 this).1

/-- Blocks that share an entry have one owner. -/
theorem Fill.owner_eq
    {k' : α} (hk : k ∈ keys) (hk' : k' ∈ keys) (hn : In first len k n) (hn' : In first len k' n) : owner k = owner k' := by
  have := (h.owned k hk n hn).symm.trans (h.owned k' hk' n hn')
  exact Option.some.inj this

/-- A block is added at the end of the table. -/
theorem Fill.concat (hk : first k = table.length) :
    Fill (keys ++ [k]) first len owner (table ++ List.replicate (len k) (owner k)) := by
  constructor
  · intro k' hk' n hn
    rcases List.mem_append.1 hk' with hm | hm
    · have := h.lt_length hm hn
      rw [List.getElem?_append_left this]
      exact h.owned k' hm n hn
    · obtain rfl := List.mem_singleton.1 hm
      obtain ⟨hle, hlt⟩ := hn
      rw [List.getElem?_append_right (by omega), List.getElem?_replicate, if_pos (by omega)]
  · intro n hn
    rw [List.length_append, List.length_replicate] at hn
    rcases Nat.lt_or_ge n table.length with hlt | hge
    · obtain ⟨k', hk', hin⟩ := h.cover n hlt
      exact ⟨k', List.mem_append_left _ hk', hin⟩
    · exact ⟨k, by simp, by omega, by omega⟩

/-- The blocks only depend on what is said about the keys. -/
theorem Fill.congr {first' owner' : α → Nat} (hf : ∀ k ∈ keys, first' k = first k) (ho : ∀ k ∈ keys, owner' k = owner k) :
    Fill keys first' len owner' table := by
  constructor
  · intro k hk n hn
    rw [ho k hk]
    exact h.owned k hk n (by rwa [In, hf k hk] at hn)
  · intro n hn
    obtain ⟨k, hk, hin⟩ := h.cover n hn
    exact ⟨k, hk, by rwa [In, hf k hk]⟩

end
end Blocks
