import Mathlib.Data.Set.Finite.List

/-!
# Paths of a relation

`Deep r n x` says that there is a path of `n` steps from `x`. In a relation whose steps lead to a list of elements the paths from
an element are bounded exactly if none of them comes to a cycle (`exists_not_deep_iff`).
-/

namespace Paths

open Relation

variable {α : Type*} {r : α → α → Prop} {x y : α}

/-- There is a path of this many steps. -/
def Deep (r : α → α → Prop) : Nat → α → Prop
  | 0, _ => True
  | n + 1, x => ∃ y, r x y ∧ Deep r n y

/-- No path from the element comes to a cycle. -/
def NoCycleFrom (r : α → α → Prop) (x : α) : Prop := ∀ y, ReflTransGen r x y → ¬TransGen r y y

theorem Deep.mono {m n : Nat} (h : Deep r n x) (hle : m ≤ n) : Deep r m x := by
  induction m generalizing n x with
  | zero => trivial
  | succ m ih =>
    obtain ⟨n, rfl⟩ : ∃ k, n = k + 1 := ⟨n - 1, by omega⟩
    obtain ⟨y, hxy, hy⟩ := h
    exact ⟨y, hxy, ih hy (by omega)⟩

/-- An element from which a cycle is reached has a step to another one. -/
theorem exists_step_of_cycle {z : α} (hxz : ReflTransGen r x z) (hz : TransGen r z z) : ∃ y, r x y ∧ ReflTransGen r y z := by
  rcases ReflTransGen.cases_head hxz with rfl | h
  · obtain ⟨y, hxy, hy⟩ := TransGen.head'_iff.1 hz
    exact ⟨y, hxy, hy⟩
  · exact h

theorem deep_of_cycle {z : α} (hz : TransGen r z z) (n : Nat) : ∀ x, ReflTransGen r x z → Deep r n x := by
  induction n with
  | zero => exact fun _ _ => trivial
  | succ n ih =>
    intro x hxz
    obtain ⟨y, hxy, hy⟩ := exists_step_of_cycle hxz hz
    exact ⟨y, hxy, ih y hy⟩

/-- Without a cycle, a relation into a list of elements is well-founded. -/
theorem NoCycleFrom.acc {l : List α} (h : NoCycleFrom r x) (hl : ∀ a b, r a b → b ∈ l) : Acc (fun b a => r a b) x := by
  classical
  let T := {y // y ∈ x :: l}
  let R : T → T → Prop := fun b a => ReflTransGen r x a.1 ∧ TransGen r a.1 b.1
  have htrans : IsTrans T R := ⟨fun a b c hab hbc => ⟨hbc.1, hbc.2.trans hab.2⟩⟩
  have hirrefl : Std.Irrefl R := ⟨fun a ha => h a.1 ha.1 ha.2⟩
  have hwf : WellFounded R := Finite.wellFounded_of_trans_of_irrefl R
  have hacc : ∀ a : T, ReflTransGen r x a.1 → Acc (fun b a => r a b) a.1 := by
    intro a
    induction a using hwf.induction with
    | _ a ih =>
      intro ha
      refine .intro _ fun b hab => ?_
      exact ih ⟨b, List.mem_cons_of_mem x (hl _ _ hab)⟩ ⟨ha, .single hab⟩ (ha.tail hab)
  exact hacc ⟨x, List.mem_cons_self⟩ .refl

/-- The paths from an element are bounded exactly if none of them comes to a cycle. -/
theorem exists_not_deep_iff {l : List α} (hl : ∀ a b, r a b → b ∈ l) : (∃ n, ¬Deep r n x) ↔ NoCycleFrom r x := by
  constructor
  · rintro ⟨n, hn⟩ z hxz hz
    exact hn (deep_of_cycle hz n x hxz)
  · intro h
    have hacc := h.acc hl
    clear h
    induction hacc with
    | intro x _ ih =>
      have hbound : ∀ l' : List α, ∃ n, ∀ y ∈ l', r x y → ¬Deep r n y := by
        intro l'
        induction l' with
        | nil => exact ⟨0, nofun⟩
        | cons a l' ihl =>
          obtain ⟨n, hn⟩ := ihl
          by_cases hxa : r x a
          · obtain ⟨m, hm⟩ := ih a hxa
            refine ⟨max n m, fun y hy hxy hdeep => ?_⟩
            rcases List.mem_cons.1 hy with rfl | hy
            · exact hm (hdeep.mono (Nat.le_max_right n m))
            · exact hn y hy hxy (hdeep.mono (Nat.le_max_left n m))
          · refine ⟨n, fun y hy hxy => ?_⟩
            rcases List.mem_cons.1 hy with rfl | hy
            · exact absurd hxy hxa
            · exact hn y hy hxy
      obtain ⟨n, hn⟩ := hbound l
      exact ⟨n + 1, fun ⟨y, hxy, hy⟩ => hn y (hl x y hxy) hxy hy⟩

end Paths
