import Cvc.Lemmas.Flatten
import Cvc.Lemmas.Library

/-!
# Linked hierarchies

The instances of a hierarchy are its full expansion as a library. Linking it with exact counters always comes to its end, and
counts, for every circuit, its instances in the tree.
-/

namespace Cvc

open List Library
open Function (update update_self update_of_ne)

namespace Hierarchy

variable {h : Hierarchy} {name x : Nat} {counts : Nat → CircuitCounts}

theorem ranked : h.Ranked h.rank := fun _ _ hd => h.rank_master_lt hd

/-- Every circuit of a hierarchy is clean. -/
theorem clean (hx : (h.circuitNameMap x).isSome) : h.Clean x := by
  induction hr : h.rank x using Nat.strong_induction_on generalizing x with
  | _ r ih =>
    subst hr
    obtain ⟨c, hc⟩ := Option.isSome_iff_exists.1 hx
    refine .intro hx (fun d hd => ?_) fun d hd => h.signals_length hd
    rw [circuit_eq hc] at hd
    exact ih _ (h.rank_lt x c hc d hd) (h.master_found x c hc d hd) rfl

/-- No path of calls is longer than the rank it starts with. -/
theorem le_rank_of_deep {n : Nat} (hdeep : Paths.Deep h.Enters n x) : n ≤ h.rank x := by
  induction n generalizing x with
  | zero => exact Nat.zero_le _
  | succ n ih =>
    obtain ⟨y, henters, hy⟩ := hdeep
    obtain ⟨d, hd, rfl⟩ := henters.calls
    exact Nat.lt_of_le_of_lt (ih hy) (h.rank_master_lt hd)

variable (h) in
/-- The masters of the instances below an instance of a circuit. -/
def mastersBelow (name : Nat) : List Nat :=
  (h.circuit name).subcircuitPtrV.flatMap fun d => h.expansion h.rank d.masterName

theorem expansion_rank (name : Nat) : h.expansion h.rank name = name :: h.mastersBelow name := expansion_eq ranked name

/-- The nodes from a node down are the full expansion of its circuit. -/
theorem map_masterOf_nodesFrom (depth : Nat) (p : List Nat) :
    (h.nodesFrom depth p).map h.masterOf = h.expansionFrom depth (h.masterOf p) := by
  induction depth generalizing p with
  | zero => rfl
  | succ depth ih =>
    unfold nodesFrom expansionFrom
    rw [map_cons, map_flatMap]
    congr 1
    have hsubs : (h.circuitAt p).subcircuitPtrV = (range (h.width p)).map fun i => h.callOf i p := by
      refine ext_getElem (by simp [width]) fun j h1 h2 => ?_
      simp [callOf, h1]
    show _ = (h.circuitAt p).subcircuitPtrV.flatMap _
    rw [hsubs, flatMap_map]
    exact flatMap_congr fun i _ => ih (i :: p)

theorem map_masterOf_nodes : h.nodes.map h.masterOf = h.topBlock :: h.mastersBelow h.topBlock :=
  (map_masterOf_nodesFrom _ []).trans (expansion_rank h.topBlock)

/-- The instances of a circuit. -/
theorem length_filter_nodes (name : Nat) :
    (h.nodes.filter fun p => h.masterOf p == name).length = (h.topBlock :: h.mastersBelow h.topBlock).count name := by
  rw [← map_masterOf_nodes, count, countP_map, countP_eq_length_filter]
  rfl

/-- What the recursion from the top circuit of a hierarchy leaves. -/
abbrev LinkedTop (h : Hierarchy) : (Nat → CircuitCounts) → Prop :=
  h.Linked id (h.mastersBelow h.topBlock) h.topBlock fun _ => {}

variable (h) in
/-- The recursion from the top circuit returns. -/
theorem exists_linked :
    ∃ s, h.countObjectsAndLinkSubcircuits id (h.rank h.topBlock + 1) h.topBlock (fun _ => {}) = .ok s ∧ h.LinkedTop s := by
  have hlink := countObjectsAndLinkSubcircuits_outcome isWrap_id (h.rank h.topBlock + 1)
    (consistent_init h.toLibrary id) rfl h.top_found
  have hbelow : h.below (h.rank h.topBlock + 1) h.topBlock = h.mastersBelow h.topBlock := by
    refine flatMap_congr fun d hd => expansionFrom_eq ranked ?_ (Nat.lt_succ_self _)
    exact Nat.lt_succ_of_lt (h.rank_master_lt hd)
  rw [hbelow] at hlink
  cases hrun : h.countObjectsAndLinkSubcircuits id (h.rank h.topBlock + 1) h.topBlock fun _ => {} with
  | ok s => exact ⟨s, rfl, hlink.of_ok hrun⟩
  | error e =>
    rcases hlink.of_error hrun with ⟨-, hdeep⟩ | ⟨hclean, -⟩
    · exact absurd (le_rank_of_deep hdeep) (Nat.not_succ_le_self _)
    · exact absurd (clean h.top_found) hclean

variable (h) in
/-- Linking a hierarchy is the recursion from the top circuit, which is then added, and the test for its size. -/
theorem linkTop_eq : ∃ s, h.LinkedTop s ∧ h.linkTop = h.checkSize (h.addTop id (h.circuit h.topBlock).portCount s) := by
  obtain ⟨s, hrun, hs⟩ := h.exists_linked
  refine ⟨s, hs, ?_⟩
  obtain ⟨c, hc⟩ := Option.isSome_iff_exists.1 h.top_found
  rw [linkTop, linkTop_of_found hc, hrun, circuit_eq hc]
  rfl

/-- A hierarchy that links has the instances of every circuit counted, and they fit. -/
theorem counted_of_linkTop (hok : h.linkTop = .ok counts) : h.Counted counts := by
  obtain ⟨s, hs, heq⟩ := h.linkTop_eq
  obtain ⟨rfl, hfit⟩ := (checkSize_outcome isWrap_id ranked hs.consistent hs.linked).of_ok (heq.symm.trans hok)
  refine ⟨fun name => ?_, ?_⟩
  · rw [length_filter_nodes, count_cons]
    unfold addTop
    rcases eq_or_ne name h.topBlock with rfl | hne
    · rw [update_self]
      simp only [hs.instances rfl, beq_self_eq_true, if_true, id_eq]
      omega
    · rw [update_of_ne hne, hs.instances rfl]
      simp [hne.symm]
  · have hlen : h.nodes.length = (h.expansion h.rank h.topBlock).length := by
      rw [expansion_rank, ← map_masterOf_nodes, length_map]
    have hmax : (h.expansion h.rank h.topBlock).length ≤ maxSubcircuit := hfit .subcircuit
    omega

end Hierarchy
end Cvc
