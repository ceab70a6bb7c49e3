import Cvc.Lib.Forest
import Cvc.SourceBulk

/-!
# Path tests

What `PathContains` and `PathCrosses` say of the chains of links of two nets. `PathCrosses` is exact: it tells whether the chains
share a net, so it does not matter which of them is put into the set. The loop of `PathContains` compares with the wrong sign
(`net_it != myTargetNet`): it says that a net is on the path as soon as it has seen another one. The answer is "no" only for the
end of a path of one link, which is on the path.
-/

namespace Cvc

open Forest List

namespace PowerNets

variable {nets : PowerNets} {bit : CalculatedBit} {n rounds : Nat} {p : List Nat}

/-- The set of the first loop, with the net it starts from, is the chain of that net. -/
theorem targetLoop_of_chain (h : Chain (nets.next bit) n p) (hrounds : p.length ≤ rounds) :
    ∃ l, nets.targetLoop bit rounds n = .ok l ∧ ∀ m, m ∈ n :: l ↔ m ∈ p := by
  induction h generalizing rounds with
  | @root n h =>
    refine ⟨[n], ?_, by simp⟩
    unfold targetLoop
    simp only [h]
    rfl
  | @link n p h hp ih =>
    obtain ⟨hlast, rfl⟩ | ⟨hlast, q, rfl, -⟩ := hp.eq_or
    · refine ⟨[nets.next bit n], ?_, fun _ => Iff.rfl⟩
      unfold targetLoop
      simp only [hlast]
      rfl
    · obtain ⟨r, rfl⟩ := Nat.exists_eq_add_of_le' (Nat.one_le_of_lt hrounds)
      obtain ⟨l, hl, hmem⟩ := ih (Nat.le_of_succ_le_succ hrounds)
      refine ⟨nets.next bit n :: l, ?_, fun m => ?_⟩
      · unfold targetLoop
        simp only [if_neg (Ne.symm hlast), hl]
        rfl
      · rw [mem_cons, hmem, ← mem_cons]

/-- The second loop finds whether the chain of a net that is not in the set meets the set. -/
theorem crossLoop_of_chain {targets : List Nat} (h : Chain (nets.next bit) n p) (hrounds : p.length ≤ rounds) (hn : n ∉ targets) :
    nets.crossLoop bit targets rounds n = .ok (decide (∃ m ∈ p, m ∈ targets)) := by
  induction h generalizing rounds with
  | @root n h =>
    unfold crossLoop
    simp only [h, hn, mem_singleton, exists_eq_left]
    rfl
  | @link n p h hp ih =>
    unfold crossLoop
    simp only [mem_cons, exists_eq_or_imp, hn, false_or]
    by_cases hnext : nets.next bit n ∈ targets
    · rw [if_pos hnext, decide_eq_true ⟨_, hp.head_mem, hnext⟩]
      rfl
    rw [if_neg hnext]
    obtain ⟨hlast, rfl⟩ | ⟨hlast, q, rfl, -⟩ := hp.eq_or
    · rw [if_pos hlast.symm]
      simp only [mem_singleton, exists_eq_left, hnext]
      rfl
    · obtain ⟨r, rfl⟩ := Nat.exists_eq_add_of_le' (Nat.one_le_of_lt hrounds)
      rw [if_neg (Ne.symm hlast)]
      exact ih (Nat.le_of_succ_le_succ hrounds) hnext

/-- `PathCrosses` is true exactly if the two chains share a net. -/
theorem pathCrosses_of_chains {v w : CalculatedBit} {s t : Nat} {q : List Nat} (hp : Chain (nets.next v) s p)
    (hq : Chain (nets.next w) t q) (hpr : p.length ≤ rounds) (hqr : q.length ≤ rounds) :
    nets.pathCrosses rounds v s w t = .ok (decide (∃ m ∈ p, m ∈ q)) := by
  obtain ⟨l, hl, hmem⟩ := targetLoop_of_chain hq hqr
  simp only [pathCrosses, hl, bind, Except.bind, ← hmem]
  split
  · rename_i hs
    rw [decide_eq_true ⟨s, hp.head_mem, hs⟩]
    rfl
  · rename_i hs
    exact crossLoop_of_chain hp hpr hs

/-- `PathContains` is false only if the target net is the end of the only link of the path. -/
theorem pathContains_eq (rep : Nat → Nat) (v : CalculatedBit) (s t : Nat) (hrounds : 0 < rounds) :
    nets.pathContains rep rounds v s t =
      .ok (decide (¬(s ≠ rep t ∧ nets.next v s = rep t ∧ nets.next v (rep t) = rep t))) := by
  obtain ⟨r, rfl⟩ := Nat.exists_eq_add_of_le' hrounds
  unfold pathContains
  by_cases hs : s = rep t
  · simp [hs, pure, Except.pure]
  rw [if_neg hs, pathLoop_eq]
  by_cases hnext : nets.next v s = rep t <;> simp [hs, hnext, bne, Bool.beq_eq_decide_eq]

/-- Both tests end on every forest and answer what the chains of the two nets say, in either order of the nets for `PathCrosses`,
exactly if the representative of the target net is on the path and not the end of its only link. -/
theorem pathTests_exact_iff (nets : PowerNets) (getEquivalentNet : Nat → Nat) (v w : CalculatedBit) (s t : Nat) {p q : List Nat}
    (hp : Chain (nets.next v) s p) (hq : Chain (nets.next w) t q) (rounds : Nat) (hpr : p.length ≤ rounds)
    (hqr : q.length ≤ rounds) : (nets.pathContains getEquivalentNet rounds v s t = .ok (decide (getEquivalentNet t ∈ p)) ∧
      nets.pathCrosses rounds v s w t = .ok (decide (∃ m ∈ p, m ∈ q)) ∧
      nets.pathCrosses rounds w t v s = nets.pathCrosses rounds v s w t) ↔
    getEquivalentNet t ∈ p ∧
      ¬(s ≠ getEquivalentNet t ∧ nets.next v s = getEquivalentNet t ∧ nets.next v (getEquivalentNet t) = getEquivalentNet t) := by
  have hcross := pathCrosses_of_chains hp hq hpr hqr
  have hback : nets.pathCrosses rounds w t v s = .ok (decide (∃ m ∈ p, m ∈ q)) := by
    rw [pathCrosses_of_chains hq hp hqr hpr]
    simp [and_comm]
  rw [hcross, hback, pathContains_eq _ v s t (Nat.lt_of_lt_of_le (length_pos_iff.2 hp.ne_nil) hpr)]
  simp only [and_true, Except.ok.injEq, decide_eq_decide]
  refine ⟨fun h => ?_, fun h => iff_of_true h.2 h.1⟩
  by_cases hmem : getEquivalentNet t ∈ p
  · exact ⟨hmem, h.2 hmem⟩
  · -- the answer "no" is only given for a net of the path
    have hfalse := not_not.1 (fun hn => hmem (h.1 hn))
    obtain ⟨hlast, -⟩ | ⟨-, r, rfl, hr⟩ := hp.eq_or
    · exact absurd (hlast.symm.trans hfalse.2.1) hfalse.1
    · exact absurd (mem_cons_of_mem _ (hfalse.2.1 ▸ hr.head_mem)) hmem

end PowerNets

/-- Net 3 is linked to net 0, and net 0 to net 1; net 2 is on its own. -/
def linkedNets : PowerNets where
  power _ := {}
  netVoltagePtr _ := none
  next _ n := if n = 3 then 0 else if n = 0 then 1 else n

theorem linkedNets_chain : Chain (linkedNets.next .max) 0 [0, 1] := .link (by decide) (.root (by decide))

/-- Net 1 ends the path of net 0 and is not found on it; net 2 is. -/
theorem linkedNets_pathContains : linkedNets.pathContains id 2 .max 0 1 = .ok false ∧
    linkedNets.pathContains id 2 .max 0 2 = .ok true ∧ Chain (linkedNets.next .max) 0 [0, 1] :=
  ⟨by decide, by decide, linkedNets_chain⟩

/-- Net 0 is found in the middle of the path of net 3. -/
theorem linkedNets_pathTests_exact : linkedNets.pathContains id 3 .max 3 0 = .ok (decide (0 ∈ [3, 0, 1])) ∧
    linkedNets.pathCrosses 3 .max 3 .max 0 = .ok (decide (∃ m ∈ [3, 0, 1], m ∈ [0, 1])) ∧
    linkedNets.pathCrosses 3 .max 0 .max 3 = linkedNets.pathCrosses 3 .max 3 .max 0 :=
  (PowerNets.pathTests_exact_iff linkedNets id .max .max 3 0 (.link (by decide) linkedNets_chain) linkedNets_chain 3 (by decide)
    (by decide)).2 ⟨by decide, by decide⟩

end Cvc
