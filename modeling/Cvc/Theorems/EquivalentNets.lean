import Cvc.Lemmas.SwitchShort

/-!
# The partition of the nets by the switches

`setEquivalentNets_partition` collects what `SetEquivalentNets` achieves for every list of switches: the classes of the nets are
those that the switches it does not ignore generate, and each has one representative, at which alone its power is kept.
-/

namespace Cvc

open DescendingForest

namespace SwitchNets

variable (nets : SwitchNets)

/-- The nets are connected by switches that are neither skipped nor rejected. -/
def Connected (n m : Nat) : Prop := Relation.EqvGen (fun x y => (x, y) ∈ nets.connecting nets.start nets.switches) n m

/-- Up to the last loop no net is linked to a greater one. Afterwards `GetEquivalentNet` is idempotent, two nets have the same
representative exactly when they are connected, the representative is the net of the power of the class or, if it has none, the
least net, a class that had a power still has one, and a power is only at the representative, which is its own net. -/
theorem setEquivalentNets_partition :
    (∀ k n, ((nets.switches.take k).foldl nets.shortSwitch nets.start).equivalentNet n ≤ n) ∧
    (∀ n < nets.netCount,
      nets.getEquivalentNet true nets.setEquivalentNets (nets.getEquivalentNet true nets.setEquivalentNets n) =
      nets.getEquivalentNet true nets.setEquivalentNets n) ∧
    (∀ n < nets.netCount, ∀ m < nets.netCount,
      nets.getEquivalentNet true nets.setEquivalentNets n = nets.getEquivalentNet true nets.setEquivalentNets m ↔
        nets.Connected n m) ∧
    (∀ n < nets.netCount, ∀ m < nets.netCount, nets.Connected n m → ∀ p, nets.setEquivalentNets.netVoltagePtr m = some p →
      nets.getEquivalentNet true nets.setEquivalentNets n = (nets.power p).netId) ∧
    (∀ n < nets.netCount, (∀ m < nets.netCount, nets.Connected n m → nets.setEquivalentNets.netVoltagePtr m = none) →
      nets.Connected n (nets.getEquivalentNet true nets.setEquivalentNets n) ∧
        ∀ m, nets.Connected n m → nets.getEquivalentNet true nets.setEquivalentNets n ≤ m) ∧
    (∀ n < nets.netCount, nets.netVoltagePtr n ≠ none →
      nets.setEquivalentNets.netVoltagePtr (nets.getEquivalentNet true nets.setEquivalentNets n) ≠ none) ∧
    ∀ n < nets.netCount, ∀ p, nets.setEquivalentNets.netVoltagePtr n = some p →
      (nets.power p).netId = n ∧ nets.getEquivalentNet true nets.setEquivalentNets n = n := by
  refine ⟨fun k n => ?_, ?_⟩
  · exact (classes_start.foldl_shortSwitch fun d hd => nets.switches_lt d (List.mem_of_mem_take hd)).descends n
  have h := classes_start.foldl_shortSwitch nets.switches_lt
  have hfixed : nets.Fixed _ 0 nets.setEquivalentNets := fixed_foldl (classes_start.foldl_shortSwitch nets.switches_lt)
  generalize nets.switches.foldl nets.shortSwitch nets.start = s0 at h hfixed
  have hget : ∀ n < nets.netCount, nets.getEquivalentNet true nets.setEquivalentNets n = nets.representative s0 n :=
    fun n hn => hfixed.getEquivalentNet_fixed h hn
  have hconnected : ∀ {n m}, root s0.equivalentNet n = root s0.equivalentNet m ↔ nets.Connected n m := h.root_eq_iff _ _
  refine ⟨fun n hn => ?_, fun n hn m hm => ?_, fun n hn m hm hnm p hp => ?_, fun n hn hnone => ?_, fun n hn hpower => ?_,
    fun n hn p hp => ?_⟩
  · rw [hget n hn, hget _ (h.representative_lt hn), h.representative_eq_iff, ← h.root_eq_iff]
    exact h.root_representative n
  · rw [hget n hn, hget m hm]
    exact h.representative_eq_iff n m
  · obtain ⟨hp', -⟩ := (hfixed.netVoltagePtr m p (Nat.zero_le m) hm).1 hp
    rw [h.power_root, ← hconnected.2 hnm] at hp'
    rw [hget n hn, representative, hp']
  · have hroot : nets.representative s0 n = root s0.equivalentNet n := by
      unfold representative
      cases hp : s0.netVoltagePtr (root s0.equivalentNet n) with
      | none => rfl
      | some p =>
        obtain ⟨hkept, hnet, hlt⟩ := hfixed.netVoltagePtr_netId h hp
        exact nomatch hkept.symm.trans (hnone _ hlt (hconnected.1 hnet.symm))
    rw [hget n hn, hroot]
    refine ⟨hconnected.1 (h.descends.root_root n).symm, fun m hm => ?_⟩
    rw [hconnected.2 hm]
    exact root_le m
  · have hsome := h.survives n hpower
    rw [h.power_root] at hsome
    obtain ⟨p, hp⟩ := Option.ne_none_iff_exists'.1 hsome
    rw [hget n hn, representative, hp]
    intro hnone
    exact nomatch hnone.symm.trans (hfixed.netVoltagePtr_netId h hp).1
  · obtain ⟨hp', hnet⟩ := (hfixed.netVoltagePtr n p (Nat.zero_le n) hn).1 hp
    rw [h.power_root] at hp'
    refine ⟨hnet, ?_⟩
    rw [hget n hn, representative, hp']
    exact hnet

/-- Three nets with a power at net 2; a switch shorts nets 0 and 2. -/
def threeNets : SwitchNets where
  netCount := 3
  netCount_lt := by decide
  power _ := { netId := 2 }
  netVoltagePtr n := if n = 2 then some 0 else none
  own n p h := by
    split at h
    case isTrue hn => exact ⟨hn.symm, hn ▸ by decide⟩
    case isFalse => nomatch h
  cvcShortErrorThreshold := 0
  switches := [(0, 2)]
  switches_lt := by decide

-- both nets of the switch are represented by the net of the power, above the least net of their class
example : (List.range 3).map (threeNets.getEquivalentNet true threeNets.setEquivalentNets) = [2, 1, 2] := by decide

end SwitchNets
end Cvc
