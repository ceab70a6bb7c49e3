import Cvc.Lib.Loop
import Cvc.SwitchShort

/-!
# The classes of shorted nets

`Classes` is what holds of the nets while the switches are shorted: the roots of `equivalentNet_v` are the classes that the
switches handled so far generate, the lists have the nets of each class, and all nets of a class have the power of their root.
`Fixed` is what holds while the last loop goes down the nets: it only reads nets that it has not changed yet.
-/

namespace Cvc

open Function (update update_self update_of_ne)
open DescendingForest List Nat

namespace SwitchNets

variable (nets : SwitchNets)

/-- A switch that is skipped, because both classes have the same power, or rejected as a short. -/
def ignores (s : SwitchState) (switch : Nat × Nat) : Bool :=
  let theFirstNetId := getLeastEquivalentNet s.equivalentNet switch.1
  let theSecondNetId := getLeastEquivalentNet s.equivalentNet switch.2
  theFirstNetId != theSecondNetId &&
    match nets.setMasterPower s.netVoltagePtr theFirstNetId theSecondNetId with
    | .ok (myMasterPower, mySamePowerFlag) => mySamePowerFlag && myMasterPower.isNone
    | .error _ => true

/-- The switches of a list that are neither skipped nor rejected when they are handled. -/
def connecting : SwitchState → List (Nat × Nat) → List (Nat × Nat)
  | _, [] => []
  | s, switch :: switches =>
    if nets.ignores s switch then connecting (nets.shortSwitch s switch) switches
    else switch :: connecting (nets.shortSwitch s switch) switches

/-- The classes of the nets while the switches are shorted. -/
structure Classes (edges : List (Nat × Nat)) (s : SwitchState) : Prop where
  descends : Descends s.equivalentNet
  root_eq_iff : ∀ n m, root s.equivalentNet n = root s.equivalentNet m ↔ Relation.EqvGen (fun x y => (x, y) ∈ edges) n m
  mem_netMap : ∀ r, s.equivalentNet r = r → ∀ n, n ∈ s.netMap r ↔ root s.equivalentNet n = r ∧ n ≠ r
  power_root : ∀ n, s.netVoltagePtr n = s.netVoltagePtr (root s.equivalentNet n)
  power_net : ∀ n p, s.netVoltagePtr n = some p →
    root s.equivalentNet (nets.power p).netId = root s.equivalentNet n ∧ (nets.power p).netId < nets.netCount
  survives : ∀ n, nets.netVoltagePtr n ≠ none → s.netVoltagePtr n ≠ none

variable {nets}

theorem lt_unknownNet {n : Nat} (hn : n < nets.netCount) : n ≠ unknownNet := by
  have := nets.netCount_lt
  unfold unknownNet uint32Max
  omega

theorem getLeastEquivalentNet_eq {s : SwitchState} {n : Nat} (hn : n < nets.netCount) :
    getLeastEquivalentNet s.equivalentNet n = root s.equivalentNet n := if_neg (lt_unknownNet hn)

theorem classes_start : nets.Classes [] nets.start where
  descends _ := le_rfl
  root_eq_iff n m := by
    have hroot : ∀ n, root nets.start.equivalentNet n = n := fun n => root_of_eq rfl
    rw [hroot, hroot]
    constructor
    · rintro rfl
      exact .refl n
    · intro h
      induction h with
      | rel x y hxy => exact nomatch hxy
      | refl x => rfl
      | symm x y _ ih => exact ih.symm
      | trans x y z _ _ ih ih' => exact ih.trans ih'
  mem_netMap r _ n := by
    rw [root_of_eq rfl]
    exact iff_of_false nofun fun h => h.2 h.1
  power_root n := by rw [root_of_eq rfl]
  power_net n p h := by
    obtain ⟨hnet, hlt⟩ := nets.own n p h
    exact ⟨by rw [hnet], hnet ▸ hlt⟩
  survives _ h := h

/-- The master power is that of one of the classes, and only two classes without power have none. -/
theorem setMasterPower_cases {netVoltagePtr : Nat → Option Nat} {a b : Nat} {master : Option Nat} {flag : Bool}
    (h : nets.setMasterPower netVoltagePtr a b = .ok (master, flag)) (hflag : (flag && master.isNone) = false) :
    (netVoltagePtr a = master ∨ netVoltagePtr b = master) ∧
      (master = none → netVoltagePtr a = none ∧ netVoltagePtr b = none) := by
  unfold setMasterPower at h
  split at h
  case h_1 ha =>
    cases h
    exact ⟨.inr rfl, fun hb => ⟨ha, hb⟩⟩
  case h_2 ha hb =>
    cases h
    exact ⟨.inl ha, nofun⟩
  case h_3 first second ha hb =>
    dsimp only at h
    split at h
    · cases h
      nomatch hflag
    split at h
    · cases h
      exact ⟨.inl ha, nofun⟩
    · split at h
      · cases h
        exact ⟨.inr hb, nofun⟩
      · nomatch h

/-- What a round does: it leaves the nets of one class or those of an ignored switch alone, and otherwise merges the classes. -/
theorem shortSwitch_cases (s : SwitchState) {switch : Nat × Nat} (hlt : switch.1 < nets.netCount ∧ switch.2 < nets.netCount) :
    (nets.ignores s switch = true ∧ nets.shortSwitch s switch = s) ∨
    (nets.ignores s switch = false ∧ root s.equivalentNet switch.1 = root s.equivalentNet switch.2 ∧
      nets.shortSwitch s switch = s) ∨
    ∃ master flag, nets.ignores s switch = false ∧ root s.equivalentNet switch.1 ≠ root s.equivalentNet switch.2 ∧
      nets.setMasterPower s.netVoltagePtr (root s.equivalentNet switch.1) (root s.equivalentNet switch.2) = .ok (master, flag) ∧
      (flag && master.isNone) = false ∧
      nets.shortSwitch s switch = mergeNets s (min (root s.equivalentNet switch.1) (root s.equivalentNet switch.2))
        (max (root s.equivalentNet switch.1) (root s.equivalentNet switch.2)) master := by
  unfold ignores shortSwitch makeEquivalentNets
  simp only [getLeastEquivalentNet_eq hlt.1, getLeastEquivalentNet_eq hlt.2]
  by_cases hroot : root s.equivalentNet switch.1 = root s.equivalentNet switch.2
  · refine .inr (.inl ?_)
    simp [hroot, pure, Except.pure]
  have hne := bne_iff_ne.2 hroot
  simp only [if_neg hroot, hne]
  cases nets.setMasterPower s.netVoltagePtr (root s.equivalentNet switch.1) (root s.equivalentNet switch.2) with
  | error e => exact .inl ⟨rfl, rfl⟩
  | ok result =>
    obtain ⟨master, flag⟩ := result
    cases hflag : flag && master.isNone with
    | true =>
      refine .inl ⟨hflag, ?_⟩
      simp only [bind, Except.bind, hflag]
      rfl
    | false =>
      refine .inr (.inr ⟨master, flag, hflag, hroot, rfl, hflag, ?_⟩)
      simp only [bind, Except.bind, hflag, Bool.false_eq_true]
      rfl

theorem foldl_update_apply (l : List Nat) (f : Nat → Option Nat) (v : Option Nat) (n : Nat) :
    l.foldl (fun f m => update f m v) f n = if n ∈ l then v else f n := by
  induction l generalizing f with
  | nil => rfl
  | cons m l ih =>
    rw [foldl_cons, ih]
    by_cases hn : n = m
    · subst hn
      simp
    · simp [hn]

/-- Two roots are merged for a switch, under the power of one of them. -/
structure Merges (s : SwitchState) (switch : Nat × Nat) (lesser greater : Nat) (master : Option Nat) : Prop where
  lt : lesser < greater
  roots : (root s.equivalentNet switch.1 = lesser ∧ root s.equivalentNet switch.2 = greater) ∨
    (root s.equivalentNet switch.1 = greater ∧ root s.equivalentNet switch.2 = lesser)
  one : s.netVoltagePtr lesser = master ∨ s.netVoltagePtr greater = master
  both : master = none → s.netVoltagePtr lesser = none ∧ s.netVoltagePtr greater = none

namespace Classes

variable {edges : List (Nat × Nat)} {s : SwitchState} {switch : Nat × Nat} {lesser greater : Nat} {master : Option Nat}
  {n : Nat}

section
variable (h : nets.Classes edges s)
include h

section
variable (hm : Merges s switch lesser greater master)
include hm

theorem equivalentNet_roots : s.equivalentNet lesser = lesser ∧ s.equivalentNet greater = greater := by
  rcases hm.roots with ⟨rfl, rfl⟩ | ⟨rfl, rfl⟩ <;> exact ⟨h.descends.parent_root _, h.descends.parent_root _⟩

theorem root_mergeNets (n : Nat) : root (mergeNets s lesser greater master).equivalentNet n =
      if root s.equivalentNet n = greater then lesser else root s.equivalentNet n :=
  root_link (h.equivalentNet_roots hm).1 (h.equivalentNet_roots hm).2 hm.lt n

/-- The powers after a merge: the class that did not have the master power gets it. -/
theorem netVoltagePtr_mergeNets (n : Nat) : (mergeNets s lesser greater master).netVoltagePtr n =
      if root s.equivalentNet n = (if s.netVoltagePtr greater = master then lesser else greater) then master
      else s.netVoltagePtr n := by
  have hminor : s.equivalentNet (if s.netVoltagePtr greater = master then lesser else greater) =
      if s.netVoltagePtr greater = master then lesser else greater := by
    split
    · exact (h.equivalentNet_roots hm).1
    · exact (h.equivalentNet_roots hm).2
  cases master with
  | none =>
    show s.netVoltagePtr n = _
    obtain ⟨hl, hg⟩ := hm.both rfl
    rw [if_pos hg]
    split
    case isTrue hn => rw [h.power_root, hn, hl]
    case isFalse => rfl
  | some p =>
    unfold mergeNets
    simp only
    generalize (if s.netVoltagePtr greater = some p then lesser else greater) = minor at hminor ⊢
    rw [foldl_update_apply]
    by_cases hn : n = minor
    · subst hn
      rw [root_of_eq hminor, if_pos rfl, update_self, ite_self]
    · rw [update_of_ne hn]
      refine if_congr ?_ rfl rfl
      rw [h.mem_netMap minor hminor]
      exact and_iff_left hn

/-- Both classes have the master power afterwards. -/
theorem netVoltagePtr_of_merged (hn : root s.equivalentNet n = lesser ∨ root s.equivalentNet n = greater) :
    (mergeNets s lesser greater master).netVoltagePtr n = master := by
  rw [h.netVoltagePtr_mergeNets hm]
  by_cases hg : s.netVoltagePtr greater = master
  · rw [if_pos hg]
    split
    · rfl
    case isFalse hne => rw [h.power_root, hn.resolve_left hne, hg]
  · rw [if_neg hg]
    split
    · rfl
    case isFalse hne => rw [h.power_root, hn.resolve_right hne, hm.one.resolve_right hg]

theorem netVoltagePtr_of_other (hn : ¬(root s.equivalentNet n = lesser ∨ root s.equivalentNet n = greater)) :
    (mergeNets s lesser greater master).netVoltagePtr n = s.netVoltagePtr n := by
  rw [not_or] at hn
  rw [h.netVoltagePtr_mergeNets hm, if_neg]
  split
  · exact hn.1
  · exact hn.2

theorem root_of_merged (hn : root s.equivalentNet n = lesser ∨ root s.equivalentNet n = greater) :
    root (mergeNets s lesser greater master).equivalentNet n = lesser := by
  rw [h.root_mergeNets hm]
  split
  · rfl
  case isFalse hne => exact hn.resolve_right hne

/-- The list of the lesser net gets the greater one and its list. -/
theorem mem_netMap_mergeNets {r : Nat} (hr : (mergeNets s lesser greater master).equivalentNet r = r) (n : Nat) :
    n ∈ (mergeNets s lesser greater master).netMap r ↔ root (mergeNets s lesser greater master).equivalentNet n = r ∧ n ≠ r := by
  have hrg : r ≠ greater := by
    rintro rfl
    rw [show (mergeNets s lesser r master).equivalentNet r = lesser from update_self ..] at hr
    exact absurd hr hm.lt.ne
  have hr' : s.equivalentNet r = r := by
    rwa [show (mergeNets s lesser greater master).equivalentNet r = s.equivalentNet r from
      update_of_ne hrg _ _] at hr
  have hgreater := (h.equivalentNet_roots hm).2
  show n ∈ update (update s.netMap lesser _) greater [] r ↔ _
  rw [update_of_ne hrg, h.root_mergeNets hm]
  by_cases hrl : r = lesser
  · subst hrl
    rw [update_self, mem_append, mem_cons, h.mem_netMap greater hgreater, h.mem_netMap r hr']
    by_cases hn : n = greater
    · subst hn
      simp [root_of_eq hgreater, hrg.symm]
    · by_cases hn' : root s.equivalentNet n = greater
      · have : n ≠ r := fun heq => hrg (by rw [← root_of_eq hr', ← heq, hn'])
        simp [hn', hn, this]
      · simp [hn', hn]
  · rw [update_of_ne hrl, h.mem_netMap r hr']
    refine and_congr_left fun _ => ?_
    split
    case isTrue hn => exact iff_of_false (fun heq => hrg (heq.symm.trans hn)) (Ne.symm hrl)
    case isFalse => rfl

end
end

theorem edges_concat (edges : List (Nat × Nat)) (switch : Nat × Nat) :
    (fun x y => (x, y) ∈ edges ++ [switch]) = fun x y => (x, y) ∈ edges ∨ x = switch.1 ∧ y = switch.2 := by
  funext x y
  rw [mem_append, mem_singleton, Prod.ext_iff]

/-- A merge of two classes for one more switch. -/
theorem merge (h : nets.Classes edges s) (hm : Merges s switch lesser greater master) :
    nets.Classes (edges ++ [switch]) (mergeNets s lesser greater master) := by
  obtain ⟨hlesser, hgreater⟩ := h.equivalentNet_roots hm
  refine ⟨h.descends.link hm.lt, fun n m => ?_, fun r hr n => h.mem_netMap_mergeNets hm hr n, fun n => ?_, fun n p hp => ?_,
    fun n hn => ?_⟩
  · rw [edges_concat]
    exact root_eq_iff_link h.root_eq_iff h.descends hm.lt hm.roots n m
  · by_cases hn : root s.equivalentNet n = lesser ∨ root s.equivalentNet n = greater
    · rw [h.root_of_merged hm hn, h.netVoltagePtr_of_merged hm hn, h.netVoltagePtr_of_merged hm (.inl (root_of_eq hlesser))]
    · rw [h.root_mergeNets hm, if_neg fun hg => hn (.inr hg), h.netVoltagePtr_of_other hm hn,
        h.netVoltagePtr_of_other hm (by rwa [h.descends.root_root]), h.power_root]
  · by_cases hn : root s.equivalentNet n = lesser ∨ root s.equivalentNet n = greater
    · rw [h.netVoltagePtr_of_merged hm hn] at hp
      subst hp
      rw [h.root_of_merged hm hn]
      -- the power stays within the class it comes from
      rcases hm.one with hmaster | hmaster
      · obtain ⟨hnet, hlt⟩ := h.power_net lesser p hmaster
        exact ⟨h.root_of_merged hm (.inl (hnet.trans (root_of_eq hlesser))), hlt⟩
      · obtain ⟨hnet, hlt⟩ := h.power_net greater p hmaster
        exact ⟨h.root_of_merged hm (.inr (hnet.trans (root_of_eq hgreater))), hlt⟩
    · rw [h.netVoltagePtr_of_other hm hn] at hp
      obtain ⟨hnet, hlt⟩ := h.power_net n p hp
      exact ⟨by rw [h.root_mergeNets hm, h.root_mergeNets hm, hnet], hlt⟩
  · by_cases hn' : root s.equivalentNet n = lesser ∨ root s.equivalentNet n = greater
    · rw [h.netVoltagePtr_of_merged hm hn']
      intro hnone
      obtain ⟨hl, hg⟩ := hm.both hnone
      refine h.survives n hn ?_
      rw [h.power_root]
      rcases hn' with hn' | hn'
      · rw [hn', hl]
      · rw [hn', hg]
    · rw [h.netVoltagePtr_of_other hm hn']
      exact h.survives n hn

theorem shortSwitch (h : nets.Classes edges s) (hlt : switch.1 < nets.netCount ∧ switch.2 < nets.netCount) :
    nets.Classes (if nets.ignores s switch then edges else edges ++ [switch]) (nets.shortSwitch s switch) := by
  rcases nets.shortSwitch_cases s hlt with ⟨hignores, hs⟩ | ⟨hignores, hroot, hs⟩ | ⟨master, flag, hignores,
    hroot, hmaster, hflag, hs⟩
  · rwa [hignores, if_pos rfl, hs]
  · rw [hignores, hs, if_neg Bool.false_ne_true]
    refine ⟨h.descends, fun n m => ?_, h.mem_netMap, h.power_root, h.power_net, h.survives⟩
    rw [edges_concat]
    exact root_eq_iff_of_root_eq h.root_eq_iff hroot n m
  rw [hignores, hs, if_neg Bool.false_ne_true]
  obtain ⟨hone, hnone⟩ := setMasterPower_cases hmaster hflag
  rcases lt_or_gt_of_ne hroot with hlt' | hlt'
  · rw [min_eq_left hlt'.le, max_eq_right hlt'.le]
    exact h.merge ⟨hlt', .inl ⟨rfl, rfl⟩, hone, hnone⟩
  · rw [min_eq_right hlt'.le, max_eq_left hlt'.le]
    exact h.merge ⟨hlt', .inr ⟨rfl, rfl⟩, hone.symm, fun hm => (hnone hm).symm⟩

/-- The classes after all switches of a list. -/
theorem foldl_shortSwitch (h : nets.Classes edges s) {switches : List (Nat × Nat)}
    (hlt : ∀ d ∈ switches, d.1 < nets.netCount ∧ d.2 < nets.netCount) :
    nets.Classes (edges ++ nets.connecting s switches) (switches.foldl nets.shortSwitch s) := by
  induction switches generalizing edges s with
  | nil => rwa [connecting, append_nil]
  | cons switch switches ih =>
    have hstep := ih (h.shortSwitch (hlt switch mem_cons_self)) fun d hd => hlt d (mem_cons_of_mem _ hd)
    rw [connecting, foldl_cons]
    split
    case isTrue hignores => rwa [if_pos hignores] at hstep
    case isFalse hignores =>
      rw [if_neg hignores, append_assoc] at hstep
      exact hstep

end Classes

/-! ## The representatives -/

variable (nets) in
/-- The net that represents the class of a net: that of its power, or the least one. -/
def representative (s : SwitchState) (net : Nat) : Nat :=
  match s.netVoltagePtr (root s.equivalentNet net) with
  | some p => (nets.power p).netId
  | none => root s.equivalentNet net

/-- The last loop when it has gone down to a net: the nets below are unchanged, the others have their representatives. -/
structure Fixed (s₀ : SwitchState) (bound : Nat) (s : SwitchState) : Prop where
  below : ∀ n < bound, s.equivalentNet n = s₀.equivalentNet n ∧ s.netVoltagePtr n = s₀.netVoltagePtr n
  equivalentNet : ∀ n, bound ≤ n → n < nets.netCount → s.equivalentNet n = nets.representative s₀ n
  netVoltagePtr : ∀ n p, bound ≤ n → n < nets.netCount →
    (s.netVoltagePtr n = some p ↔ s₀.netVoltagePtr n = some p ∧ (nets.power p).netId = n)

section
variable {edges : List (Nat × Nat)} {s s₀ : SwitchState} {n net p : Nat}

/-- A round reads only nets below, so it finds the representative. -/
theorem Fixed.getEquivalentNet_eq (h : nets.Classes edges s₀) (hs : nets.Fixed s₀ (net + 1) s)
    (hlt : net < nets.netCount) : nets.getEquivalentNet false s net = nets.representative s₀ net := by
  have hroot : root s.equivalentNet net = root s₀.equivalentNet net :=
    root_congr fun m hm => (hs.below m (lt_succ_of_le hm)).1
  have hpower : s.netVoltagePtr (root s₀.equivalentNet net) = s₀.netVoltagePtr (root s₀.equivalentNet net) :=
    (hs.below _ (lt_succ_of_le (root_le net))).2
  unfold getEquivalentNet representative
  rw [if_neg (lt_unknownNet hlt)]
  simp only [Bool.false_eq_true, if_false]
  rw [getLeastEquivalentNet_eq hlt, hroot, hpower]
  cases hp : s₀.netVoltagePtr (root s₀.equivalentNet net) with
  | none => rfl
  | some p => exact if_pos (lt_unknownNet (h.power_net _ p hp).2)

theorem netVoltagePtr_fixEquivalentNet_self (net p : Nat) :
    (nets.fixEquivalentNet s net).netVoltagePtr net = some p ↔ s.netVoltagePtr net = some p ∧ (nets.power p).netId = net := by
  unfold fixEquivalentNet
  cases hp : s.netVoltagePtr net with
  | none => simp [hp]
  | some q =>
    by_cases hnet : net = (nets.power q).netId
    · simp only [← hnet, ne_eq, not_true_eq_false, if_false, hp, Option.some.injEq]
      constructor
      · rintro rfl
        exact ⟨rfl, hnet.symm⟩
      · exact And.left
    · simp only [ne_eq, hnet, not_false_eq_true, if_true, update_self]
      refine iff_of_false nofun ?_
      rintro ⟨hpq, hnet'⟩
      rw [← Option.some.inj hpq] at hnet'
      exact hnet hnet'.symm

theorem netVoltagePtr_fixEquivalentNet_of_ne (hn : n ≠ net) :
    (nets.fixEquivalentNet s net).netVoltagePtr n = s.netVoltagePtr n := by
  unfold fixEquivalentNet
  cases s.netVoltagePtr net with
  | none => rfl
  | some q =>
    simp only
    split
    · exact update_of_ne hn _ _
    · rfl

section
variable (h : nets.Classes edges s₀)
include h

theorem Fixed.fixEquivalentNet (hs : nets.Fixed s₀ (net + 1) s) (hlt : net < nets.netCount) :
    nets.Fixed s₀ net (nets.fixEquivalentNet s net) := by
  have hlink : ∀ n, n ≠ net → (nets.fixEquivalentNet s net).equivalentNet n = s.equivalentNet n :=
    fun n hn => update_of_ne hn _ _
  refine ⟨fun n hn => ?_, fun n hle hn => ?_, fun n p hle hn => ?_⟩
  · rw [hlink n hn.ne, netVoltagePtr_fixEquivalentNet_of_ne hn.ne]
    exact hs.below n (by omega)
  · by_cases heq : n = net
    · subst heq
      rw [show (nets.fixEquivalentNet s n).equivalentNet n = _ from update_self .., hs.getEquivalentNet_eq h hlt]
    · rw [hlink n heq]
      exact hs.equivalentNet n (by omega) hn
  · by_cases heq : n = net
    · subst heq
      rw [netVoltagePtr_fixEquivalentNet_self, (hs.below n (by omega)).2]
    · rw [netVoltagePtr_fixEquivalentNet_of_ne heq]
      exact hs.netVoltagePtr n p (by omega) hn

/-- The last loop gives every net its representative. -/
theorem fixed_foldl : nets.Fixed s₀ 0 (nets.fixedNets.foldl nets.fixEquivalentNet s₀) := by
  rw [fixedNets, if_pos nets.netCount_lt.le]
  refine @Loop.foldl_range_reverse _ nets.fixEquivalentNet (fun bound s => nets.Fixed s₀ bound s) _ ?_ s₀ ?_
  · exact fun net s hlt hs => hs.fixEquivalentNet h hlt
  · exact ⟨fun _ _ => ⟨rfl, rfl⟩, fun n hle hn => absurd hn (not_lt.2 hle), fun n p hle hn => absurd hn (not_lt.2 hle)⟩

theorem Classes.root_representative (n : Nat) : root s₀.equivalentNet (nets.representative s₀ n) = root s₀.equivalentNet n := by
  unfold representative
  cases hp : s₀.netVoltagePtr (root s₀.equivalentNet n) with
  | none => exact h.descends.root_root n
  | some p => exact (h.power_net _ p hp).1.trans (h.descends.root_root n)

theorem Classes.representative_eq_iff (n m : Nat) :
    nets.representative s₀ n = nets.representative s₀ m ↔ Relation.EqvGen (fun x y => (x, y) ∈ edges) n m := by
  rw [← h.root_eq_iff]
  constructor
  · intro heq
    rw [← h.root_representative n, ← h.root_representative m, heq]
  · intro heq
    unfold representative
    rw [heq]

theorem Classes.representative_lt (hn : n < nets.netCount) : nets.representative s₀ n < nets.netCount := by
  unfold representative
  cases hp : s₀.netVoltagePtr (root s₀.equivalentNet n) with
  | none => exact (root_le n).trans_lt hn
  | some p => exact (h.power_net _ p hp).2

/-- The power of a class is kept at its own net, which is in the class. -/
theorem Fixed.netVoltagePtr_netId (hs : nets.Fixed s₀ 0 s) (hp : s₀.netVoltagePtr (root s₀.equivalentNet n) = some p) :
    s.netVoltagePtr (nets.power p).netId = some p ∧ root s₀.equivalentNet (nets.power p).netId = root s₀.equivalentNet n ∧
      (nets.power p).netId < nets.netCount := by
  obtain ⟨hnet, hlt⟩ := h.power_net _ p hp
  rw [h.descends.root_root] at hnet
  rw [← hnet, ← h.power_root] at hp
  exact ⟨(hs.netVoltagePtr _ p (zero_le _) hlt).2 ⟨hp, rfl⟩, hnet, hlt⟩

/-- At the end `GetEquivalentNet` returns the representative of a net. -/
theorem Fixed.getEquivalentNet_fixed (hs : nets.Fixed s₀ 0 s) (hn : n < nets.netCount) :
    nets.getEquivalentNet true s n = nets.representative s₀ n := by
  unfold getEquivalentNet
  rw [if_neg (lt_unknownNet hn)]
  simp only [if_true]
  rw [hs.equivalentNet n (zero_le n) hn]
  cases hp : s.netVoltagePtr (nets.representative s₀ n) with
  | none => rfl
  | some p =>
    obtain ⟨hp', hnet⟩ := (hs.netVoltagePtr _ p (zero_le _) (h.representative_lt hn)).1 hp
    simp [hnet]

end
end
end SwitchNets
end Cvc
