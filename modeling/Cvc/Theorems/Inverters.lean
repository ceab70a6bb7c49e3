import Cvc.Lemmas.Inverter

/-!
# Polarities and origins of inverter chains

`setInverters_spec` is the result of `SetInverters` on any map of nets to inputs. `isTransferGate_iff` says when `IsTransferGate`
recognises the gate nets that are complements: not when one of them is where the chain of the other starts. A start has the
sign of a net after an odd number of inverters there, but every other net after an even number has the other sign.
-/

namespace Cvc

open PartialMap Option Nat

namespace InverterNets

variable (nets : InverterNets)

theorem highLow_ne_of_settled {color highLow : Nat → Bool} (hcolor : IsColoring nets.inverterNet color)
    (hsettled : ∀ net, nets.inverterNet net ≠ unknownNet → Settled nets.inverterNet color highLow net) {net input : Nat}
    (h : inputOf nets.inverterNet net = some input) : highLow net ≠ highLow input := by
  have hsame := hsettled net (inputOf_eq_some.1 h).1 1 input (by rw [steps_succ_of_next h]; rfl)
  rw [hcolor net input h] at hsame
  intro heq
  rw [heq, Bool.xor_right_inj] at hsame
  exact (Bool.eq_not_self _).1 hsame

theorem highLow_eq_iff_even {highLow : Nat → Bool}
    (hne : ∀ net input, inputOf nets.inverterNet net = some input → highLow net ≠ highLow input) {n m k : Nat}
    (hpath : Path (inputOf nets.inverterNet) n m k) : highLow n = highLow m ↔ Even k := by
  have hflip : ∀ {a b c : Bool}, b ≠ c → ((a = c) ↔ ¬a = b) := by decide
  induction hpath with
  | refl => simp
  | forth _ hz ih => exact (hflip (hne _ _ hz)).trans ((not_congr ih).trans even_add_one.symm)
  | back _ hz ih => exact (hflip (hne _ _ hz).symm).trans ((not_congr ih).trans even_add_one.symm)

/-- `SetInverters` stops on every map of nets to inputs, and the nets without an input keep having none. If no cycle of inverters
is odd, the polarity changes at every inverter, the nets of one component that have an input all get the same one, and two nets of
a component have the same polarity exactly when the number of inverters between them is even. -/
theorem setInverters_spec {depth : Nat} (hdepth : nets.netCount * 1024 ≤ depth) (highLow : Nat → Bool) :
    ∃ inverterNet highLow', nets.setInverters depth highLow = .ok (inverterNet, highLow') ∧
      (∀ net, inverterNet net = unknownNet ↔ nets.inverterNet net = unknownNet) ∧
      (NoOddCycle (inputOf nets.inverterNet) →
        (∀ net input, inputOf nets.inverterNet net = some input → highLow' net ≠ highLow' input) ∧
        (∀ n m k, Path (inputOf nets.inverterNet) n m k → nets.inverterNet n ≠ unknownNet → nets.inverterNet m ≠ unknownNet →
          inverterNet n = inverterNet m) ∧
        ∀ n m k, Path (inputOf nets.inverterNet) n m k → (highLow' n = highLow' m ↔ Even k)) := by
  obtain ⟨highLow', hhighLow, -, hsettled⟩ := nets.exists_highLow hdepth highLow
  obtain ⟨inverterNet, hinverterNet, hdone⟩ := nets.exists_inverterNet hdepth
  refine ⟨inverterNet, highLow', ?_, hdone.unknown_iff, fun hodd => ?_⟩
  · simp only [setInverters, hhighLow, hinverterNet]
    rfl
  · obtain ⟨color, hcolor⟩ := exists_coloring hodd
    have hne := fun net input h => @nets.highLow_ne_of_settled color highLow' hcolor (hsettled color hcolor) net input h
    refine ⟨hne, fun n m k hpath hn hm => ?_, fun n m k hpath => nets.highLow_eq_iff_even hne hpath⟩
    replace hn := mt (hdone.unknown_iff n).1 hn
    replace hm := mt (hdone.unknown_iff m).1 hm
    obtain ⟨l, hl⟩ := hdone.connected m _ (inputOf_of_ne hm)
    exact hdone.eq_of_path (hpath.trans hl) (hdone.lt_netCount n hn).1 hn (hdone.absorbing m (hdone.lt_netCount m hm).1 hm)

end InverterNets

/-- Two cross-coupled inverters and a third one at their output. -/
def latchNets : InverterNets where
  netCount := 3
  isMaster _ := true
  inverterNet net := if net = 0 then 1 else if net = 1 then 0 else if net = 2 then 0 else unknownNet
  master _ _ := rfl
  lt_netCount net h := by
    rcases net with _ | _ | _ | net
    · decide
    · decide
    · decide
    · exact absurd rfl h

theorem latchNets_noOddCycle : NoOddCycle (inputOf latchNets.inverterNet) := by
  refine @noOddCycle_of_coloring _ _ (fun net => net == 0) fun x y h => ?_
  rcases x with _ | _ | _ | x
  · cases h; rfl
  · cases h; rfl
  · cases h; rfl
  · exact nomatch h

theorem latchNets_setInverters :
    NoOddCycle (inputOf latchNets.inverterNet) ∧
      ∃ inverterNet highLow, latchNets.setInverters 3072 (fun _ => false) = .ok (inverterNet, highLow) ∧
        highLow 0 ≠ highLow 1 ∧ highLow 1 = highLow 2 ∧ inverterNet 0 = inverterNet 1 ∧ inverterNet 1 = inverterNet 2 := by
  obtain ⟨inverterNet, highLow, hok, -, h⟩ := latchNets.setInverters_spec (by decide : 3 * 1024 ≤ 3072) (fun _ => false)
  obtain ⟨hne, hsame, hparity⟩ := h latchNets_noOddCycle
  have h01 : Path (inputOf latchNets.inverterNet) 0 1 1 := .forth (.refl 0) rfl
  have h12 : Path (inputOf latchNets.inverterNet) 1 2 2 := .back (.forth (.refl 1) rfl) rfl
  exact ⟨latchNets_noOddCycle, inverterNet, highLow, hok, hne 0 1 rfl, (hparity 1 2 2 h12).2 (by decide),
    hsame 0 1 1 h01 (by decide) (by decide), hsame 1 2 2 h12 (by decide) (by decide)⟩

/-! ## Transfer gates -/

/-- The text of a sign and a net. -/
theorem sign_append_inj {s t : Bool} {a b : Nat} :
    (if s then "+" else "-") ++ toString a = (if t then "+" else "-") ++ toString b ↔ s = t ∧ a = b := by
  have hdigits : ∀ {a b : Nat}, (toString a).toList = (toString b).toList → a = b := by
    intro a b h
    have := congrArg (fun digits => Nat.ofDigitChars 10 digits 0) h
    simpa using this
  constructor
  · intro h
    have hlist := congrArg String.toList h
    rw [String.toList_append, String.toList_append] at hlist
    cases s <;> cases t
    · exact ⟨rfl, hdigits (List.append_cancel_left hlist)⟩
    · exact nomatch (List.cons.inj hlist).1
    · exact nomatch (List.cons.inj hlist).1
    · exact ⟨rfl, hdigits (List.append_cancel_left hlist)⟩
  · rintro ⟨rfl, rfl⟩
    rfl

namespace InverterNets

variable (nets : InverterNets)

/-- The chain of a net starts at this root, that many inverters before it. -/
def IsRoot (net root inversions : Nat) : Prop :=
  steps (inputOf nets.inverterNet) inversions net = some root ∧ nets.inverterNet root = unknownNet

/-- The chains of both nets start at the same root, and the inverters between them are an odd number. -/
def Complementary (n m : Nat) : Prop := ∃ root i j, nets.IsRoot n root i ∧ nets.IsRoot m root j ∧ Odd (i + j)

/-- One of the nets is where the chain of the other one starts. -/
def OneIsRoot (n m : Nat) : Prop := (∃ k, nets.IsRoot n m (k + 1)) ∨ ∃ k, nets.IsRoot m n (k + 1)

variable {nets}

theorem IsRoot.unique {net root root' i j : Nat} (h : nets.IsRoot net root i) (h' : nets.IsRoot net root' j) :
    i = j ∧ root = root' :=
  steps_end_unique h.1 h'.1 (inputOf_eq_none.2 h.2) (inputOf_eq_none.2 h'.2)

theorem exists_isRoot (hacyclic : Acyclic (inputOf nets.inverterNet)) (net : Nat) : ∃ root k, nets.IsRoot net root k := by
  by_cases hinput : nets.inverterNet net = unknownNet
  · exact ⟨net, 0, rfl, hinput⟩
  obtain ⟨k, root, hk, hroot⟩ :=
    hacyclic.exists_end (inputOf_closed nets.lt_netCount) (Finset.mem_range.2 (nets.lt_netCount net hinput).1)
  exact ⟨root, k, hk, inputOf_eq_none.1 hroot⟩

section
variable {n m root root' i j : Nat} (hn : nets.IsRoot n root i) (hm : nets.IsRoot m root' j)
include hn hm

theorem complementary_iff :
    nets.Complementary n m ↔ root = root' ∧ Odd (i + j) := by
  constructor
  · rintro ⟨r, i', j', hi, hj, hodd⟩
    obtain ⟨rfl, rfl⟩ := hn.unique hi
    obtain ⟨rfl, rfl⟩ := hm.unique hj
    exact ⟨rfl, hodd⟩
  · rintro ⟨rfl, hodd⟩
    exact ⟨root, i, j, hn, hm, hodd⟩

theorem oneIsRoot_iff :
    nets.OneIsRoot n m ↔ root = root' ∧ (i = 0 ↔ j ≠ 0) := by
  constructor
  · rintro (⟨k, hk⟩ | ⟨k, hk⟩)
    · obtain ⟨rfl, rfl⟩ := hn.unique hk
      obtain ⟨rfl, rfl⟩ := hm.unique (⟨rfl, hk.2⟩ : nets.IsRoot _ _ 0)
      exact ⟨rfl, by simp⟩
    · obtain ⟨rfl, rfl⟩ := hm.unique hk
      obtain ⟨rfl, rfl⟩ := hn.unique (⟨rfl, hk.2⟩ : nets.IsRoot _ _ 0)
      exact ⟨rfl, by simp⟩
  · rintro ⟨rfl, hzero⟩
    cases i with
    | zero =>
      obtain ⟨k, rfl⟩ := exists_eq_succ_of_ne_zero (hzero.1 rfl)
      exact .inr ⟨k, some.inj hn.1 ▸ hm⟩
    | succ i =>
      cases j with
      | zero => exact .inl ⟨i, some.inj hm.1 ▸ hn⟩
      | succ j => exact absurd (hzero.2 (succ_ne_zero j)) (succ_ne_zero i)

end

/-- The sign that both texts give a net: that of an odd number of inverters, and the same one for the start of a chain. -/
def positive (inversions : Nat) : Bool := inversions == 0 || inversions % 2 == 1

section
variable {inv : Nat → Nat} {highLow : Nat → Bool} {net root k : Nat}

theorem origins_eq (h : nets.IsRoot net root k) (hzero : k = 0 → inv net = unknownNet)
    (hsucc : k ≠ 0 → inv net ≠ unknownNet ∧ inv net = root ∧ highLow net = (k % 2 == 1)) :
    origin inv highLow net = (if positive k then "+" else "-") ++ toString root ∧
      invertedOrigin inv highLow net = (if !positive k then "+" else "-") ++ toString root := by
  unfold origin invertedOrigin
  cases k with
  | zero =>
    rw [if_pos (hzero rfl), if_pos (hzero rfl), some.inj h.1]
    exact ⟨rfl, rfl⟩
  | succ k =>
    obtain ⟨hne, hroot, hsign⟩ := hsucc (succ_ne_zero k)
    rw [if_neg hne, if_neg hne, hroot, hsign, positive]
    refine ⟨rfl, ?_⟩
    cases (k + 1) % 2 == 1 <;> rfl

end

section
variable (hacyclic : Acyclic (inputOf nets.inverterNet)) {depth : Nat} (hdepth : nets.netCount * 1024 ≤ depth)
include hacyclic hdepth

/-- The input and the polarity of every net, by the start of its chain. -/
theorem exists_setInverters_of_acyclic : ∃ inv highLow, nets.setInverters depth (fun _ => false) = .ok (inv, highLow) ∧
      ∀ net root k, nets.IsRoot net root k → (k = 0 → inv net = unknownNet) ∧
        (k ≠ 0 → inv net ≠ unknownNet ∧ inv net = root ∧ highLow net = (k % 2 == 1)) := by
  obtain ⟨highLow, hhighLow, hstart, hsettled⟩ := nets.exists_highLow hdepth (fun _ => false)
  obtain ⟨inv, hinverterNet, hdone⟩ := nets.exists_inverterNet hdepth
  obtain ⟨color, hcolor⟩ := exists_coloring hacyclic.noOddCycle
  refine ⟨inv, highLow, ?_, fun net root k hroot => ⟨?_, fun hk => ?_⟩⟩
  · simp only [setInverters, hhighLow, hinverterNet]
    rfl
  · rintro rfl
    obtain rfl := some.inj hroot.1
    exact (hdone.unknown_iff net).2 hroot.2
  · have hne : inv net ≠ unknownNet := by
      intro hunknown
      have hend : inputOf nets.inverterNet net = none := inputOf_eq_none.2 ((hdone.unknown_iff net).1 hunknown)
      exact hk (steps_end_unique hroot.1 (rfl : steps _ 0 net = some net) (inputOf_eq_none.2 hroot.2) hend).1
    have hpath : Path (inputOf nets.inverterNet) net root k := .of_steps hroot.1
    have hsign := nets.highLow_eq_iff_even (fun n input h => nets.highLow_ne_of_settled hcolor (hsettled color hcolor) h) hpath
    refine ⟨hne, hdone.eq_of_path hpath (hdone.lt_netCount net hne).1 hne ?_, ?_⟩
    · exact .inl (inputOf_eq_none.2 ((hdone.unknown_iff root).2 hroot.2))
    · rw [hstart root hroot.2, even_iff] at hsign
      rcases mod_two_eq_zero_or_one k with hmod | hmod
      · rw [hmod, hsign.2 hmod]
        rfl
      · rw [hmod]
        have : highLow net ≠ false := fun h => absurd (hsign.1 h) (by omega)
        exact Bool.eq_true_of_not_eq_false this

/-- After `SetInverters` on a map without cycles, `IsTransferGate` is right about two gate nets (true exactly when they are
complements) unless one of them is where the chain of the other one starts, and then it is wrong. -/
theorem isTransferGate_iff (nmosGateNet pmosGateNet : Nat) :
    ∃ inverterNet highLow, nets.setInverters depth (fun _ => false) = .ok (inverterNet, highLow) ∧
      ((isTransferGate inverterNet highLow nmosGateNet pmosGateNet = true ↔ nets.Complementary nmosGateNet pmosGateNet) ↔
        ¬nets.OneIsRoot nmosGateNet pmosGateNet) := by
  obtain ⟨inverterNet, highLow, hok, hnets⟩ := exists_setInverters_of_acyclic hacyclic hdepth
  refine ⟨inverterNet, highLow, hok, ?_⟩
  obtain ⟨root, i, hi⟩ := exists_isRoot hacyclic nmosGateNet
  obtain ⟨root', j, hj⟩ := exists_isRoot hacyclic pmosGateNet
  have hi' := hnets nmosGateNet root i hi
  have hj' := hnets pmosGateNet root' j hj
  rw [isTransferGate, beq_iff_eq, (origins_eq hj hj'.1 hj'.2).1, (origins_eq hi hi'.1 hi'.2).2, sign_append_inj,
    complementary_iff hi hj, oneIsRoot_iff hi hj]
  by_cases hroot : root = root'
  · subst hroot
    have hpositive : ∀ k, positive k = true ↔ k = 0 ∨ k % 2 = 1 := by simp [positive]
    have hnot : (positive j = !positive i) ↔ ¬(positive j = true ↔ positive i = true) := by
      cases positive i <;> cases positive j <;> decide
    rw [hnot, hpositive, hpositive, odd_iff]
    omega
  · have hroot' : root' ≠ root := fun h => hroot h.symm
    simp [hroot, hroot']

end

end InverterNets

/-- Two inverters in series: net 0 drives net 1, and net 1 drives net 2. -/
def chainNets : InverterNets where
  netCount := 3
  isMaster _ := true
  inverterNet net := if net = 1 then 0 else if net = 2 then 1 else unknownNet
  master _ _ := rfl
  lt_netCount net h := by
    rcases net with _ | _ | _ | net
    · exact absurd rfl h
    · decide
    · decide
    · exact absurd rfl h

theorem chainNets_lt {net input : Nat} (h : inputOf chainNets.inverterNet net = some input) : input < net := by
  rcases net with _ | _ | _ | net
  · exact nomatch h
  · cases h; decide
  · cases h; decide
  · exact nomatch h

theorem chainNets_acyclic : Acyclic (inputOf chainNets.inverterNet) := by
  have hle : ∀ k x y, steps (inputOf chainNets.inverterNet) k x = some y → y ≤ x := by
    intro k
    induction k with
    | zero =>
      intro x y h
      exact (some.inj h).ge
    | succ k ih =>
      intro x y h
      obtain ⟨z, hz, hy⟩ := bind_eq_some_iff.1 h
      exact (ih z y hy).trans (chainNets_lt hz).le
  intro x k h
  obtain ⟨z, hz, hx⟩ := bind_eq_some_iff.1 h
  exact absurd (hle k z x hx) (not_le.2 (chainNets_lt hz))

/-- The nets behind one and behind two inverters are recognised. -/
theorem chainNets_isTransferGate :
    Acyclic (inputOf chainNets.inverterNet) ∧ ¬chainNets.OneIsRoot 1 2 ∧
      ∃ inverterNet highLow, chainNets.setInverters 3072 (fun _ => false) = .ok (inverterNet, highLow) ∧
        isTransferGate inverterNet highLow 1 2 = true := by
  have hone : chainNets.IsRoot 1 0 1 := ⟨rfl, rfl⟩
  have htwo : chainNets.IsRoot 2 0 2 := ⟨rfl, rfl⟩
  have hroot : ¬chainNets.OneIsRoot 1 2 := by
    rw [InverterNets.oneIsRoot_iff hone htwo]
    decide
  obtain ⟨inverterNet, highLow, hok, hiff⟩ :=
    InverterNets.isTransferGate_iff chainNets_acyclic (by decide : 3 * 1024 ≤ 3072) 1 2
  refine ⟨chainNets_acyclic, hroot, inverterNet, highLow, hok, (hiff.2 hroot).2 ?_⟩
  exact (InverterNets.complementary_iff hone htwo).2 ⟨rfl, by decide⟩

/-- The start of a chain and the net behind its first inverter are complements, but `IsTransferGate` compares `+0` with `-0`. -/
theorem chainNets_root_not_transferGate :
    ¬∀ (nets : InverterNets) (depth : Nat) (inverterNet : Nat → Nat) (highLow : Nat → Bool) (nmosGateNet pmosGateNet : Nat),
      Acyclic (inputOf nets.inverterNet) → nets.setInverters depth (fun _ => false) = .ok (inverterNet, highLow) →
      (isTransferGate inverterNet highLow nmosGateNet pmosGateNet = true ↔ nets.Complementary nmosGateNet pmosGateNet) := by
  intro h
  have hzero : chainNets.IsRoot 0 0 0 := ⟨rfl, rfl⟩
  have hone : chainNets.IsRoot 1 0 1 := ⟨rfl, rfl⟩
  have hcomplementary : chainNets.Complementary 0 1 := (InverterNets.complementary_iff hzero hone).2 ⟨rfl, by decide⟩
  have hfalse := (h chainNets 4 _ _ 0 1 chainNets_acyclic rfl).2 hcomplementary
  exact absurd hfalse (by decide)

end Cvc
