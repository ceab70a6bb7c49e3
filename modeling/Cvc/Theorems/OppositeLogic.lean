import Mathlib.Data.Nat.Find
import Cvc.OppositeLogic
import Cvc.Lemmas.Inverter

/-!
# Opposite logic of chains of inverters

Without odd cycles the first loop of `CheckOppositeLogic` ends with all nets of the chain of the first net, by their polarity. The
second loop ends if it comes to one of them with the other polarity or to the end of the chain of the second net. If the chain
runs into a loop of inverters and there is no such net, it goes on for ever. Nets that are found not to be opposite are an error
only at a device of the type of the check with its gate at the first net; these are the only nets on which the check fails.
-/

namespace Cvc

open PartialMap Nat

/-- The net of a loop as a node; `UNKNOWN_NET` is none. -/
def nodeOf (net : Nat) : Option Nat := if net = unknownNet then none else some net

theorem nodeOf_of_ne {net : Nat} (h : net ≠ unknownNet) : nodeOf net = some net := if_neg h

theorem nodeOf_unknownNet : nodeOf unknownNet = none := if_pos rfl

section Walks
variable {inv : Nat → Nat} {a : Nat} {k : Nat}

/-- After a number of rounds a loop is at the node that many edges further. -/
theorem nodeOf_inverterNet {i net : Nat} (h : nodeOf net = steps (inputOf inv) i a) (hne : net ≠ unknownNet) :
    nodeOf (inv net) = steps (inputOf inv) (i + 1) a := by
  rw [nodeOf_of_ne hne] at h
  rw [steps_add, ← h]
  show (if inv net = unknownNet then none else some (inv net)) = steps (inputOf inv) 1 net
  unfold steps inputOf
  split <;> rfl

theorem nodeOf_start (ha : a ≠ unknownNet) : nodeOf a = steps (inputOf inv) 0 a := nodeOf_of_ne ha

theorem ne_unknownNet_of_steps (ha : a ≠ unknownNet) {i n : Nat} (h : steps (inputOf inv) i a = some n) : n ≠ unknownNet := by
  induction i generalizing a with
  | zero => exact Option.some.inj h ▸ ha
  | succ i ih =>
    obtain ⟨b, hnext, h⟩ := steps_succ_eq_some.1 h
    obtain ⟨hne, rfl⟩ := inputOf_eq_some.1 hnext
    exact ih hne h

/-! ## The first loop -/

/-- The list has the nets that are reached after some numbers of inversions, all of them less than `i`. -/
def Visited (inverterNet : Nat → Nat) (a : Nat) (P : Nat → Prop) (i : Nat) (l : List Nat) : Prop :=
  ∀ n, n ∈ l ↔ ∃ j < i, P j ∧ steps (inputOf inverterNet) j a = some n

section
variable {P : Nat → Prop} {i net : Nat} {l : List Nat}

theorem visited_nil : Visited inv a P 0 [] := by simp [Visited]

theorem Visited.push (h : Visited inv a P i l) (hP : P i) (hnet : steps (inputOf inv) i a = some net) :
    Visited inv a P (i + 1) (net :: l) := by
  intro n
  rw [List.mem_cons, h n]
  constructor
  · rintro (rfl | ⟨j, hj, hPj, hn⟩)
    · exact ⟨i, lt_succ_self i, hP, hnet⟩
    · exact ⟨j, lt_succ_of_lt hj, hPj, hn⟩
  · rintro ⟨j, hj, hPj, hn⟩
    rcases Nat.lt_succ_iff_lt_or_eq.1 hj with hj | rfl
    · exact .inr ⟨j, hj, hPj, hn⟩
    · exact .inl (Option.some.inj (hn.symm.trans hnet))

theorem Visited.skip (h : Visited inv a P i l) (hP : ¬ P i) : Visited inv a P (i + 1) l := by
  intro n
  rw [h n]
  constructor
  · rintro ⟨j, hj, hPj, hn⟩
    exact ⟨j, lt_succ_of_lt hj, hPj, hn⟩
  · rintro ⟨j, hj, hPj, hn⟩
    refine ⟨j, lt_of_le_of_ne (le_of_lt_succ hj) ?_, hPj, hn⟩
    rintro rfl
    exact hP hPj

end

/-- A loop is at a net with a polarity after a number of rounds, and has these lists. -/
structure Collecting (inverterNet : Nat → Nat) (a i net : Nat) (myInverted : Bool) (mySameLogicNets myInvertedNets : List Nat) :
    Prop where
  at_net : nodeOf net = steps (inputOf inverterNet) i a
  polarity : myInverted = true ↔ Odd i
  same : Visited inverterNet a Even i mySameLogicNets
  inverted : Visited inverterNet a Odd i myInvertedNets

/-- The walk ends here or comes back to a net of even distance. -/
def Stops (inverterNet : Nat → Nat) (a i : Nat) : Prop :=
  steps (inputOf inverterNet) i a = none ∨
    ∃ j < i, Even j ∧ ∃ y, steps (inputOf inverterNet) j a = some y ∧ steps (inputOf inverterNet) i a = some y

variable {i net rounds : Nat} {myInverted : Bool} {same inverted : List Nat}

section
variable (h : Collecting inv a i net myInverted same inverted)
include h

theorem Collecting.stops_iff : (net = unknownNet ∨ net ∈ same) ↔ Stops inv a i := by
  unfold Stops
  rw [← h.at_net, h.same net]
  by_cases hnet : net = unknownNet
  · simp [hnet, nodeOf_unknownNet]
  · rw [nodeOf_of_ne hnet]
    simp [hnet]

/-- The next round of a loop that does not stop: the sets with the net in the one of its polarity. -/
theorem Collecting.next (hnet : net ≠ unknownNet) :
    Collecting inv a (i + 1) (inv net) (!myInverted) (if myInverted then same else net :: same)
      (if myInverted then net :: inverted else inverted) := by
  have hat : steps (inputOf inv) i a = some net := by rw [← h.at_net, nodeOf_of_ne hnet]
  have hnext := nodeOf_inverterNet h.at_net hnet
  have hpolarity := h.polarity
  cases myInverted with
  | true =>
    have hodd : Odd i := hpolarity.1 rfl
    refine ⟨hnext, ?_, h.same.skip (not_even_iff_odd.2 hodd), h.inverted.push hodd hat⟩
    simpa [odd_add_one] using hodd
  | false =>
    have heven : Even i := by simpa using hpolarity
    refine ⟨hnext, ?_, h.same.push heven hat, h.inverted.skip (not_odd_iff_even.2 heven)⟩
    simpa [odd_add_one] using heven

/-- Without odd cycles no net is reached with both polarities. -/
theorem Collecting.no_oscillator (hodd : NoOddCycle (inputOf inv))
    (ha : a ≠ unknownNet) (hnet : net ≠ unknownNet) : inv net ∉ net :: (if myInverted then inverted else same) := by
  intro hmem
  have hnext := h.next hnet
  obtain ⟨j, hparity, hj⟩ : ∃ j, (Even j ↔ Even i) ∧ steps (inputOf inv) j a = some (inv net) := by
    have hpolarity := h.polarity
    cases myInverted with
    | true =>
      obtain ⟨j, _, hjodd, hj⟩ := (hnext.inverted _).1 hmem
      exact ⟨j, iff_of_false (not_even_iff_odd.2 hjodd) (not_even_iff_odd.2 (hpolarity.1 rfl)), hj⟩
    | false =>
      obtain ⟨j, _, hjeven, hj⟩ := (hnext.same _).1 hmem
      exact ⟨j, iff_of_true hjeven (by simpa using hpolarity), hj⟩
  have hat := hnext.at_net
  rw [nodeOf_of_ne (ne_unknownNet_of_steps ha hj)] at hat
  have := hodd.even_iff_of_steps hj hat.symm
  rw [hparity, even_add_one] at this
  tauto

end

theorem collectLogicNets_of_stop (h : net = unknownNet ∨ net ∈ same) :
    collectLogicNets inv rounds net myInverted same inverted = .ok (same, inverted) := by
  unfold collectLogicNets
  rw [if_pos h]
  rfl

theorem Collecting.collectLogicNets_succ (h : Collecting inv a i net myInverted same inverted) (hodd : NoOddCycle (inputOf inv))
    (ha : a ≠ unknownNet) (hstop : ¬ (net = unknownNet ∨ net ∈ same)) :
    collectLogicNets inv (rounds + 1) net myInverted same inverted =
      collectLogicNets inv rounds (inv net) (!myInverted) (if myInverted then same else net :: same)
        (if myInverted then net :: inverted else inverted) := by
  have hfresh := h.no_oscillator hodd ha (not_or.1 hstop).1
  rw [collectLogicNets, if_neg hstop]
  cases myInverted with
  | true =>
    exact if_neg hfresh
  | false =>
    exact if_neg hfresh

/-- Where the loop stops, the nets that are reached at all have been reached before. -/
theorem Visited.all (hodd : NoOddCycle (inputOf inv)) {P : Nat → Prop} (hP : ∀ j k, (Even j ↔ Even k) → P k → P j)
    {l : List Nat} (h : Visited inv a P i l) (hstops : Stops inv a i) (n : Nat) :
    n ∈ l ↔ ∃ j, P j ∧ steps (inputOf inv) j a = some n := by
  rw [h n]
  constructor
  · rintro ⟨j, _, hj⟩
    exact ⟨j, hj⟩
  · rintro ⟨k, hPk, hk⟩
    rcases hstops with hend | ⟨j, hj, _, y, hy, hy'⟩
    · refine ⟨k, Nat.lt_of_not_le fun hle => ?_, hPk, hk⟩
      rw [steps_eq_none_of_le hend hle] at hk
      cases hk
    · obtain ⟨k', hk', hsteps, heven⟩ := hodd.exists_lt_of_repeat hy hy' hj hk
      exact ⟨k', hk', hP k' k heven hPk, hsteps⟩

/-- The lists have all nets of the chain, by their polarity. -/
structure Complete (inverterNet : Nat → Nat) (a : Nat) (same inverted : List Nat) : Prop where
  mem_same : ∀ n, n ∈ same ↔ ∃ j, Even j ∧ steps (inputOf inverterNet) j a = some n
  mem_inverted : ∀ n, n ∈ inverted ↔ ∃ j, Odd j ∧ steps (inputOf inverterNet) j a = some n

section
variable (h : Collecting inv a i net myInverted same inverted)
include h

section
variable (hodd : NoOddCycle (inputOf inv))
include hodd

theorem Collecting.complete (hstops : Stops inv a i) : Complete inv a same inverted := by
  refine ⟨h.same.all hodd (fun _ _ heven => heven.2) hstops, h.inverted.all hodd (fun j k heven hk => ?_) hstops⟩
  rw [← not_even_iff_odd] at hk ⊢
  rwa [heven]

/-- The first loop ends with all nets of the chain, if there are rounds to where it stops. -/
theorem Collecting.collectLogicNets_eq (ha : a ≠ unknownNet) (hik : i ≤ k) (hstops : Stops inv a k) (hrounds : k - i ≤ rounds) :
    ∃ same' inverted', collectLogicNets inv rounds net myInverted same inverted = .ok (same', inverted') ∧
      Complete inv a same' inverted' := by
  induction hd : k - i generalizing i net myInverted same inverted rounds with
  | zero =>
    obtain rfl : i = k := by omega
    exact ⟨same, inverted, collectLogicNets_of_stop (h.stops_iff.2 hstops), h.complete hodd hstops⟩
  | succ d ih =>
    by_cases hstop : net = unknownNet ∨ net ∈ same
    · exact ⟨same, inverted, collectLogicNets_of_stop hstop, h.complete hodd (h.stops_iff.1 hstop)⟩
    · obtain ⟨rounds, rfl⟩ : ∃ r, rounds = r + 1 := ⟨rounds - 1, by omega⟩
      rw [h.collectLogicNets_succ hodd ha hstop]
      exact ih (h.next (not_or.1 hstop).1) (by omega) (by omega) (by omega)

/-- Whenever the first loop ends, it ends with all nets of the chain. -/
theorem Collecting.complete_of_ok
    (ha : a ≠ unknownNet) {lists : List Nat × List Nat}
    (hok : collectLogicNets inv rounds net myInverted same inverted = .ok lists) :
    Complete inv a lists.1 lists.2 := by
  induction rounds generalizing i net myInverted same inverted
  all_goals
    by_cases hstop : net = unknownNet ∨ net ∈ same
    · rw [collectLogicNets_of_stop hstop] at hok
      cases hok
      exact h.complete hodd (h.stops_iff.1 hstop)
  · rw [collectLogicNets, if_neg hstop] at hok
    nomatch hok
  · rename_i ih
    rw [h.collectLogicNets_succ hodd ha hstop] at hok
    exact ih (h.next (not_or.1 hstop).1) hok

end
end

theorem collecting_start (ha : a ≠ unknownNet) : Collecting inv a 0 a false [] [] :=
  ⟨nodeOf_start ha, by simp, visited_nil, visited_nil⟩

/-! ## The second loop -/

variable {b j : Nat}

/-- A net that is a number of inversions from the second net is an odd number of inversions in all from both. -/
def Meets (inverterNet : Nat → Nat) (a b j : Nat) : Prop :=
  ∃ n i, steps (inputOf inverterNet) i a = some n ∧ steps (inputOf inverterNet) j b = some n ∧ Odd (i + j)

/-- The second loop stops here. -/
def Ends (inverterNet : Nat → Nat) (a b j : Nat) : Prop := steps (inputOf inverterNet) j b = none ∨ Meets inverterNet a b j

theorem Complete.continues_iff (h : Complete inv a same inverted) (hat : nodeOf net = steps (inputOf inv) j b)
    (hpolarity : myInverted = true ↔ Even j) :
    (net ≠ unknownNet ∧ (myInverted ∧ net ∉ inverted ∨ ¬ myInverted ∧ net ∉ same)) ↔ ¬ Ends inv a b j := by
  unfold Ends Meets
  rw [← hat]
  by_cases hnet : net = unknownNet
  · simp [hnet, nodeOf_unknownNet]
  rw [nodeOf_of_ne hnet, h.mem_same, h.mem_inverted]
  by_cases heven : Even j
  · simp [hnet, hpolarity.2 heven, odd_add, heven]
    refine forall_congr' fun x => ?_
    rw [← not_odd_iff_even, imp_not_comm]
  · have hfalse : myInverted = false := Bool.eq_false_iff.2 (mt hpolarity.1 heven)
    simp [hnet, hfalse, odd_add, heven]
    refine forall_congr' fun x => ?_
    rw [← not_even_iff_odd, imp_not_comm]

theorem polarity_succ (hpolarity : myInverted = true ↔ Even j) : (!myInverted) = true ↔ Even (j + 1) := by
  rw [even_add_one, ← hpolarity, Bool.not_eq_true', Bool.not_eq_true]

section
variable (h : Complete inv a same inverted) (hat : nodeOf net = steps (inputOf inv) j b) (hpolarity : myInverted = true ↔ Even j)
include h hat hpolarity

/-- The second loop ends at the first place where it stops. -/
theorem Complete.findOppositeNet_eq (hjk : j ≤ k) (hends : Ends inv a b k)
    (hfirst : ∀ m, j ≤ m → m < k → ¬ Ends inv a b m) (hrounds : k - j ≤ rounds) :
    ∃ last, findOppositeNet inv same inverted rounds net myInverted = .ok last ∧ nodeOf last = steps (inputOf inv) k b := by
  have hcontinues := h.continues_iff hat hpolarity
  induction hd : k - j generalizing j net myInverted rounds with
  | zero =>
    obtain rfl : j = k := by omega
    refine ⟨net, ?_, hat⟩
    unfold findOppositeNet
    rw [if_neg fun hc => hcontinues.1 hc hends]
    rfl
  | succ d ih =>
    have hc := hcontinues.2 (hfirst j le_rfl (by omega))
    obtain ⟨rounds, rfl⟩ : ∃ r, rounds = r + 1 := ⟨rounds - 1, by omega⟩
    rw [findOppositeNet, if_pos hc]
    have hat' := nodeOf_inverterNet hat hc.1
    have hpolarity' := polarity_succ hpolarity
    exact ih hat' hpolarity' (by omega) (fun m hm => hfirst m (by omega)) (by omega) (h.continues_iff hat' hpolarity') (by omega)

/-- The second loop goes on for ever if it stops nowhere. -/
theorem Complete.findOppositeNet_endless (hnever : ∀ m, ¬ Ends inv a b m) :
    findOppositeNet inv same inverted rounds net myInverted = .error .endless := by
  induction rounds generalizing j net myInverted with
  | zero => rw [findOppositeNet, if_pos ((h.continues_iff hat hpolarity).2 (hnever j))]
  | succ rounds ih =>
    have hc := (h.continues_iff hat hpolarity).2 (hnever j)
    rw [findOppositeNet, if_pos hc]
    exact ih (nodeOf_inverterNet hat hc.1) (polarity_succ hpolarity)

end

end Walks

namespace LogicNets

variable (nets : LogicNets) {theType : ModelType} {rounds n o : Nat}

/-- Some net is reached from both nets along the inputs of inverters with an odd number of inversions in all. -/
def IsOpposite (a b : Nat) : Prop :=
  ∃ n i j, steps (inputOf nets.inverterNet) i a = some n ∧ steps (inputOf nets.inverterNet) j b = some n ∧ Odd (i + j)

/-- The chain of inverters of a net comes to an end. -/
def ChainEnds (a : Nat) : Prop := ∃ k, steps (inputOf nets.inverterNet) k a = none

/-- The net is the gate of an active device of the type of the check. -/
def HasErrorDevice (theType : ModelType) (net : Nat) : Prop :=
  ∃ device ∈ nets.gates net, nets.sourceNet device ≠ nets.drainNet device ∧
    (theType = .pmos → (nets.deviceType device).isPmos) ∧ (theType = .nmos → (nets.deviceType device).isNmos)

/-- The check ends, and it ends with an error exactly if the nets are not opposite. -/
def Decides (theType : ModelType) (theNetId theOppositeNetId : Nat) : Prop :=
  ∃ rounds result, nets.checkOppositeNets theType rounds theNetId theOppositeNetId = .ok result ∧
    (result.isError = true ↔ ¬ nets.IsOpposite (nets.equivalentNet theNetId) (nets.equivalentNet theOppositeNetId))

variable {nets} {a b : Nat}

theorem exists_ends_iff : (∃ k, Ends nets.inverterNet a b k) ↔ nets.IsOpposite a b ∨ nets.ChainEnds b := by
  constructor
  · rintro ⟨k, hend | ⟨n, i, hi, hk, hodd⟩⟩
    · exact .inr ⟨k, hend⟩
    · exact .inl ⟨n, i, k, hi, hk, hodd⟩
  · rintro (⟨n, i, k, hi, hk, hodd⟩ | ⟨k, hend⟩)
    · exact ⟨k, .inr ⟨n, i, hi, hk, hodd⟩⟩
    · exact ⟨k, .inl hend⟩

theorem isDifferentPower_of_not_isPower (h : nets.isPower a = false) : nets.isDifferentPower a b = false := by
  unfold isPower at h
  unfold isDifferentPower
  split
  case h_1 first second hfirst _ =>
    rw [hfirst] at h
    simp at h
    simp [h]
  case h_2 => rfl

theorem isError_iff : (OppositeResult.error a (nets.oppositeErrors theType a)).isError = true ↔
    nets.HasErrorDevice theType a := by
  have hmem : ∀ device, device ∈ nets.oppositeErrors theType a ↔ device ∈ nets.gates a ∧
    nets.sourceNet device ≠ nets.drainNet device ∧
      (theType = .pmos → (nets.deviceType device).isPmos) ∧ (theType = .nmos → (nets.deviceType device).isNmos) := by
    intro device
    simp [oppositeErrors, and_assoc, imp_iff_not_or]
  unfold HasErrorDevice
  simp only [← hmem]
  cases nets.oppositeErrors theType a with
  | nil => simp [OppositeResult.isError]
  | cons device devices => exact iff_of_true rfl ⟨device, List.mem_cons_self⟩

/-- What the check of two nets comes to when neither is a power. -/
theorem checkOppositeNets_eq (hpower : nets.isPower (nets.equivalentNet n) = false) :
    nets.checkOppositeNets theType rounds n o = (do
      let lists ← collectLogicNets nets.inverterNet rounds (nets.equivalentNet n) false [] []
      let net ← findOppositeNet nets.inverterNet lists.1 lists.2 rounds (nets.equivalentNet o) true
      if net ≠ unknownNet then pure .opposite
      else pure (.error (nets.equivalentNet n) (nets.oppositeErrors theType (nets.equivalentNet n)))) := by
  unfold checkOppositeNets
  simp only [isDifferentPower_of_not_isPower hpower, hpower, Bool.false_eq_true, if_false]

/-- A check that ends has a second loop that ends. -/
theorem exists_ends_of_ok (hodd : NoOddCycle (inputOf nets.inverterNet)) {result : OppositeResult}
    (ha : nets.equivalentNet n ≠ unknownNet) (hb : nets.equivalentNet o ≠ unknownNet)
    (hpower : nets.isPower (nets.equivalentNet n) = false) (hcheck : nets.checkOppositeNets theType rounds n o = .ok result) :
    nets.IsOpposite (nets.equivalentNet n) (nets.equivalentNet o) ∨ nets.ChainEnds (nets.equivalentNet o) := by
  rw [← exists_ends_iff]
  by_contra hnever
  rw [checkOppositeNets_eq hpower] at hcheck
  obtain ⟨lists, hlists, hcheck⟩ := bind_eq_ok.1 hcheck
  obtain ⟨net, hnet, _⟩ := bind_eq_ok.1 hcheck
  have hcomplete := (collecting_start ha).complete_of_ok hodd ha hlists
  rw [hcomplete.findOppositeNet_endless (nodeOf_start hb) (by simp) (not_exists.1 hnever)] at hnet
  nomatch hnet

/-- A check that raises an error found a device for it at the first net. -/
theorem hasErrorDevice_of_isError (hpower : nets.isPower (nets.equivalentNet n) = false) {result : OppositeResult}
    (hcheck : nets.checkOppositeNets theType rounds n o = .ok result) (herror : result.isError = true) :
    nets.HasErrorDevice theType (nets.equivalentNet n) := by
  rw [checkOppositeNets_eq hpower] at hcheck
  obtain ⟨lists, _, hcheck⟩ := bind_eq_ok.1 hcheck
  obtain ⟨net, _, hcheck⟩ := bind_eq_ok.1 hcheck
  split at hcheck
  · cases hcheck
    exact absurd herror Bool.false_ne_true
  · cases hcheck
    exact isError_iff.1 herror

/-- The check of two nets of which the first is not a power, on nets without odd cycles of inverters: it ends, and with an error
exactly if the nets are not opposite, if and only if the nets are opposite, or the chain of the second one comes to an end and the
first one is the gate of an active device of the type of the check. -/
theorem checkOppositeNets_decides_iff (nets : LogicNets) (hodd : NoOddCycle (inputOf nets.inverterNet)) (theType : ModelType)
    (n o : Nat) (hn : n < nets.netCount) (ho : o < nets.netCount) (hpower : nets.isPower (nets.equivalentNet n) = false) :
    nets.Decides theType n o ↔ nets.IsOpposite (nets.equivalentNet n) (nets.equivalentNet o) ∨
      nets.ChainEnds (nets.equivalentNet o) ∧ nets.HasErrorDevice theType (nets.equivalentNet n) := by
  have hnLt := nets.equivalentNet_lt n hn
  have ha : nets.equivalentNet n ≠ unknownNet := Nat.ne_of_lt (hnLt.trans_le nets.netCount_le)
  have hb : nets.equivalentNet o ≠ unknownNet := Nat.ne_of_lt ((nets.equivalentNet_lt o ho).trans_le nets.netCount_le)
  constructor
  · rintro ⟨rounds, result, hcheck, herror⟩
    by_cases hopposite : nets.IsOpposite (nets.equivalentNet n) (nets.equivalentNet o)
    · exact .inl hopposite
    · have hends := (exists_ends_of_ok hodd ha hb hpower hcheck).resolve_left hopposite
      exact .inr ⟨hends, hasErrorDevice_of_isError hpower hcheck (herror.2 hopposite)⟩
  · intro hcondition
    have hends := exists_ends_iff.2 (hcondition.imp_right And.left)
    classical
    obtain ⟨k1, hk1⟩ := by exact exists_repeat (inputOf_closed nets.lt_netCount) (Finset.mem_range.2 hnLt)
    obtain ⟨k2, hk2, hfirst⟩ : ∃ k, Ends nets.inverterNet (nets.equivalentNet n) (nets.equivalentNet o) k ∧
        ∀ m < k, ¬ Ends nets.inverterNet (nets.equivalentNet n) (nets.equivalentNet o) m :=
      ⟨.find hends, Nat.find_spec hends, fun _ => Nat.find_min hends⟩
    obtain ⟨same, inverted, hlists, hcomplete⟩ : ∃ same inverted,
        collectLogicNets nets.inverterNet (max k1 k2) (nets.equivalentNet n) false [] [] = .ok (same, inverted) ∧
          Complete nets.inverterNet (nets.equivalentNet n) same inverted :=
      (collecting_start ha).collectLogicNets_eq hodd ha (zero_le _) hk1 (by omega)
    obtain ⟨last, hlast, hat'⟩ : ∃ last,
        findOppositeNet nets.inverterNet same inverted (max k1 k2) (nets.equivalentNet o) true = .ok last ∧
          nodeOf last = steps (inputOf nets.inverterNet) k2 (nets.equivalentNet o) :=
      hcomplete.findOppositeNet_eq (nodeOf_start hb) (by simp) (zero_le _) hk2 (fun m _ => hfirst m) (by omega)
    have hcheck : nets.checkOppositeNets theType (max k1 k2) n o = if last ≠ unknownNet then pure .opposite
        else pure (.error (nets.equivalentNet n) (nets.oppositeErrors theType (nets.equivalentNet n))) := by
      rw [checkOppositeNets_eq hpower, hlists]
      show (findOppositeNet nets.inverterNet same inverted (max k1 k2) (nets.equivalentNet o) true >>= _) = _
      rw [hlast]
      rfl
    by_cases hunknown : last = unknownNet
    · rw [hunknown, nodeOf_unknownNet] at hat'
      rw [if_neg (not_not.2 hunknown)] at hcheck
      have hopposite : ¬ nets.IsOpposite (nets.equivalentNet n) (nets.equivalentNet o) := by
        -- the nets would meet before the end of the chain
        rintro ⟨x, i, j, hi, hj, hij⟩
        have hlt : j < k2 := Nat.lt_of_not_le fun hle => by
          rw [steps_eq_none_of_le hat'.symm hle] at hj
          cases hj
        exact hfirst j hlt (.inr ⟨x, i, hi, hj, hij⟩)
      exact ⟨max k1 k2, _, hcheck, iff_of_true (isError_iff.2 (hcondition.resolve_left hopposite).2) hopposite⟩
    · rw [nodeOf_of_ne hunknown] at hat'
      rw [if_pos hunknown] at hcheck
      refine ⟨max k1 k2, _, hcheck, iff_of_false Bool.false_ne_true (not_not.2 ?_)⟩
      rcases hk2 with hend | ⟨x, i, hi, hj, hij⟩
      · rw [hend] at hat'
        cases hat'
      · exact ⟨x, i, k2, hi, hj, hij⟩

end LogicNets

/-- Two cross-coupled inverters and a net without an inverter that is the gate of a transistor. -/
def crossCoupled : LogicNets where
  netCount := 3
  isMaster _ := true
  inverterNet net := if net = 0 then 1 else if net = 1 then 0 else unknownNet
  master _ _ := rfl
  lt_netCount net h := by
    rcases net with _ | _ | net
    · decide
    · decide
    · exact absurd rfl h
  netCount_le := by decide
  equivalentNet net := net
  equivalentNet_lt _ h := h
  netVoltagePtr _ := none
  gates net := if net = 2 then [0] else []
  deviceType _ := .nmos
  sourceNet _ := 0
  drainNet _ := 1

theorem crossCoupled_noOddCycle : NoOddCycle (inputOf crossCoupled.inverterNet) := by
  refine @noOddCycle_of_coloring _ _ (fun net => net == 0) fun x y h => ?_
  rcases x with _ | _ | x
  · cases h
    rfl
  · cases h
    rfl
  · exact nomatch h

theorem crossCoupled_steps (k : Nat) : ∀ net < 2, ∃ n < 2, steps (inputOf crossCoupled.inverterNet) k net = some n := by
  induction k with
  | zero => exact fun net h => ⟨net, h, rfl⟩
  | succ k ih =>
    intro net h
    rcases net with _ | _ | net
    · exact ih 1 (by decide)
    · exact ih 0 (by decide)
    · omega

/-- The two sides of the pair are opposite, and the check finds it. -/
theorem crossCoupled_decides : NoOddCycle (inputOf crossCoupled.inverterNet) ∧ crossCoupled.Decides .nmos 0 1 :=
  ⟨crossCoupled_noOddCycle, (LogicNets.checkOppositeNets_decides_iff crossCoupled crossCoupled_noOddCycle .nmos 0 1 (by decide)
    (by decide) rfl).2 (.inl ⟨1, 1, 0, rfl, rfl, by decide⟩)⟩

/-- The check of the net without an inverter against a side of the pair goes on for ever. -/
theorem crossCoupled_not_decides : NoOddCycle (inputOf crossCoupled.inverterNet) ∧ crossCoupled.isPower 2 = false ∧
    crossCoupled.isPower 0 = false ∧ crossCoupled.HasErrorDevice .nmos 2 ∧
    (∀ rounds result, crossCoupled.checkOppositeNets .nmos rounds 2 0 ≠ .ok result) ∧
    ¬ crossCoupled.Decides .nmos 2 0 := by
  have hnever : ∀ rounds result, crossCoupled.checkOppositeNets .nmos rounds 2 0 ≠ .ok result := by
    intro rounds result hcheck
    have hends := LogicNets.exists_ends_of_ok crossCoupled_noOddCycle (by decide) (by decide) rfl hcheck
    rcases hends with ⟨n, i, j, hi, hj, _⟩ | ⟨k, hk⟩
    · have hn : n = 2 := eq_of_steps (.inl rfl) hi
      obtain ⟨n', hlt, hj'⟩ := crossCoupled_steps j 0 (by decide)
      have : n' = n := Option.some.inj (hj'.symm.trans hj)
      omega
    · obtain ⟨n, _, hn⟩ := crossCoupled_steps k 0 (by decide)
      nomatch hn.symm.trans hk
  refine ⟨crossCoupled_noOddCycle, rfl, rfl, ⟨0, List.mem_cons_self, by decide⟩, hnever, ?_⟩
  rintro ⟨rounds, result, hcheck, _⟩
  exact hnever rounds result hcheck

end Cvc
