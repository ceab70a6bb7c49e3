import Cvc.Lemmas.EstimateFlags
import Cvc.Netlist

/-!
# Resistances that overflow

`AddResistance` cuts a sum of resistances at `MAX_RESISTANCE`, and `CheckResistorOverflow_` reports a net whose chain was cut. The
read of such a net stops the program: `operator()` asserts that the resistance is below the very value it is cut at. The
resistance behind a transistor connected as a diode is a product of 32-bit numbers that is not cut, and is taken modulo `2 ^ 32`.
-/

namespace Cvc

open Forest Program Option CVirtualNet Nat

/-- `CheckResistorOverflow_`: the resistance of a net is reported. -/
def checkResistorOverflow (theResistance : Nat) : Bool := theResistance == maxResistance

theorem checkResistorOverflow_min {r : Nat} : checkResistorOverflow (min maxResistance r) = true ↔ maxResistance ≤ r := by
  unfold checkResistorOverflow
  rw [beq_iff_eq]
  omega

namespace CVirtualNetVector

variable {v v' : CVirtualNetVector} {n m k r f : Nat} {t : Int} {p q : List Nat}

/-! ## Chains of any length -/

/-- The loop of the code fails on a chain with more links than it counts. -/
theorem walkLinks_eq_none (hp : Chain v.next n p) : ∀ (k r : Nat), k + 1 < p.length → v.walkLinks k n r = none := by
  induction hp with
  | root h => intro k r hk; simp at hk
  | @link a p h hp ih =>
    intro k r hk
    unfold walkLinks
    rw [if_neg (Ne.symm h)]
    cases k with
    | zero => rfl
    | succ k =>
      rw [List.length_cons] at hk
      exact ih k _ (by omega)

/-- A read of a net with an allocated update array returns the cut sum of its chain, if the sum was not cut. -/
theorem operatorCall_resistance (hp : Chain v.next n p) (hlen : p.length ≤ 5021) (hn : n < v.size) (halloc : 0 < v.lastUpdateSize)
    (hcache : v.lastUpdate ≤ v.lastUpdateV n → v.WalksTo n (v.net n).finalNetId (v.net n).finalResistance) :
    (operatorCall v n).map (·.1.finalResistance) =
      if (p.map v.linkResistance).sum < maxResistance then some (p.map v.linkResistance).sum else none := by
  have hne : n ≠ unknownNet := Nat.ne_of_lt (Nat.lt_of_lt_of_le hn v.size_le)
  have hlast := List.getLast?_eq_getLast_of_ne_nil hp.ne_nil
  have hwalk := walkLinks_eq_of_chain hp hlen hlast
  unfold operatorCall
  rw [if_neg hne]
  by_cases hold : v.lastUpdateV n < v.lastUpdate
  · by_cases hmax : (p.map v.linkResistance).sum < maxResistance
    · simp [halloc, hold, hwalk, le_of_lt hmax]
    · simp [halloc, hold, hwalk, hmax, min_eq_left (not_lt.1 hmax)]
  · obtain ⟨-, hresistance⟩ := (hcache (Int.not_lt.1 hold)).unique ⟨p, hp, hlast, rfl⟩
    by_cases hmax : (p.map v.linkResistance).sum < maxResistance
    · simp [hold, hresistance, le_of_lt hmax]
    · simp [hold, hresistance, hmax, min_eq_left (not_lt.1 hmax)]

/-- A sequence of reads. -/
def readAll (v : CVirtualNetVector) : List Nat → Option CVirtualNetVector
  | [] => some v
  | n :: nets => (CVirtualNet.operatorCall v n).bind fun (_, v') => readAll v' nets

/-- Reads do not change what a read returns. -/
theorem operatorCall_of_readAll {nets : List Nat} (h : v.readAll nets = some v') (m : Nat) :
    (operatorCall v' m).map Prod.fst = (operatorCall v m).map Prod.fst := by
  induction nets generalizing v with
  | nil =>
    obtain rfl : v = v' := some.inj h
    rfl
  | cons n nets ih =>
    obtain ⟨⟨net, v1⟩, hread, hrest⟩ := bind_eq_some_iff.1 h
    exact (ih hrest).trans (operatorCall_of_read hread m)

/-! ## A link set on a chain -/

/-- A `Set` that is carried out makes a chain `p` that stays in the table, with the update array allocated: the nets of the chain
with a stamp as late as the time of the call have the right end in their cache. -/
structure Links (v : CVirtualNetVector) (n k r : Nat) (t : Int) (p : List Nat) : Prop where
  linksBack_eq : v.linksBack n k = false
  allocated : 0 < v.lastUpdateSize
  chain : Chain (v.link n k r).next n p
  mem_lt : ∀ m ∈ p, m < v.size
  cached : ∀ m ∈ p, m ≠ n → t ≤ v.lastUpdateV m → (v.link n k r).WalksTo m (v.net m).finalNetId (v.net m).finalResistance

/-- The resistance of the chain `q` once the link is set. -/
def resistanceAlong (v : CVirtualNetVector) (n k r : Nat) (q : List Nat) : Nat := (q.map (v.link n k r).linkResistance).sum

/-- The call of `Set` returns with the cut resistance of the chain, an overflow is reported, and a read of the net `m` after any
number of other reads returns the cut resistance of its own chain `q`. -/
def Saturates (v : CVirtualNetVector) (n k r : Nat) (t : Int) (p : List Nat) (m : Nat) (q : List Nat) : Prop :=
  ∃ v', v.set n k r t = some v' ∧ (v'.net n).finalResistance = min maxResistance (v.resistanceAlong n k r p) ∧
    (checkResistorOverflow (v'.net n).finalResistance = true ↔ maxResistance ≤ v.resistanceAlong n k r p) ∧
    ∀ nets v'', v'.readAll nets = some v'' →
      (CVirtualNet.operatorCall v'' m).map (·.1.finalResistance) = some (min maxResistance (v.resistanceAlong n k r q))

namespace Links

variable (h : v.Links n k r t p)
include h

theorem next_ne_unknownNet : (v.link n k r).next n ≠ unknownNet := by
  have hlt : (v.link n k r).next n < v.size := by
    rcases h.chain.eq_or with ⟨hroot, -⟩ | ⟨-, q, rfl, hq⟩
    · rw [hroot]
      exact h.mem_lt n h.chain.head_mem
    · exact h.mem_lt _ (List.mem_cons_of_mem n hq.head_mem)
  exact Nat.ne_of_lt (Nat.lt_of_lt_of_le hlt v.size_le)

theorem set_eq : v.set n k r t = ((v.link n k r).walkLinks maxLinkCount n 0).map fun (f, R) =>
    { (v.link n k r).storeFinal n f R t with lastUpdate := t } := by
  unfold CVirtualNetVector.set
  simp only [h.linksBack_eq, h.next_ne_unknownNet]
  cases (v.link n k r).walkLinks maxLinkCount n 0 <;> rfl

/-- A chain that is too long stops the program. -/
theorem set_eq_none (hlen : 5021 < p.length) : v.set n k r t = none := by
  rw [h.set_eq, walkLinks_eq_none h.chain maxLinkCount 0 (by unfold maxLinkCount; omega)]
  rfl

/-- The table after the link is set. -/
theorem set_eq_some (hlen : p.length ≤ 5021) :
    ∃ v', v.set n k r t = some v' ∧ v'.size = v.size ∧ v'.lastUpdateSize = v.lastUpdateSize ∧ v'.next = (v.link n k r).next ∧
      v'.linkResistance = (v.link n k r).linkResistance ∧
        (v'.net n).finalResistance = min maxResistance (v.resistanceAlong n k r p) ∧
      ∀ m ∈ p, v'.lastUpdate ≤ v'.lastUpdateV m → v'.WalksTo m (v'.net m).finalNetId (v'.net m).finalResistance := by
  have hlast := List.getLast?_eq_getLast_of_ne_nil h.chain.ne_nil
  have hnext := fun f R => next_storeFinal (v.link n k r) n f R t
  have hresistance := fun f R => linkResistance_storeFinal (v.link n k r) n f R t
  rw [h.set_eq, walkLinks_eq_of_chain h.chain hlen hlast]
  refine ⟨_, rfl, rfl, rfl, hnext _ _, hresistance _ _, ?_, ?_⟩
  · simp [CVirtualNetVector.storeFinal, resistanceAlong]
  · intro m hm hstamp
    refine .of_links (v := v.link n k r) ?_ (hnext _ _) (hresistance _ _)
    by_cases hmn : m = n
    · subst hmn
      simp only [CVirtualNetVector.storeFinal, Function.update_self]
      exact ⟨p, h.chain, hlast, rfl⟩
    · simp only [CVirtualNetVector.storeFinal, Function.update_of_ne hmn] at hstamp ⊢
      rw [net_link_of_ne v k r hmn]
      exact h.cached m hm hmn hstamp

/-- A call of `Set` saturates for a net exactly if its own chain was not cut and the walk is not too long. -/
theorem saturates_iff (hm : m ∈ p) (hq : Chain (v.link n k r).next m q) :
    v.Saturates n k r t p m q ↔ p.length ≤ 5021 ∧ v.resistanceAlong n k r q < maxResistance := by
  constructor
  · rintro ⟨v', hset, -, -, hread⟩
    have hlen : p.length ≤ 5021 := by
      by_contra hlong
      rw [h.set_eq_none (by omega)] at hset
      cases hset
    refine ⟨hlen, ?_⟩
    obtain ⟨_, hset', hsize, halloc, hnext, hresistance, -, hcached⟩ := h.set_eq_some hlen
    obtain rfl := some.inj (hset.symm.trans hset')
    obtain ⟨q', hq', hc⟩ := h.chain.tail_of_mem hm
    obtain rfl := hq.unique hc
    have hcall := hread [] v' rfl
    rw [operatorCall_resistance (hnext ▸ hq) (le_trans hq'.length_le hlen) (hsize ▸ h.mem_lt m hm)
      (halloc ▸ h.allocated) (hcached m hm)]
      at hcall
    by_contra hmax
    rw [if_neg (by rwa [hresistance])] at hcall
    cases hcall
  · rintro ⟨hlen, hmax⟩
    obtain ⟨v', hset, hsize, halloc, hnext, hresistance, hfinal, hcached⟩ := h.set_eq_some hlen
    refine ⟨v', hset, hfinal, hfinal ▸ checkResistorOverflow_min, fun nets v'' hreads => ?_⟩
    obtain ⟨q', hq', hc⟩ := h.chain.tail_of_mem hm
    obtain rfl := hq.unique hc
    have hcall := operatorCall_resistance (hnext ▸ hq) (le_trans hq'.length_le hlen) (hsize ▸ h.mem_lt m hm)
      (halloc ▸ h.allocated)
      (hcached m hm)
    have hsame := congrArg (Option.map finalResistance) (operatorCall_of_readAll hreads m)
    rw [map_map, map_map] at hsame
    refine hsame.trans (hcall.trans ?_)
    rw [hresistance]
    exact (if_pos hmax).trans (by rw [min_eq_right (le_of_lt hmax)]; rfl)

end Links
end CVirtualNetVector

/-! ## Transistors connected as diodes -/

/-- A sum with a 32-bit number is not below it exactly if it does not wrap. -/
theorem le_uint32_add_iff {R x : Nat} (hR : R < 2 ^ 32) : R ≤ uint32 (x + R) ↔ x % 2 ^ 32 + R < 2 ^ 32 := by
  unfold uint32
  omega

namespace FlatCircuit

variable {c : FlatCircuit} {s : NetState} {q : EventQueueType} {n d : Nat} {Q : Unit → NetState → Prop}

/-- The calculated sim voltage of a net lies between its leak voltages. -/
def limitToLeak (myMaxSlaveVoltage myMinSlaveVoltage theShortVoltage : Int) : Int :=
  let theShortVoltage :=
    if myMaxSlaveVoltage ≠ unknownVoltage ∧ myMaxSlaveVoltage < theShortVoltage then myMaxSlaveVoltage else theShortVoltage
  if myMinSlaveVoltage ≠ unknownVoltage ∧ myMinSlaveVoltage > theShortVoltage then myMinSlaveVoltage else theShortVoltage

/-- The places at which the resistance of a transistor connected as a diode is stored, for a net and a queue: the sim voltage
calculated by `ShortSimNets`, with the final resistance of the master net, and the min and max estimates of
`EnqueueAttachedDevicesByTerminal`. -/
inductive StoresDiode (c : FlatCircuit) (theDeviceId : Nat) : NetState → NetState → EventQueueType → Nat → Nat → Prop where
  | sim {s s' : NetState} {theConnections : CConnection} {theDirection : ShortDirection}
      {theShortVoltage maxVoltage minVoltage : Int}
    (isMos : (c.deviceType theDeviceId).isMos = true) (gate : theConnections.gateId = theConnections.slaveId theDirection)
    (max : c.leakVoltage? s .maxQueue (theConnections.slaveId theDirection) = some maxVoltage)
    (min : c.leakVoltage? s .minQueue (theConnections.slaveId theDirection) = some minVoltage)
    (calculated : limitToLeak maxVoltage minVoltage theShortVoltage ≠ theConnections.masterVoltage theDirection)
    (run : c.shortSimNetsLinks theDeviceId theConnections theDirection theShortVoltage s = .ok ⟨⟩ s') :
    StoresDiode c theDeviceId s s' .simQueue (theConnections.slaveId theDirection)
      ((s.virtualNet .simQueue).net (theConnections.masterId theDirection)).finalResistance
  | estimate (side : EstimateSide) {s s' : NetState} {myEventKey : Int} {myDrainNetId mySourceNetId : Nat}
    (run : c.estimateVoltage theDeviceId side myEventKey myDrainNetId mySourceNetId unknownVoltage s = .ok ⟨⟩ s') :
    StoresDiode c theDeviceId s s' side.queue myDrainNetId 0

theorem wp_setLink_self {r : Nat} {E : NetFailure → NetState → Prop} (hQ : ∀ t, (t.virtualNet q).linkResistance n = r → Q ⟨⟩ t) :
    wp (setLink q n n r) Q E s := by
  obtain ⟨v, hset, hresistance⟩ := setLink_self q n r s
  refine wp_of_eq_ok hset (hQ _ ?_)
  simp only [NetState.setVirtualNet, Function.update_self]
  exact hresistance

/-- A calculated voltage changes no virtual net. -/
theorem wp_calculatePower {v : Int} {m : Nat}
    (hQ : ∀ t, t.virtualNet = s.virtualNet → Q ⟨⟩ t) : wp (c.calculatePower q v n m) Q (fun _ _ => True) s := by
  have hensure : (s.ensurePower n).virtualNet = s.virtualNet := by
    unfold NetState.ensurePower
    split <;> rfl
  have hinherit : ∀ p default, ((s.ensurePower n).inheritPower p default).virtualNet = s.virtualNet := by
    intro p default
    cases default <;> exact hensure
  unfold wp calculatePower
  simp only
  cases (s.ensurePower n).netVoltagePtr n with
  | none => trivial
  | some p =>
    simp only
    split
    case h_1 _ t h =>
      split at h
      · cases h
      · cases h
        exact hQ _ (hinherit p _)
    case h_2 => trivial

theorem virtualNet_addDependency (side : EstimateSide) (n m : Nat) (s : NetState) :
    (side.addDependency n m s).virtualNet = s.virtualNet := by
  cases side <;> rfl

/-- The resistance that an estimate stores. -/
theorem wp_estimateVoltage_resistance (side : EstimateSide) (d : Nat) (key : Int) (n m : Nat) (s : NetState) :
    wp (c.estimateVoltage d side key n m unknownVoltage)
      (fun _ t => (t.virtualNet side.queue).linkResistance n = uint32 (c.resistance d * 100)) (fun _ _ => True) s := by
  refine wp_bind.2 (wp_leakVoltage (fun leak _ => ?_) fun _ _ => trivial)
  refine wp_bind.2 (wp_calculatePower fun t _ => wp_bind.2 (wp.of_forall (fun _ t _ => ?_) fun _ _ _ => trivial))
  refine wp_bind.2 (wp_setLink_self fun t ht => wp_bind.2 (wp_read.2 (wp_ite (fun _ => ht) fun _ => wp_bind.2 ?_)))
  simp only [id_eq]
  cases t.netVoltagePtr n with
  | none => trivial
  | some p =>
    refine wp_of_eq_ok rfl (wp_ite (fun _ => ht) fun _ => wp_update.2 ?_)
    split
    · rw [virtualNet_addDependency]
      exact ht
    · exact ht

/-- The resistance that the sim voltage of a diode stores. -/
theorem wp_shortSimNetsLinks_resistance {conn : CConnection} {dir : ShortDirection} {V maxV minV : Int}
    (hmos : (c.deviceType d).isMos = true) (hgate : conn.gateId = conn.slaveId dir)
    (hmax : c.leakVoltage? s .maxQueue (conn.slaveId dir) = some maxV)
      (hmin : c.leakVoltage? s .minQueue (conn.slaveId dir) = some minV)
    (hne : limitToLeak maxV minV V ≠ conn.masterVoltage dir) : wp (c.shortSimNetsLinks d conn dir V)
      (fun _ t => (t.virtualNet .simQueue).linkResistance (conn.slaveId dir) =
        uint32 (c.resistance d * 100 + ((s.virtualNet .simQueue).net (conn.masterId dir)).finalResistance))
          (fun _ _ => True) s := by
  have hresistor : (c.deviceType d == .resistor) = false := by
    cases htype : c.deviceType d <;> first | rfl | (rw [htype] at hmos; cases hmos)
  refine wp_bind.2 (wp_leakVoltage (fun v hv => ?_) fun _ _ => trivial)
  obtain rfl := some.inj (hmax.symm.trans hv)
  refine wp_bind.2 (wp_leakVoltage (fun v hv => ?_) fun _ _ => trivial)
  obtain rfl := some.inj (hmin.symm.trans hv)
  refine wp_ite (fun heq => absurd heq hne) fun _ => wp_bind.2 (wp_calculatePower fun t ht => ?_)
  refine wp_ite (fun _ => ?_) fun hnot => absurd (by rw [hmos, hgate, beq_self_eq_true]; rfl) hnot
  refine wp_bind.2 (wp_bind.2 (wp_read.2 (wp_setLink_self fun t' ht' => ?_)))
  rw [hresistor]
  exact ht'.trans (by rw [ht])

/-- The stored resistance. -/
theorem StoresDiode.linkResistance_eq {F : Nat} {s' : NetState} (h : c.StoresDiode d s s' q n F) :
    (s'.virtualNet q).linkResistance n = uint32 (c.resistance d * 100 + F) := by
  cases h with
  | sim hmos hgate hmax hmin hne hrun => exact (wp_shortSimNetsLinks_resistance hmos hgate hmax hmin hne).of_ok hrun
  | estimate side hrun =>
    rw [add_zero]
    exact (wp_estimateVoltage_resistance side _ _ _ _ _).of_ok hrun

/-- An overflow is reported and the nets of the chain can be read exactly as far as their own resistance was not cut, and the
resistance of a diode is at least that of its device exactly if the 32-bit sum does not wrap. -/
theorem resistance_overflow_iff (c : FlatCircuit) :
    (∀ (v : CVirtualNetVector) (n k r m : Nat) (t : Int) (p q : List Nat), v.Links n k r t p → m ∈ p →
      Chain (v.link n k r).next m q →
      (v.Saturates n k r t p m q ↔ p.length ≤ 5021 ∧ v.resistanceAlong n k r q < maxResistance)) ∧
    ∀ (theDeviceId theNetId F : Nat) (s s' : NetState) (queue : EventQueueType), c.StoresDiode theDeviceId s s' queue theNetId F →
      c.resistance theDeviceId < 2 ^ 32 → (c.resistance theDeviceId ≤ (s'.virtualNet queue).linkResistance theNetId ↔
        (c.resistance theDeviceId * 99 + F) % 2 ^ 32 + c.resistance theDeviceId < 2 ^ 32) := by
  refine ⟨fun v n k r m t p q hlinks hm hq => hlinks.saturates_iff hm hq, fun d n F s s' queue hstores hR => ?_⟩
  have hsplit : c.resistance d * 100 + F = c.resistance d * 99 + F + c.resistance d := by omega
  rw [hstores.linkResistance_eq, hsplit]
  exact le_uint32_add_iff hR

/-! ### Two resistors of 600 MΩ in a row, and a transistor of 43 MΩ -/

/-- The net 1 is linked to the power net 0. -/
def highOhmTable : CVirtualNetVector :=
  { CVirtualNetVector.selfLinked 3 with
    net := fun n => if n = 1 then ⟨0, 600000000, 0, 600000000⟩ else ⟨n, 0, n, 0⟩
    lastUpdate := 1
    lastUpdateV := fun n => if n = 1 then 1 else 0 }

def highOhmDevices : List FlatDevice :=
    [{ type := .nmos, source := 0, gate := 1, drain := 1, vth := 400, resistance := 42949673 }]

def highOhmCircuit : FlatCircuit := .ofDevices 2 highOhmDevices (by decide) false false

def highOhmState : NetState :=
  .ofPowers 2 highOhmDevices [{ netId := 0, minVoltage := 1000, simVoltage := 1000, maxVoltage := 1000 }]

theorem highOhm_links : highOhmTable.Links 2 1 600000000 1 [2, 1, 0] := by
  have h1 : Chain (highOhmTable.link 2 1 600000000).next 1 [1, 0] := .link (by decide) (.root (by decide))
  refine ⟨by decide, by decide, .link (by decide) h1, by decide, ?_⟩
  intro m hm hne hstamp
  have hm1 : m = 1 := by
    rcases List.mem_cons.1 hm with rfl | hm
    · exact absurd rfl hne
    rcases List.mem_cons.1 hm with rfl | hm
    · rfl
    obtain rfl := List.mem_singleton.1 hm
    exact absurd hstamp (by decide)
  subst hm1
  exact ⟨[1, 0], h1, rfl, by decide⟩

/-- The estimate of the max voltage behind the transistor, in the min queue, stores `4294967300 % 2 ^ 32`. -/
theorem highOhm_stored : ∃ s', highOhmCircuit.estimateVoltage 0 .max 1400 1 0 unknownVoltage highOhmState = .ok ⟨⟩ s' ∧
    (s'.virtualNet .maxQueue).linkResistance 1 = 4 := by
  have hrun : (match highOhmCircuit.estimateVoltage 0 .max 1400 1 0 unknownVoltage highOhmState with
      | .ok _ s' => some ((s'.virtualNet .maxQueue).linkResistance 1)
      | .error _ _ => none) = some 4 := by decide +kernel
  split at hrun
  case h_1 _ s' h => exact ⟨s', h, some.inj hrun⟩
  case h_2 => cases hrun

/-- The net 1 can be read and the net 2 cannot, and the resistance of the diode has wrapped. -/
theorem highOhm_overflow_iff :
    highOhmTable.Saturates 2 1 600000000 1 [2, 1, 0] 1 [1, 0] ∧ ¬ highOhmTable.Saturates 2 1 600000000 1 [2, 1, 0] 2 [2, 1, 0] ∧
    ∃ s', highOhmCircuit.StoresDiode 0 highOhmState s' .maxQueue 1 0 ∧
      ¬ highOhmCircuit.resistance 0 ≤ (s'.virtualNet .maxQueue).linkResistance 1 := by
  obtain ⟨s', hrun, -⟩ := highOhm_stored
  obtain ⟨hsaturates, hdiode⟩ := resistance_overflow_iff highOhmCircuit
  have h1 : Chain (highOhmTable.link 2 1 600000000).next 1 [1, 0] := .link (by decide) (.root (by decide))
  refine ⟨(hsaturates _ _ _ _ _ _ _ _ highOhm_links (by decide) h1).2 (by decide), fun h => ?_, s',
    .estimate .max hrun, fun h => ?_⟩
  · exact absurd ((hsaturates _ _ _ _ _ _ _ _ highOhm_links (by decide) highOhm_links.chain).1 h) (by decide)
  · exact absurd ((hdiode _ _ _ _ _ _ (.estimate .max hrun) (by decide)).1 h) (by decide)

/-- The overflow at the net 2 is reported, the next read of the net stops the program, and the diode has 4 Ω. -/
theorem highOhm_fatal :
    (∃ v', highOhmTable.set 2 1 600000000 1 = some v' ∧ checkResistorOverflow (v'.net 2).finalResistance = true ∧
      operatorCall v' 2 = none) ∧
    ∃ s', highOhmCircuit.estimateVoltage 0 .max 1400 1 0 unknownVoltage highOhmState = .ok ⟨⟩ s' ∧
      (s'.virtualNet .maxQueue).linkResistance 1 < highOhmCircuit.resistance 0 := by
  constructor
  · have hset : (highOhmTable.set 2 1 600000000 1).map (fun v' =>
        (checkResistorOverflow (v'.net 2).finalResistance, (operatorCall v' 2).isNone)) = some (true, true) := by
      decide +kernel
    obtain ⟨v', hv', hreads⟩ := map_eq_some_iff.1 hset
    obtain ⟨hreport, hread⟩ := Prod.mk.inj hreads
    exact ⟨v', hv', hreport, isNone_iff_eq_none.1 hread⟩
  · obtain ⟨s', hrun, hstored⟩ := highOhm_stored
    exact ⟨s', hrun, by rw [hstored]; decide⟩

end FlatCircuit
end Cvc
