import Cvc.Lemmas.VirtualNet
import Cvc.TrivialInverter

/-!
# What the inverters change

A round of `SetTrivialMinMaxPower` changes the links of its net and the inactive bits of the two transistors of its inverter, if
it finds one. No round changes what another one finds: the transistors of an inverter lie between its net and a power with a known
voltage, and a net with such a power is passed over. So the whole loop does what its rounds do to the first state.
-/

namespace Cvc

open Program CVirtualNetVector Function

variable {q : EventQueueType} {s : NetState}

namespace CVirtualNetVector

variable {v v' : CVirtualNetVector} {n k r : Nat} {t : Int}

/-- The link of a net and its resistance. -/
def linkOf (v : CVirtualNetVector) (n : Nat) : Nat × Nat := (v.next n, v.linkResistance n)

theorem linkOf_storeFinal (f R : Nat) (t : Int) : (v.storeFinal n f R t).linkOf = v.linkOf := by
  unfold linkOf
  simp

/-- `Set` changes the link of one net, unless the net it links to links back. -/
theorem linkOf_set (h : v.set n k r t = some v') (m : Nat) :
    v'.linkOf m = if m = n ∧ v.linksBack n k = false then (k, r) else v.linkOf m := by
  rcases set_cases h with ⟨hback, rfl⟩ | ⟨hback, f, R, rfl⟩
  · simp [hback]
  · refine (congrFun (linkOf_storeFinal f R t) m).trans ?_
    by_cases hm : m = n <;> simp [linkOf, next_link, linkResistance_link, hm, hback]

theorem linksBack_congr (h : v'.linkOf k = v.linkOf k) : v'.linksBack n k = v.linksBack n k := by
  unfold linksBack
  rw [show v'.next k = v.next k from congrArg Prod.fst h]

end CVirtualNetVector

/-! ## The nets -/

namespace NetState

/-- A state with new links, and with other caches. -/
structure Links (new : EventQueueType → Nat → Option (Nat × Nat)) (s t : NetState) : Prop where
  frame : t = { s with virtualNet := t.virtualNet }
  link : ∀ queue k, (t.virtualNet queue).linkOf k = (new queue k).getD ((s.virtualNet queue).linkOf k)

theorem Links.trans {new new' : EventQueueType → Nat → Option (Nat × Nat)} {s t u : NetState} (h : Links new s t)
    (h' : Links new' t u) : Links (fun queue k => (new' queue k).or (new queue k)) s u where
  frame := h'.frame.trans (by rw [h.frame])
  link queue k := by
    rw [h'.link, h.link]
    cases new' queue k <;> rfl

end NetState

open NetState (Links)

theorem wp_virtualNetAt_links {n : Nat} : wp (virtualNetAt q n) (fun _ t => Links (fun _ _ => none) s t) (fun _ _ => True) s := by
  unfold wp virtualNetAt
  cases hcall : CVirtualNet.operatorCall (s.virtualNet q) n with
  | none => trivial
  | some r =>
    obtain ⟨net, v⟩ := r
    have hlink : v.linkOf = (s.virtualNet q).linkOf := by
      rcases operatorCall_cases hcall with rfl | ⟨f, R, rfl⟩
      · rfl
      · exact linkOf_storeFinal f R _
    refine ⟨rfl, fun queue k => ?_⟩
    by_cases hq : queue = q <;> simp [NetState.setVirtualNet, hq, hlink]

/-- Setting a link changes the link of one net in one queue at most. -/
theorem wp_setLinkAt {n k r : Nat} {time : Int} : wp (setLinkAt q n k r time) (fun _ t => Links (fun queue m =>
      if queue = q ∧ m = n ∧ (s.virtualNet q).linksBack n k = false then some (k, r) else none) s t) (fun _ _ => True) s := by
  unfold wp setLinkAt
  cases hset : (s.virtualNet q).set n k r time with
  | none => trivial
  | some v =>
    refine ⟨rfl, fun queue m => ?_⟩
    by_cases hq : queue = q
    · subst hq
      simp only [NetState.setVirtualNet, update_self, linkOf_set hset]
      split_ifs <;> simp_all
    · simp [NetState.setVirtualNet, hq]

/-- The power that an inverter links its net to in the vector of a queue, and the transistor between them. -/
def TrivialInverter.target (i : TrivialInverter) : EventQueueType → Option (Nat × Nat)
  | .minQueue => some (i.groundNet, i.nmos)
  | .maxQueue => some (i.powerNet, i.pmos)
  | .simQueue => none

namespace FlatCircuit

variable {c : FlatCircuit} {n d : Nat} {s : NetState}

/-- The nets of a device are those of the circuit. -/
theorem wp_mapDeviceNets_links {q : EventQueueType} :
    wp (c.mapDeviceNets q d) (fun net t => Links (fun _ _ => none) s t ∧ net.gateId = c.gateNet d ∧
      net.resistance = c.resistance d ∧ otherNet net = c.otherSide d) (fun _ _ => True) s := by
  refine wp_virtualNetAt_links.bind fun _ t1 h1 => ?_
  refine wp_virtualNetAt_links.bind fun _ t2 h2 => ?_
  refine wp_virtualNetAt_links.bind fun _ t3 h3 => ?_
  refine wp_virtualNetAt_links.bind fun _ t4 h4 => ?_
  exact wp_read.2 ⟨((h1.trans h2).trans h3).trans h4, rfl, rfl, rfl⟩

variable (c) in
/-- The link that an inverter gives its net in the vector of a queue. A net that links back to this one gives no link. -/
def linkBy (s : NetState) (n : Nat) (i : TrivialInverter) (queue : EventQueueType) : Option (Nat × Nat) :=
  (i.target queue).bind fun target =>
    if (s.virtualNet queue).linksBack n target.1 then none else some (target.1, c.resistance target.2)

variable (c) in
/-- The transistors are an inverter of a net between two powers. -/
structure Inverts (s : NetState) (n nmos pmos groundNet powerNet : Nat) : Prop where
  ground : c.otherSide nmos n = some groundNet
  power : c.otherSide pmos n = some powerNet
  gate_ne : c.gateNet nmos ≠ n
  gate_eq : c.gateNet pmos = c.gateNet nmos
  powers : isTrivialPower s groundNet powerNet = true

theorem isTrivialPower_of_frame {t : NetState} (h : t = { s with virtualNet := t.virtualNet }) :
    isTrivialPower t = isTrivialPower s := by
  rw [h]
  rfl

/-- The links of an inverter are set, or there is no inverter. -/
theorem wp_linkTrivialNet {nmos pmos : Nat} : wp (c.linkTrivialNet n nmos pmos) (fun b t => if b then
        ∃ groundNet powerNet, c.Inverts s n nmos pmos groundNet powerNet ∧ Links (fun queue k =>
          if k = n then c.linkBy s n ⟨nmos, pmos, groundNet, powerNet, c.gateNet nmos⟩ queue else none) s t
      else Links (fun _ _ => none) s t ∧ ∀ groundNet powerNet, ¬ c.Inverts s n nmos pmos groundNet powerNet)
    (fun _ _ => True) s := by
  refine wp_mapDeviceNets_links.bind fun nnet t1 h1 => ?_
  obtain ⟨hs1, hgate1, hres1, hother1⟩ := h1
  rw [hother1, hgate1]
  cases hground : c.otherSide nmos n with
  | none => exact ⟨hs1, fun g p hi => by simp [hi.ground] at hground⟩
  | some groundNet =>
    refine wp_ite (fun hdiode => ⟨hs1, fun g p hi => hi.gate_ne hdiode⟩) fun hdiode => ?_
    refine wp_mapDeviceNets_links.bind fun pnet t2 h2 => ?_
    obtain ⟨hs2, hgate2, hres2, hother2⟩ := h2
    have hs : Links (fun _ _ => none) s t2 := hs1.trans hs2
    rw [hother2]
    cases hpower : c.otherSide pmos n with
    | none => exact ⟨hs, fun g p hi => by simp [hi.power] at hpower⟩
    | some powerNet =>
      refine wp_bind.2 (wp_read.2 (wp_ite (fun hnot => ⟨hs, fun g p hi => ?_⟩) fun hall => ?_))
      · obtain rfl := Option.some.inj (hi.ground.symm.trans hground)
        obtain rfl := Option.some.inj (hi.power.symm.trans hpower)
        rw [hgate2, id, isTrivialPower_of_frame hs.frame, hi.gate_eq] at hnot
        rcases hnot with hnot | hnot | hnot
        · exact hi.gate_ne hnot
        · exact hnot rfl
        · exact absurd hi.powers (by simp [hnot])
      · rw [hgate2, id, isTrivialPower_of_frame hs.frame] at hall
        have hinv : c.Inverts s n nmos pmos groundNet powerNet := by
          refine ⟨hground, hpower, hdiode, ?_, ?_⟩
          · by_contra hne
            exact hall (.inr (.inl (.symm hne)))
          · by_contra hne
            exact hall (.inr (.inr (by simpa using hne)))
        rw [hres1, hres2]
        refine wp_setLinkAt.bind fun _ t3 h3 => ?_
        refine wp_setLinkAt.bind fun _ t4 h4 => ⟨groundNet, powerNet, hinv, ((hs.trans h3).trans h4).frame, fun queue k => ?_⟩
        rw [((hs.trans h3).trans h4).link, linksBack_congr (hs.link .minQueue groundNet),
          linksBack_congr ((hs.trans h3).link .maxQueue powerNet)]
        by_cases hk : k = n <;> cases queue <;> simp [linkBy, TrivialInverter.target, hk]
        all_goals split_ifs <;> simp_all

/-! ## A round -/

variable (c) in
/-- The round of a net finds the inverter. -/
structure FindsInverter (s : PropagationState) (n : Nat) (i : TrivialInverter) : Prop
    extends Inverts c s.nets n i.nmos i.pmos i.groundNet i.powerNet where
  candidate : c.isTrivialCandidate s.nets n = true
  nmos : c.trivialMos ModelType.isNmos n = some i.nmos
  pmos : c.trivialMos ModelType.isPmos n = some i.pmos
  active_nmos : s.devices.inactive .minQueue i.nmos = false
  active_pmos : s.devices.inactive .maxQueue i.pmos = false
  gateNet : i.gateNet = c.gateNet i.nmos

/-- What the search for an inverter returns is what it is meant to find. -/
theorem trivialInverter_eq_some {s : PropagationState} {i : TrivialInverter} :
    c.trivialInverter s n = some i ↔ c.FindsInverter s n i := by
  unfold trivialInverter
  simp only [Option.bind_eq_bind, Option.bind_eq_some_iff, Option.guard_eq_some']
  constructor
  · rintro ⟨-, hcand, nmos, hnmos, pmos, hpmos, -, hactive, g, hg, p, hp, -, hgate, hi⟩
    obtain rfl := Option.some.inj hi
    exact ⟨⟨hg, hp, hgate.1, hgate.2.1, hgate.2.2⟩, hcand, hnmos, hpmos, hactive.1, hactive.2, rfl⟩
  · intro h
    refine ⟨⟨⟩, h.candidate, _, h.nmos, _, h.pmos, ⟨⟩, ⟨h.active_nmos, h.active_pmos⟩, _, h.ground, _, h.power, ⟨⟩,
      ⟨h.gate_ne, h.gate_eq, h.powers⟩, ?_⟩
    rw [← h.gateNet]
    rfl

end FlatCircuit

/-- The status of a device whose bits are set for both queues. -/
def DeviceStatus.inactivate (status : DeviceStatus) : DeviceStatus := { status with minInactive := true, maxInactive := true }

namespace FlatCircuit

variable {c : FlatCircuit} {n d : Nat} {s : NetState} {g m x nmos pmos p : Nat} {v : Int}

variable (c) in
/-- The new link of a net in the vector of a queue. -/
def newLink (s : PropagationState) (queue : EventQueueType) (n : Nat) : Option (Nat × Nat) :=
  (c.trivialInverter s n).bind fun i => c.linkBy s.nets n i queue

variable (c) in
/-- The device is one of the inverter of a net. -/
def IsInverterDevice (s : PropagationState) (n d : Nat) : Prop := ∃ i, c.trivialInverter s n = some i ∧ (d = i.nmos ∨ d = i.pmos)

variable (c) in
/-- The nets that are done have been linked by their inverters. -/
structure LinkedAt (done : Nat → Prop) [DecidablePred done] (s t : PropagationState) : Prop where
  nets : Links (fun queue k => if done k then c.newLink s queue k else none) s.nets t.nets
  devices : t.devices = { s.devices with deviceStatus := t.devices.deviceStatus }
  calls : t.calls = s.calls
  inactive : ∀ d k, done k → c.IsInverterDevice s k d → t.devices.deviceStatus d = (s.devices.deviceStatus d).inactivate
  other : ∀ d, (∀ k, done k → ¬c.IsInverterDevice s k d) → t.devices.deviceStatus d = s.devices.deviceStatus d

/-- A round without an inverter. -/
theorem linkedAt_of_none {s : PropagationState} {nets : NetState} (hnone : ∀ i, ¬c.FindsInverter s n i)
    (h : Links (fun _ _ => none) s.nets nets) : c.LinkedAt (· = n) s { s with nets := nets } := by
  have hnone : c.trivialInverter s n = none :=
    Option.eq_none_iff_forall_not_mem.2 fun i hi => hnone i (trivialInverter_eq_some.1 hi)
  refine ⟨⟨h.frame, fun queue k => (h.link queue k).trans ?_⟩, rfl, rfl, ?_, fun _ _ => rfl⟩
  · by_cases hk : k = n <;> simp [newLink, hk, hnone]
  · rintro d k rfl ⟨i, hi, -⟩
    nomatch hnone.symm.trans hi

/-- A round links its net by its inverter. -/
theorem wp_setTrivialNet (s : PropagationState) : wp (c.setTrivialNet n) (fun _ t => c.LinkedAt (· = n) s t)
    (fun _ _ => True) s := by
  have hsame : Links (fun _ _ => none) s.nets s.nets := ⟨rfl, fun _ _ => rfl⟩
  refine wp_bind.2 (wp_read.2 ?_)
  refine wp_ite (fun hcand => ?_) fun hcand => linkedAt_of_none (fun i hi => hcand hi.candidate) hsame
  split
  case h_2 hno => exact linkedAt_of_none (fun i hi => hno _ _ hi.nmos hi.pmos) hsame
  case h_1 nmos pmos hnmos hpmos =>
    refine wp_ite (fun hactive => linkedAt_of_none (fun i hi => ?_) hsame) fun hactive => ?_
    · obtain rfl := Option.some.inj (hi.nmos.symm.trans hnmos)
      obtain rfl := Option.some.inj (hi.pmos.symm.trans hpmos)
      simp [hi.active_nmos, hi.active_pmos] at hactive
    obtain ⟨hactive1, hactive2⟩ : s.devices.inactive .minQueue nmos = false ∧ s.devices.inactive .maxQueue pmos = false := by
      simpa using hactive
    refine wp_bind.2 (wp_zoom.2 (wp_linkTrivialNet.imp fun b nets hb => ?_))
    cases b with
    | false =>
      refine wp_pure.2 (linkedAt_of_none (fun i hi => ?_) hb.1)
      obtain rfl := Option.some.inj (hi.nmos.symm.trans hnmos)
      obtain rfl := Option.some.inj (hi.pmos.symm.trans hpmos)
      exact hb.2 _ _ hi.toInverts
    | true =>
      obtain ⟨g, p, hinv, hlinks⟩ := hb
      have hfound : c.trivialInverter s n = some ⟨nmos, pmos, g, p, c.gateNet nmos⟩ :=
        trivialInverter_eq_some.2 ⟨hinv, hcand, hnmos, hpmos, hactive1, hactive2, rfl⟩
      refine ⟨⟨hlinks.frame, fun queue k => (hlinks.link queue k).trans ?_⟩, rfl, rfl, ?_, fun d hd => ?_⟩
      · by_cases hk : k = n <;> simp [newLink, hk, hfound]
      · rintro d k rfl ⟨i, hi, hd⟩
        obtain rfl := Option.some.inj (hi.symm.trans hfound)
        simp only [DeviceStatus.inactivate, update_apply]
        split_ifs <;> simp_all [DeviceStatus.setInactive]
      · have hne : d ≠ nmos ∧ d ≠ pmos := not_or.1 fun h => hd n rfl ⟨_, hfound, h⟩
        simp [update_of_ne, hne]

/-! ## The nets of an inverter -/

/-- The transistor of a net is of its type and no capacitor, and is in a list of the net. -/
theorem trivialMos_eq_some {isMos : ModelType → Bool} (h : c.trivialMos isMos n = some d) :
    isMos (c.deviceType d) = true ∧ c.sourceNet d ≠ c.drainNet d ∧ (d ∈ c.sources n ∨ d ∈ c.drains n) := by
  have hfold : ∀ (other : Nat → Nat) (l : List Nat) (found : Option Nat), l.foldl (fun found device =>
      if c.sourceNet device ≠ c.drainNet device ∧ isMos (c.deviceType device) ∧
        (found = none ∨ other device ≠ c.gateNet device) then
        some device else found) found = some d →
      found = some d ∨ isMos (c.deviceType d) = true ∧ c.sourceNet d ≠ c.drainNet d ∧ d ∈ l := by
    intro other l
    induction l with
    | nil => exact fun _ h => .inl h
    | cons device l ih =>
      intro found h
      rw [List.foldl_cons] at h
      rcases ih _ h with h | ⟨hmos, hne, hmem⟩
      · split at h
        · rename_i hdevice
          obtain rfl := Option.some.inj h
          exact .inr ⟨hdevice.2.1, hdevice.1, List.mem_cons_self⟩
        · exact .inl h
      · exact .inr ⟨hmos, hne, List.mem_cons_of_mem _ hmem⟩
  rcases hfold _ _ _ h with h | ⟨hmos, hne, hmem⟩
  · rcases hfold _ _ _ h with h | ⟨hmos, hne, hmem⟩
    · cases h
    · exact ⟨hmos, hne, .inr hmem⟩
  · exact ⟨hmos, hne, .inl hmem⟩

/-- A device between a net and another one is between no further net. -/
theorem eq_of_otherSide {k : Nat} (hm : c.otherSide d m = some x) (hk : c.otherSide d k = some g) (hne : m ≠ k) : m = g := by
  unfold otherSide at hm hk
  split_ifs at hm hk with h1 h2 h3 h4
  · exact absurd (h1.symm.trans h2) hne
  · exact h1.symm.trans (Option.some.inj hk)
  all_goals grind

/-- The net has a power with a fixed voltage. -/
def IsFixedPower (s : NetState) (n : Nat) (v : Int) : Prop :=
  ∃ p, s.netVoltagePtr n = some p ∧ (s.power p).type.powerBit = true ∧ (s.power p).minVoltage = v ∧ (s.power p).maxVoltage = v ∧
    v ≠ unknownVoltage

theorem isTrivialPower_iff {groundNet powerNet : Nat} : isTrivialPower s groundNet powerNet = true ↔
    ∃ low high, IsFixedPower s groundNet low ∧ IsFixedPower s powerNet high ∧ low < high := by
  unfold isTrivialPower
  constructor
  · intro h
    split at h
    · rename_i ground power hg hp
      simp only [Bool.and_eq_true, beq_iff_eq, bne_iff_ne, decide_eq_true_eq] at h
      obtain ⟨⟨⟨⟨⟨hgb, hpb⟩, hgf⟩, hpf⟩, hknown⟩, hlt⟩ := h
      refine ⟨_, _, ⟨ground, hg, hgb, rfl, hgf.symm, ?_⟩, ⟨power, hp, hpb, hpf, rfl, hknown⟩, hlt⟩
      -- an unknown voltage is the largest one
      have hmax : (s.power power).maxVoltage < 2 ^ 15 := (s.isVoltage power .maxQueue).2
      intro hu
      rw [hu] at hlt
      unfold unknownVoltage at hlt
      omega
    · nomatch h
  · rintro ⟨low, high, ⟨g, hg, hgb, hg1, hg2, -⟩, ⟨p, hp, hpb, hp1, hp2, hknown⟩, hlt⟩
    simp [hg, hp, hgb, hpb, hg1, hg2, hp1, hp2, hknown, hlt]

/-- A net with a known voltage is passed over. -/
theorem IsFixedPower.not_candidate (h : IsFixedPower s n v) : c.isTrivialCandidate s n = false := by
  obtain ⟨p, hp, -, hmin, -, hv⟩ := h
  simp [isTrivialCandidate, hp, hmin, hv]

theorem Inverts.fixed (h : c.Inverts s n nmos pmos g p) : (∃ v, IsFixedPower s g v) ∧ ∃ v, IsFixedPower s p v := by
  obtain ⟨low, high, hlow, hhigh, -⟩ := isTrivialPower_iff.1 h.powers
  exact ⟨⟨low, hlow⟩, high, hhigh⟩

theorem trivialInverter_of_fixed {s : PropagationState} (h : IsFixedPower s.nets n v) : c.trivialInverter s n = none := by
  refine Option.eq_none_iff_forall_not_mem.2 fun i hi => ?_
  have := (trivialInverter_eq_some.1 hi).candidate
  rw [h.not_candidate] at this
  nomatch this

/-! ## The loop -/

/-- A candidate is on no side of a device of another net's inverter. -/
theorem not_isInverterDevice {s : PropagationState} {k : Nat} (hcand : c.isTrivialCandidate s.nets n = true)
    (hside : c.otherSide d n = some x) (hne : n ≠ k) : ¬c.IsInverterDevice s k d := by
  rintro ⟨i, hi, hd⟩
  have hi := trivialInverter_eq_some.1 hi
  obtain ⟨v, hv⟩ : ∃ v, IsFixedPower s.nets n v := by
    rcases hd with rfl | rfl
    · rw [eq_of_otherSide hside hi.ground hne]
      exact hi.fixed.1
    · rw [eq_of_otherSide hside hi.power hne]
      exact hi.fixed.2
  rw [hv.not_candidate] at hcand
  nomatch hcand

namespace LinkedAt

variable {s t t' : PropagationState} {m : Nat}

theorem start (s : PropagationState) : c.LinkedAt (· < 0) s s :=
  ⟨⟨rfl, fun _ _ => rfl⟩, rfl, rfl, fun _ _ hk => absurd hk (Nat.not_lt_zero _), fun _ _ => rfl⟩

section
variable (h : c.LinkedAt (· < m) s t)
include h

/-- No round changes which nets are looked at. -/
theorem candidate_eq : c.isTrivialCandidate t.nets m = c.isTrivialCandidate s.nets m := by
  have hnext : ∀ q, (t.nets.virtualNet q).next m = (s.nets.virtualNet q).next m := by
    intro q
    have hlink := h.nets.link q m
    rw [if_neg (Nat.lt_irrefl m)] at hlink
    exact congrArg Prod.fst hlink
  unfold isTrivialCandidate isTerminal
  rw [hnext, hnext, h.nets.frame]
  rfl

theorem active_eq {x : Nat} (hcand : c.isTrivialCandidate s.nets m = true)
    (hside : c.otherSide d m = some x) (q : EventQueueType) : t.devices.inactive q d = s.devices.inactive q d := by
  unfold DeviceState.inactive
  rw [h.other d fun k hk => not_isInverterDevice hcand hside (Nat.ne_of_gt hk)]

/-- The next round finds what it finds in the first state. -/
theorem trivialInverter_eq : c.trivialInverter t m = c.trivialInverter s m := by
  refine Option.ext fun i => ?_
  rw [trivialInverter_eq_some, trivialInverter_eq_some]
  have hpowers := isTrivialPower_of_frame h.nets.frame
  constructor
  · intro hi
    have hcand := h.candidate_eq.symm.trans hi.candidate
    exact ⟨⟨hi.ground, hi.power, hi.gate_ne, hi.gate_eq, hpowers ▸ hi.powers⟩, hcand, hi.nmos, hi.pmos,
      (h.active_eq hcand hi.ground _).symm.trans hi.active_nmos, (h.active_eq hcand hi.power _).symm.trans hi.active_pmos,
        hi.gateNet⟩
  · intro hi
    exact ⟨⟨hi.ground, hi.power, hi.gate_ne, hi.gate_eq, hpowers ▸ hi.powers⟩,
      h.candidate_eq.trans hi.candidate, hi.nmos, hi.pmos,
      (h.active_eq hi.candidate hi.ground _).trans hi.active_nmos, (h.active_eq hi.candidate hi.power _).trans hi.active_pmos,
      hi.gateNet⟩

/-- The next round sets the link that it sets in the first state: those of fixed powers have not changed. -/
theorem newLink_eq (q : EventQueueType) : c.newLink t q m = c.newLink s q m := by
  unfold newLink
  rw [h.trivialInverter_eq]
  refine Option.bind_congr fun i hi => ?_
  obtain ⟨⟨low, hlow⟩, high, hhigh⟩ := (trivialInverter_eq_some.1 hi).fixed
  have hback : ∀ {g v}, IsFixedPower s.nets g v → (t.nets.virtualNet q).linksBack m g = (s.nets.virtualNet q).linksBack m g := by
    intro g v hv
    refine linksBack_congr ((h.nets.link q g).trans ?_)
    simp [newLink, trivialInverter_of_fixed hv]
  cases q <;> simp [linkBy, TrivialInverter.target, hback hlow, hback hhigh]

/-- One more round. -/
theorem step (hr : c.LinkedAt (· = m) t t') : c.LinkedAt (· < m + 1) s t' := by
  have hdevice : ∀ d, c.IsInverterDevice t m d ↔ c.IsInverterDevice s m d := fun d => by
    unfold IsInverterDevice
    rw [h.trivialInverter_eq]
  refine ⟨⟨(h.nets.trans hr.nets).frame, fun q k => ?_⟩, ?_, hr.calls.trans h.calls, fun d k hk hd => ?_, fun d hd => ?_⟩
  · rw [(h.nets.trans hr.nets).link]
    by_cases hk : k = m
    · subst hk
      simp [h.newLink_eq]
    · have hlt : k < m + 1 ↔ k < m := by omega
      simp only [if_neg hk, hlt, Option.none_or]
  · rw [hr.devices, h.devices]
  · by_cases hold : ∃ k < m, c.IsInverterDevice s k d
    · obtain ⟨k, hk, hold⟩ := hold
      have hinactive := h.inactive d k hk hold
      by_cases hnew : c.IsInverterDevice s m d
      · rw [hr.inactive d m rfl ((hdevice d).2 hnew), hinactive]
        rfl
      · rw [hr.other d (by rintro k rfl; exact mt (hdevice d).1 hnew), hinactive]
    · obtain rfl : k = m := (Nat.lt_succ_iff_lt_or_eq.1 hk).resolve_left fun hk => hold ⟨k, hk, hd⟩
      rw [hr.inactive d k rfl ((hdevice d).2 hd), h.other d fun k hk hd => hold ⟨k, hk, hd⟩]
  · rw [hr.other d (by rintro k rfl; exact mt (hdevice d).1 (hd k (Nat.lt_succ_self k))),
      h.other d fun k hk => hd k (Nat.lt_succ_of_lt hk)]

end
end LinkedAt

theorem recordInverter_apply (inv : Nat → Nat) (n : Nat) (i : Option TrivialInverter) (k : Nat) :
    recordInverter inv n i k = if k = n then recordInverter inv k i k else inv k := by
  cases i with
  | none => simp [recordInverter]
  | some i =>
    by_cases hk : k = n
    · simp [hk]
    · simp only [recordInverter]
      split
      · rw [update_of_ne hk]
      · rfl

/-- The loop links every net by the inverter of the first state, and records it. -/
theorem wp_setTrivialInverters (s : PropagationState) (inv : Nat → Nat) :
    wp (c.setTrivialInverters inv) (fun inverterNet' t => c.LinkedAt (· < c.netCount) s t ∧ ∀ k, inverterNet' k =
      if k < c.netCount then recordInverter inv k (c.trivialInverter s k) k else inv k) (fun _ _ => True) s := by
  refine wp_foldlM_range (I := fun m (inverterNet' : Nat → Nat) t => c.LinkedAt (· < m) s t ∧ ∀ k, inverterNet' k =
    if k < m then recordInverter inv k (c.trivialInverter s k) k else inv k) ⟨.start s, fun k => rfl⟩ ?_
  rintro m - inverterNet' t ⟨ht, hinv⟩
  refine wp_bind.2 (wp_read.2 ((wp_setTrivialNet t).bind fun _ t' ht' => wp_pure.2 ⟨ht.step ht', fun k => ?_⟩))
  rw [id, ht.trivialInverter_eq, recordInverter_apply]
  by_cases hk : k = m
  · subst hk
    have hown : inverterNet' k = inv k := by rw [hinv, if_neg (Nat.lt_irrefl k)]
    rw [if_pos rfl, if_pos (Nat.lt_succ_self k)]
    cases c.trivialInverter s k with
    | none => exact hown
    | some i =>
      simp only [recordInverter, hown]
      split <;> simp [hown]
  · rw [if_neg hk, hinv]
    split_ifs <;> first | rfl | omega

/-- `inverterNet_v` is not read. -/
theorem setTrivialMinMaxPower_eq (inv : Nat → Nat) : c.setTrivialMinMaxPower = c.setTrivialInverters inv >>= fun _ =>
    pure ⟨⟩ := by
  unfold setTrivialMinMaxPower setTrivialInverters
  induction List.range c.netCount generalizing inv with
  | nil => rfl
  | cons n l ih =>
    rw [List.foldlM_cons, bind_assoc]
    simp only [setTrivialInverter, bind_assoc, ← ih]
    rfl

/-- The whole loop links every net as its round would in the first state. -/
theorem linkedAt_of_setTrivialMinMaxPower {s t : PropagationState} (h : c.setTrivialMinMaxPower s = .ok ⟨⟩ t) :
    c.LinkedAt (· < c.netCount) s t := by
  rw [setTrivialMinMaxPower_eq fun _ => unknownNet] at h
  obtain ⟨inv, t', hrun, hpure⟩ := run_bind_eq_ok.1 h
  cases hpure
  exact ((wp_setTrivialInverters s _).of_ok hrun).1

end FlatCircuit
end Cvc
