import Cvc.Lemmas.Reroute
import Cvc.Netlist

/-!
# Rerouting keeps the forest

On the first pass, a device between two nets that end at the same net may make the way of one of them shorter. `AlreadyShorted`
then links this net to the other one, and `ShiftVirtualNets` turns the nets of its old chain round to it, as long as that makes
their way shorter as well.
-/

namespace Cvc

open Forest Program CVirtualNetVector List Nat

variable {q : EventQueueType} {s : NetState} {n k d f : Nat} {v : CVirtualNetVector} {c : FlatCircuit}
    {conn : CConnection} {ks : List Nat}

@[simp] theorem NetState.virtualNet_setVirtualNet : (s.setVirtualNet q v).virtualNet q = v := Function.update_self ..

theorem setLinkLater_eq {r : Nat}
    (h : (s.virtualNet q).setLater n k r = some v) : setLinkLater q n k r s = .ok ⟨⟩ (s.setVirtualNet q v) := by
  have hset : setLink q n k r (s.setVirtualNet q (s.virtualNet q).advance) = .ok ⟨⟩ (s.setVirtualNet q v) := by
    unfold setLater at h
    simp only [setLink, NetState.virtualNet_setVirtualNet, h]
    simp [NetState.setVirtualNet]
  exact hset

/-- The shift returns without a message, and does what `Shifted` says. -/
theorem shiftLinks_ok {y S D : Nat} {rest : List Nat} {last : CVirtualNet}
    (h : Shifting (s.virtualNet q) f y ks S last rest D) (hk : rest.length ≤ k) :
    ∃ report s', shiftLinks q k y last S D s = .ok report s' ∧ report.messages = [] ∧
      Shifted (s.virtualNet q) (s'.virtualNet q) f (S + last.resistance) ks rest report.shifted ∧
      ((s.virtualNet q).UpToDate → (s'.virtualNet q).UpToDate) := by
  induction k generalizing s y S D ks rest last with
  | zero =>
    have hnil : rest = [] := length_eq_zero_iff.1 (le_zero.1 hk)
    exact absurd hnil h.drain.ne_nil
  | succ k ih =>
    unfold shiftLinks
    by_cases hlt : (S : Int) + last.resistance < D - last.resistance
    · rw [if_pos hlt]
      have hmax : S + last.resistance < maxResistance := by
        have := h.drain_max
        omega
      obtain ⟨v1, hcall, hread, hdrain, h1⟩ := h.read
      have hlen := h.length_le
      obtain ⟨v2, hset, hlink⟩ := set_of_chain h1.source (h1.source_lt _ h1.source.head_mem) (h1.not_mem hlt)
        (by omega) last.resistance
      have h2 := h1.relinked hlt hlink ⟨(s.virtualNet q).next last.nextNetId, (s.virtualNet q).linkResistance last.nextNetId, f,
        D - last.resistance⟩ (by rw [hread.next_eq]) (by rw [hread.resistance_eq])
      have hsource : (v2.net last.nextNetId).finalResistance = S + last.resistance := by
        obtain ⟨-, hwalk⟩ := hlink.cached.unique ⟨_, h2.source, h2.source_last, rfl⟩
        rw [hwalk, h2.source_sum, min_eq_right (le_of_lt hmax)]
      let s2 := (s.setVirtualNet q v1).setVirtualNet q v2
      have hs2 : s2.virtualNet q = v2 := NetState.virtualNet_setVirtualNet
      have hlength : rest.tail.length ≤ k := by
        rw [length_tail]
        omega
      obtain ⟨report, s', hrest, hmessages, hshifted, hcache⟩ := @ih s2 _ _ _ _ _ _ (hs2 ▸ h2) hlength
      rw [hs2] at hshifted hcache
      refine ⟨{ shifted := last.nextNetId :: report.shifted, messages := [] }, s', ?_, rfl, ?_, fun hexact => hcache ?_⟩
      · refine run_bind_eq_ok.2 ⟨⟨⟩, s, by simp [hmax]; rfl, ?_⟩
        refine run_bind_eq_ok.2 ⟨_, _, by rw [virtualNetAt, hcall], ?_⟩
        refine run_bind_eq_ok.2 ⟨_, _, rfl, ?_⟩
        refine run_bind_eq_ok.2 ⟨_, s2, setLinkLater_eq (by rwa [NetState.virtualNet_setVirtualNet]), ?_⟩
        refine run_bind_eq_ok.2 ⟨_, _, rfl, ?_⟩
        refine run_bind_eq_ok.2 ⟨report, s', hrest, ?_⟩
        simp [hs2, hdrain, hsource, hmessages]
        rfl
      · exact .of_readAt hread (h1.cons hlt hlink (by rwa [hread.resistance_eq]))
      · refine hlink.upToDate fun m hm hne => ?_
        rw [hread.stamp_eq m hne, hread.update_eq]
        exact hexact.1 m (hread.size_eq ▸ hm)
    · rw [if_neg hlt]
      exact ⟨{}, s, rfl, rfl, .refl, fun hcache => hcache⟩

theorem propagateTypes_of_done {types : ModelType → Bool} (hdone : n = (s.virtualNet q).next n ∨
      ModelType.all.all (fun type => !types type || (s.connectionCount n).sourceDrainType type) = true) :
    propagateTypes q types k n s = .ok ⟨⟩ s := by
  unfold propagateTypes
  refine run_bind_eq_ok.2 ⟨s, s, rfl, ?_⟩
  rw [if_pos hdone]
  rfl

/-- The types of the devices of a net are added along a chain, which stays as it is. -/
theorem propagateTypes_ok {types : ModelType → Bool} {p : List Nat} (hp : Chain (s.virtualNet q).next n p)
    (hk : p.length ≤ k + 1) :
    ∃ s', propagateTypes q types k n s = .ok ⟨⟩ s' ∧ s'.virtualNet = s.virtualNet := by
  induction k generalizing s n p with
  | zero =>
    rcases hp.eq_or with ⟨hroot, -⟩ | ⟨-, ks, rfl, hq⟩
    · exact ⟨s, propagateTypes_of_done (.inl hroot.symm), rfl⟩
    · have hpos := length_pos_iff.2 hq.ne_nil
      simp only [length_cons] at hk
      omega
  | succ k ih =>
    by_cases hdone : n = (s.virtualNet q).next n ∨
        ModelType.all.all (fun type => !types type || (s.connectionCount n).sourceDrainType type) = true
    · exact ⟨s, propagateTypes_of_done hdone, rfl⟩
    rcases hp.eq_or with ⟨hroot, -⟩ | ⟨-, ks, rfl, hq⟩
    · exact absurd (.inl hroot.symm) hdone
    simp only [length_cons] at hk
    obtain ⟨s', hs', hnets⟩ := ih (s := { s with
      connectionCount := Function.update s.connectionCount n
        { s.connectionCount n with sourceDrainType := fun type => (s.connectionCount n).sourceDrainType type || types type } })
      hq (by omega)
    refine ⟨s', ?_, hnets⟩
    unfold propagateTypes
    refine run_bind_eq_ok.2 ⟨s, s, rfl, ?_⟩
    rw [if_neg hdone]
    exact run_bind_eq_ok.2 ⟨_, _, rfl, hs'⟩

namespace FlatCircuit

variable {dir : ShortDirection}

/-- A reroute sets the link. -/
theorem rerouteNet_ok (hset : (s.virtualNet q).setLater (conn.slaveId dir) (conn.masterId dir)
      (c.resistance d) = some v) (hq : Chain v.next (conn.masterId dir) ks) (hlen : ks.length ≤ 10002) :
    ∃ s', c.rerouteNet q d conn dir s = .ok ⟨⟩ s' ∧ s'.virtualNet q = v := by
  have hlater := setLinkLater_eq hset
  obtain ⟨_, s1, hadvance, hlink⟩ := run_bind_eq_ok.1 hlater
  by_cases hresistor : (c.deviceType d == .resistor) = true
  · obtain ⟨s', hs', hnets⟩ :=
      @propagateTypes_ok q (s.setVirtualNet q v) _ 10001 (s.connectionCount (conn.slaveId dir)).sourceDrainType ks
      (by rwa [NetState.virtualNet_setVirtualNet]) hlen
    refine ⟨s', run_bind_eq_ok.2 ⟨_, s1, hadvance, run_bind_eq_ok.2 ⟨_, _, hlink, ?_⟩⟩, ?_⟩
    · rw [hresistor]
      exact run_bind_eq_ok.2 ⟨_, _, rfl, hs'⟩
    · rw [hnets, NetState.virtualNet_setVirtualNet]
  · refine ⟨s.setVirtualNet q v, run_bind_eq_ok.2 ⟨_, s1, hadvance, run_bind_eq_ok.2 ⟨_, _, hlink, ?_⟩⟩,
      NetState.virtualNet_setVirtualNet⟩
    simp only [hresistor]
    rfl

/-- The connections of a device show the ends of its nets in a table. -/
structure Connects (c : FlatCircuit) (v : CVirtualNetVector) (theDeviceId : Nat) (theConnections : CConnection) : Prop where
  resistance_eq : theConnections.resistance = c.resistance theDeviceId
  lt_size : ∀ theDirection, theConnections.slaveId theDirection < v.size
  walksTo : ∀ theDirection, v.WalksTo (theConnections.slaveId theDirection) (theConnections.slaveNet theDirection).finalNetId
    (theConnections.slaveNet theDirection).finalResistance

/-- A reroute on the first pass: it returns without a message, every net keeps its end, and the shifted nets, which are on the old
chain of the slave net, end with the resistance through the device. -/
theorem rerouteAndShift_ok {p : List Nat} (hv : s.virtualNet q = v)
    (hp : Chain v.next (conn.slaveId dir) p) (hplt : ∀ m ∈ p, m < v.size)
    (hplast : p.getLast? = some f) (hpsum : (p.map v.linkResistance).sum < maxResistance)
    (hpfinal : (conn.slaveNet dir).finalResistance = (p.map v.linkResistance).sum)
    (hq : Chain v.next (conn.masterId dir) ks) (hqlt : ∀ m ∈ ks, m < v.size) (hqlast : ks.getLast? = some f)
    (hvia : viaResistance conn dir = c.resistance d + (ks.map v.linkResistance).sum)
    (hlen : p.length + ks.length ≤ 5000) (hallocated : 0 < v.lastUpdateSize)
    (hexact : v.HasExactFinals) (hshorter : isShorterReroute s q conn dir = true) :
    ∃ report s', c.rerouteAndShift q d conn dir s = .ok report s' ∧ report.messages = [] ∧ (s'.virtualNet q).size = v.size ∧
      (∀ n e r, v.Ends n e r → ∃ r', (s'.virtualNet q).Ends n e r' ∧
        (viaResistance conn dir ≤ (conn.slaveNet dir).finalResistance → r' ≤ r)) ∧
          (∀ n ∈ report.shifted, ∃ p₁ p₂, p = p₁ ++ n :: p₂ ∧
        (s'.virtualNet q).Ends n f (viaResistance conn dir + (p₁.map v.linkResistance).sum) ∧ ∀ r, v.Ends n f r →
          viaResistance conn dir + (p₁.map v.linkResistance).sum < r) ∧ (v.UpToDate → (s'.virtualNet q).UpToDate) := by
  subst hv
  obtain ⟨hterminal, hless⟩ := Bool.and_eq_true_iff.1 hshorter
  have hterminal : (s.virtualNet q).next (conn.slaveId dir) ≠ conn.slaveId dir :=
    fun h => absurd (isTerminal_iff.2 h) (by simpa using hterminal)
  obtain ⟨rest, rfl, hrest⟩ := (hp.eq_or.resolve_left fun h => hterminal h.1).2
  have hnotRest := hrest.not_mem_of_link hterminal
  -- the slave net is not on the chain of the master net
  have hnot : conn.slaveId dir ∉ ks := by
    intro hmem
    rcases Bool.or_eq_true_iff.1 hless with hroot | hless
    · have hroot := isTerminal_iff.1 hroot
      obtain rfl := hq.unique (Chain.root hroot)
      rw [mem_singleton] at hmem
      exact hterminal (by rwa [← hmem] at hroot)
    · have hle := hq.sum_le_of_mem hmem hp (s.virtualNet q).linkResistance
      have hless := of_decide_eq_true hless
      omega
  have hlenq : ks.length ≤ 5000 := by omega
  obtain ⟨v, hset, hlink⟩ := set_of_chain hq (hqlt _ hq.head_mem) hnot hlenq (c.resistance d)
  obtain ⟨hmaster, -⟩ := hlink.chain_of_not_mem hq hnot
  obtain ⟨s1, hreroute, hs1⟩ := rerouteNet_ok (c := c) hset hmaster (by omega)
  have hshifting := hlink.shifting hq hqlt hqlast hnot hrest hnotRest hplt hplast rfl hpsum (by omega) hallocated
    (fun m hm => hexact m (hplt m (mem_cons_of_mem _ hm))) ((s.virtualNet q).net _) rfl rfl
  rw [← hvia, ← hpfinal, ← hs1] at hshifting
  have hlenRest : rest.length ≤ 10001 := by
    simp only [length_cons] at hlen
    omega
  obtain ⟨report, s', hreport, hmessages, hshifted, hcache⟩ := shiftLinks_ok hshifting hlenRest
  rw [hs1] at hshifted hcache
  refine ⟨report, s', run_bind_eq_ok.2 ⟨_, s, rfl, run_bind_eq_ok.2 ⟨_, s1, hreroute, hreport⟩⟩, hmessages,
    hshifted.size_eq.trans hlink.size_eq, ?_, ?_, fun hdate => hcache (hlink.upToDate fun m hm _ => hdate.1 m hm)⟩
  · intro n e r hends
    obtain ⟨r1, hends1, hle1⟩ := hlink.ends hp hq hnot hqlt (hqlast.trans hplast.symm) hends
    obtain ⟨r', hends', hle'⟩ := hshifted.ends n e r1 hends1
    exact ⟨r', hends', fun hle => le_trans hle' (hle1 (by omega))⟩
  · intro n hn
    obtain ⟨p₁, p₂, heq⟩ := append_of_mem hn
    obtain ⟨kept, hkept⟩ := hshifted.initial
    have hrestEq : rest = p₁ ++ n :: (p₂ ++ kept) := by rw [hkept, heq, append_assoc, cons_append]
    obtain ⟨hends, hlt⟩ := hshifted.through p₁ n p₂ heq
    have hsame : p₁.map v.linkResistance = p₁.map (s.virtualNet q).linkResistance := by
      refine map_congr_left fun m hm => ?_
      have hne : m ≠ conn.slaveId dir := by
        rintro rfl
        exact hnotRest (by rw [hrestEq]; exact mem_append_left _ hm)
      rw [hlink.resistance_eq, Function.update_of_ne hne]
    rw [hsame, add_assoc] at hends hlt
    refine ⟨conn.slaveId dir :: p₁, p₂ ++ kept, by rw [hrestEq]; rfl, hends, fun r hr => hlt r ?_⟩
    obtain ⟨p', hp', hchain⟩ := hrest.tail_of_mem (by rw [hrestEq]; simp : n ∈ rest)
    exact hlink.ends_of_not_mem hchain (fun hmem => hnotRest (hp'.mem hmem)) hr

/-- What a reroute on the first pass does to a table of virtual nets, for the connections of the device. -/
structure Reroutes (s : NetState) (queue : EventQueueType) (theConnections : CConnection) (report : ShiftReport)
    (t : CVirtualNetVector) : Prop where
  /-- the links are a forest -/
  forest : ∀ n < (s.virtualNet queue).size, ∃ p, Chain t.next n p ∧ ∀ m ∈ p, m < (s.virtualNet queue).size
  /-- every net keeps its final net -/
  final : ∀ n < (s.virtualNet queue).size, ∀ f r, (s.virtualNet queue).WalksTo n f r → ∃ r', t.WalksTo n f r'
  /-- and has no more resistance, if the final net is not at the device -/
  resistance_le : (∀ theDirection, theConnections.slaveId theDirection ≠ (theConnections.slaveNet theDirection).finalNetId) →
    ∀ n < (s.virtualNet queue).size, ∀ f r f' r', (s.virtualNet queue).WalksTo n f r → t.WalksTo n f' r' → r' ≤ r
  /-- a shifted net is on the old chain of the net that is rerouted, and ends with the smaller of its old resistance and that
  through the device and back along the chain -/
  shifted : ∀ n ∈ report.shifted, ∃ theDirection p₁ p₂ f r, isShorterReroute s queue theConnections theDirection = true ∧
    Chain (s.virtualNet queue).next (theConnections.slaveId theDirection) (p₁ ++ n :: p₂) ∧ (s.virtualNet queue).WalksTo n f r ∧
    t.WalksTo n f (min r (viaResistance theConnections theDirection + (p₁.map (s.virtualNet queue).linkResistance).sum))
  /-- the caches stay right -/
  upToDate : (s.virtualNet queue).UpToDate → t.UpToDate

/-- Every chain stays in the table and has less than 2000 links and less than the largest resistance. -/
def HasShortChains (v : CVirtualNetVector) : Prop :=
  ∀ n < v.size, ∃ p, Chain v.next n p ∧ (∀ m ∈ p, m < v.size) ∧ p.length ≤ 2000 ∧ (p.map v.linkResistance).sum < maxResistance

theorem HasShortChains.exists_ends (h : HasShortChains v) (hn : n < v.size) : ∃ f r, v.Ends n f r ∧ r < maxResistance := by
  obtain ⟨p, hp, hlt, -, hsum⟩ := h n hn
  exact ⟨p.getLast hp.ne_nil, _, ⟨p, hp, hlt, getLast?_eq_getLast_of_ne_nil hp.ne_nil, rfl⟩, hsum⟩

theorem HasShortChains.ends_of_walksTo (h : HasShortChains v) {r : Nat} (hn : n < v.size)
    (hw : v.WalksTo n f r) : v.Ends n f r := by
  obtain ⟨f', r', hends, hlt⟩ := h.exists_ends hn
  obtain ⟨rfl, rfl⟩ := hw.unique hends.walksTo
  rwa [min_eq_right (le_of_lt hlt)]

/-- Without a reroute nothing changes. -/
theorem Reroutes.refl (hforest : HasShortChains (s.virtualNet q)) : Reroutes s q conn {} (s.virtualNet q) where
  forest n hn := by
    obtain ⟨p, hp, hlt, -⟩ := hforest n hn
    exact ⟨p, hp, hlt⟩
  final _ _ _ r hw := ⟨r, hw⟩
  resistance_le _ _ _ _ _ _ _ hw hw' := le_of_eq (hw.unique hw').2.symm
  shifted _ hn := nomatch hn
  upToDate h := h

/-- The slave net of one direction is the master net of the other one. -/
theorem exists_master (dir : ShortDirection) : ∃ other, conn.slaveId other = conn.masterId dir ∧
      conn.slaveNet other = conn.masterNet dir := by
  cases dir with
  | drainToMasterSource => exact ⟨.sourceToMasterDrain, rfl, rfl⟩
  | sourceToMasterDrain => exact ⟨.drainToMasterSource, rfl, rfl⟩

/-- A reroute in one direction. -/
theorem reroutes_of_isShorterReroute (hforest : HasShortChains (s.virtualNet q))
    (hallocated : (s.virtualNet q).lastUpdateSize = (s.virtualNet q).size) (hexact : (s.virtualNet q).HasExactFinals)
    (hconnects : c.Connects (s.virtualNet q) d conn) (hsame : conn.masterSourceNet.finalNetId = conn.masterDrainNet.finalNetId)
    (hsum : ∀ direction, (conn.masterNet direction).finalResistance + conn.resistance < maxResistance)
    (hshorter : isShorterReroute s q conn dir = true) :
    ∃ report s', c.rerouteAndShift q d conn dir s = .ok report s' ∧ report.messages = [] ∧
      Reroutes s q conn report (s'.virtualNet q) := by
  obtain ⟨other, hmasterId, hmasterNet⟩ := @exists_master conn dir
  have hslave := hforest.ends_of_walksTo (hconnects.lt_size dir) (hconnects.walksTo dir)
  have hmaster := hforest.ends_of_walksTo (hconnects.lt_size other) (hconnects.walksTo other)
  have hfinal : (conn.masterNet dir).finalNetId = (conn.slaveNet dir).finalNetId := by
    cases dir with
    | drainToMasterSource => exact hsame
    | sourceToMasterDrain => exact hsame.symm
  rw [hmasterId, hmasterNet, hfinal] at hmaster
  obtain ⟨p, hp, hplt, hplast, hpsum⟩ := hslave
  obtain ⟨ks, hq, hqlt, hqlast, hqsum⟩ := hmaster
  obtain ⟨p', hp', -, hplen, hpmax⟩ := hforest _ (hconnects.lt_size dir)
  obtain ⟨q', hq', -, hqlen, -⟩ := hforest _ (hconnects.lt_size other)
  obtain rfl := hp.unique hp'
  rw [hmasterId] at hq'
  obtain rfl := hq.unique hq'
  have hvia : viaResistance conn dir = c.resistance d + (ks.map (s.virtualNet q).linkResistance).sum := by
    have hlt : (conn.masterNet dir).finalResistance + conn.resistance < 2 ^ 32 :=
      lt_trans (hsum dir) (by decide)
    rw [hqsum, ← hconnects.resistance_eq, add_comm]
    exact mod_eq_of_lt hlt
  have hpos : 0 < (s.virtualNet q).lastUpdateSize := by
    rw [hallocated]
    exact zero_lt_of_lt (hconnects.lt_size dir)
  obtain ⟨report, s', hok, hmessages, hsize, hends, hshifted, hdate⟩ :=
    rerouteAndShift_ok (c := c) rfl hp hplt hplast hpmax hpsum.symm
    hq hqlt hqlast hvia (by omega) hpos hexact hshorter
  refine ⟨report, s', hok, hmessages, ?_, ?_, ?_, ?_, hdate⟩
  · intro n hn
    obtain ⟨f, r, hn, -⟩ := hforest.exists_ends hn
    obtain ⟨r', ⟨l, hl, hllt, -⟩, -⟩ := hends n f r hn
    exact ⟨l, hl, hsize ▸ hllt⟩
  · intro n hn f r hw
    obtain ⟨r', hends', -⟩ := hends n f r (hforest.ends_of_walksTo hn hw)
    exact ⟨_, hends'.walksTo⟩
  · intro hnotFinal n hn f r f' r' hw hw'
    obtain ⟨r1, hends1, hle⟩ := hends n f r (hforest.ends_of_walksTo hn hw)
    have hless : viaResistance conn dir < (conn.slaveNet dir).finalResistance := by
      rcases Bool.or_eq_true_iff.1 (Bool.and_eq_true_iff.1 hshorter).2 with hroot | hless
      · -- the master net would be the final net
        obtain rfl := hq.unique (.root (isTerminal_iff.1 hroot))
        refine absurd ?_ (hnotFinal other)
        rw [hmasterId, hmasterNet, hfinal]
        simpa using hqlast
      · exact of_decide_eq_true hless
    obtain ⟨-, rfl⟩ := hw'.unique hends1.walksTo
    exact le_trans (min_le_right _ _) (hle (le_of_lt hless))
  · intro n hn
    obtain ⟨p₁, p₂, rfl, hn', hlt⟩ := hshifted n hn
    have hmem : n ∈ p₁ ++ n :: p₂ := by simp
    obtain ⟨l, hl, hchain⟩ := hp.tail_of_mem hmem
    have hold : (s.virtualNet q).Ends n (conn.slaveNet dir).finalNetId (l.map (s.virtualNet q).linkResistance).sum :=
      ⟨l, hchain, fun m hm => hplt m (hl.mem hm), (hp.getLast?_of_mem hmem hchain).trans hplast, rfl⟩
    have hlmax := lt_of_le_of_lt (hp.sum_le_of_mem hmem hchain (s.virtualNet q).linkResistance) hpmax
    have hless := hlt _ hold
    refine ⟨dir, p₁, p₂, _, _, hshorter, hp, hold.walksTo, ?_⟩
    have hwalk := hn'.walksTo
    rw [min_eq_right (le_of_lt (lt_trans hless hlmax))] at hwalk
    rwa [min_eq_right (le_of_lt hlmax), min_eq_right (le_of_lt hless)]

/-- On the first pass, in a forest of virtual nets with right caches, short chains and resistances below the largest one, a device
between two nets with the same final net: `AlreadyShorted` returns, the shift prints no message, and the reroute does what
`Reroutes` says. -/
theorem alreadyShorted_keeps_forest (c : FlatCircuit) (queue : EventQueueType) (theDeviceId : Nat) (theConnections : CConnection)
    (pending : Nat → Bool) (s : NetState) (hpass : c.leakVoltageSet = false) (hforest : HasShortChains (s.virtualNet queue))
    (hallocated : (s.virtualNet queue).lastUpdateSize = (s.virtualNet queue).size) (hexact : (s.virtualNet queue).HasExactFinals)
    (hconnects : c.Connects (s.virtualNet queue) theDeviceId theConnections)
    (hsame : theConnections.masterSourceNet.finalNetId = theConnections.masterDrainNet.finalNetId)
    (hsum : ∀ direction, (theConnections.masterNet direction).finalResistance + theConnections.resistance < maxResistance) :
    ∃ report s', c.rerouteShorted queue theDeviceId theConnections s = .ok report s' ∧
      c.alreadyShortedNets queue theDeviceId theConnections pending s = .ok false s' ∧ report.messages = [] ∧
      Reroutes s queue theConnections report (s'.virtualNet queue) := by
  have hreport : ∃ report s', c.rerouteShorted queue theDeviceId theConnections s = .ok report s' ∧ report.messages = [] ∧
      Reroutes s queue theConnections report (s'.virtualNet queue) := by
    unfold rerouteShorted
    split
    · exact ⟨{}, s, rfl, rfl, .refl hforest⟩
    rw [if_neg (by simp [hpass])]
    by_cases hdrain : isShorterReroute s queue theConnections .drainToMasterSource = true
    · obtain ⟨report, s', hok, hrest⟩ := reroutes_of_isShorterReroute hforest hallocated hexact hconnects hsame hsum hdrain
      refine ⟨report, s', run_bind_eq_ok.2 ⟨s, s, rfl, ?_⟩, hrest⟩
      rwa [if_pos hdrain]
    by_cases hsource : isShorterReroute s queue theConnections .sourceToMasterDrain = true
    · obtain ⟨report, s', hok, hrest⟩ := reroutes_of_isShorterReroute hforest hallocated hexact hconnects hsame hsum hsource
      refine ⟨report, s', run_bind_eq_ok.2 ⟨s, s, rfl, ?_⟩, hrest⟩
      rwa [if_neg hdrain, if_pos hsource]
    · refine ⟨{}, s, run_bind_eq_ok.2 ⟨s, s, rfl, ?_⟩, rfl, .refl hforest⟩
      rw [if_neg hdrain, if_neg hsource]
      rfl
  obtain ⟨report, s', hok, hmessages, hreroutes⟩ := hreport
  refine ⟨report, s', hok, ?_, hmessages, hreroutes⟩
  unfold alreadyShortedNets
  rw [if_pos hsame]
  exact run_bind_eq_ok.2 ⟨report, s', hok, rfl⟩

/-- A transistor between the ends of two chains: net 3 leads over nets 2 and 1 to net 0, and net 4 leads to net 0. -/
def bridgeDevices : List FlatDevice := [{ type := .nmos, source := 4, drain := 3, resistance := 2 }]

def bridgeCircuit : FlatCircuit := .ofDevices 5 bridgeDevices (by decide) false false

def bridgeTable : CVirtualNetVector where
  size := 5
  size_le := by decide
  net n := [⟨0, 0, 0, 0⟩, ⟨0, 10, 0, 10⟩, ⟨1, 10, 0, 20⟩, ⟨2, 10, 0, 30⟩, ⟨0, 1, 0, 1⟩].getD n {}
  lastUpdate := 0
  lastUpdateSize := 5
  lastUpdateV _ := 0

def bridgeState : NetState := (NetState.ofPowers 5 bridgeDevices []).setVirtualNet .minQueue bridgeTable

def bridgeConnections : CConnection := bridgeCircuit.connectionOf bridgeState .minQueue 0 ⟨0, 1, 0, 1⟩ {} ⟨2, 10, 0, 30⟩ {}

theorem bridgeTable_chain (n : Nat) (hn : n < 5) :
    ∃ p, Chain bridgeTable.next n p ∧ (∀ m ∈ p, m < 5) ∧ p.length ≤ 2000 ∧
      (p.map bridgeTable.linkResistance).sum < maxResistance ∧
      p.getLast? = some (bridgeTable.net n).finalNetId ∧
        (p.map bridgeTable.linkResistance).sum = (bridgeTable.net n).finalResistance := by
  have h0 : Chain bridgeTable.next 0 [0] := .root rfl
  have h1 : Chain bridgeTable.next 1 [1, 0] := .link (by decide) h0
  have h2 : Chain bridgeTable.next 2 [2, 1, 0] := .link (by decide) h1
  match n with
  | 0 => exact ⟨_, h0, by decide, by decide, by decide, rfl, rfl⟩
  | 1 => exact ⟨_, h1, by decide, by decide, by decide, rfl, rfl⟩
  | 2 => exact ⟨_, h2, by decide, by decide, by decide, rfl, rfl⟩
  | 3 => exact ⟨_, .link (by decide) h2, by decide, by decide, by decide, rfl, rfl⟩
  | 4 => exact ⟨_, .link (by decide) h0, by decide, by decide, by decide, rfl, rfl⟩
  | n + 5 => omega

theorem bridgeTable_walksTo (n : Nat) (hn : n < 5) :
    bridgeTable.WalksTo n (bridgeTable.net n).finalNetId (bridgeTable.net n).finalResistance := by
  obtain ⟨p, hp, -, -, hmax, hlast, hsum⟩ := bridgeTable_chain n hn
  refine ⟨p, hp, hlast, ?_⟩
  rw [← hsum, min_eq_right (le_of_lt hmax)]

/-- The transistor reroutes net 3 to net 4, and net 2 follows. -/
theorem bridge_keeps_forest :
    ∃ report s', bridgeCircuit.rerouteShorted .minQueue 0 bridgeConnections bridgeState = .ok report s' ∧
      bridgeCircuit.alreadyShortedNets .minQueue 0 bridgeConnections (fun _ => false) bridgeState = .ok false s' ∧
      report = { shifted := [2], messages := [] } ∧
      Reroutes bridgeState .minQueue bridgeConnections report (s'.virtualNet .minQueue) := by
  have htable : bridgeState.virtualNet .minQueue = bridgeTable := NetState.virtualNet_setVirtualNet
  obtain ⟨report, s', hok, hshorted, -, hreroutes⟩ := alreadyShorted_keeps_forest bridgeCircuit .minQueue 0 bridgeConnections
    (fun _ => false) bridgeState rfl
    (by
      intro n hn
      obtain ⟨p, hp, hlt, hlen, hsum, -⟩ := bridgeTable_chain n hn
      exact ⟨p, hp, hlt, hlen, hsum⟩)
    rfl (by rw [htable]; exact fun n hn _ => bridgeTable_walksTo n hn)
    (by
      refine ⟨rfl, fun direction => ?_, fun direction => ?_⟩
      · cases direction <;> decide
      · cases direction with
        | drainToMasterSource => exact bridgeTable_walksTo 3 (by decide)
        | sourceToMasterDrain => exact bridgeTable_walksTo 4 (by decide))
    rfl (by intro direction; cases direction <;> decide)
  refine ⟨report, s', hok, hshorted, ?_, hreroutes⟩
  have hreport : (match bridgeCircuit.rerouteShorted .minQueue 0 bridgeConnections bridgeState with
      | .ok report _ => some report
      | .error _ _ => none) = some { shifted := [2], messages := [] } := by decide +kernel
  rw [hok] at hreport
  exact Option.some.inj hreport

end FlatCircuit
end Cvc
