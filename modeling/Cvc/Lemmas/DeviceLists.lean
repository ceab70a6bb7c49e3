import Mathlib.Data.List.Count
import Cvc.DeviceLists
import Cvc.Lib.Outcome

/-!
# The lists that `LinkDevices` makes

`Counted` is what the lists of a terminal and its counts have in common: each count is the number of listed devices that are
active. `Pair` says so of the two conducting terminals, without saying which of them is the source, and that an active device is
at two nets; `Exact` says so of a state. `Linking` is the invariant of the loop.
-/

namespace Cvc

open Function (update update_self update_of_ne)
open LinkedList List Function

/-- The elements with a property but one. -/
def without (p : Nat → Bool) (d x : Nat) : Bool := p x && x != d

/-- The counts with one less at a net. -/
def lessOne (count : Nat → Nat) (n : Nat) : Nat → Nat := update count n (count n - 1)

theorem without_iff {p : Nat → Bool} {d x : Nat} : without p d x = true ↔ p x = true ∧ x ≠ d := by simp [without]

/-- Taking one element out of a predicate lowers the count of a list that has it by one. -/
theorem countP_without {p : Nat → Bool} {d : Nat} (hd : p d = true) {l : List Nat} (hl : l.Nodup) :
    l.countP (without p d) + (if d ∈ l then 1 else 0) = l.countP p := by
  induction l with
  | nil => rfl
  | cons x l ih =>
    obtain ⟨hx, hl⟩ := nodup_cons.1 hl
    rw [countP_cons, countP_cons, ← ih hl]
    by_cases hxd : x = d
    · subst hxd
      simp [without, hx, hd]
    · simp only [without, mem_cons, Ne.symm hxd, false_or, bne_iff_ne.2 hxd, Bool.and_true]
      omega

/-! ## One terminal -/

/-- The lists of a terminal hold the members, and the counts are those of the active ones. -/
structure Counted (active : Nat → Bool) (members : List Nat) (t : Buckets Nat Nat) (lists : Nat → List Nat) (count : Nat → Nat) :
    Prop where
  holds : t.Holds unknownDevice members lists
  count_eq : ∀ n, count n = (lists n).countP active

/-- The devices that move, to a given net, are not active. -/
def Moves (active : Nat → Bool) (B : Nat) (t t' : Buckets Nat Nat) : Prop :=
  ∀ x, t'.owner x = t.owner x ∨ t'.owner x = B ∧ ¬active x = true

namespace Moves

variable {active : Nat → Bool} {B x : Nat} {t t' : Buckets Nat Nat} (h : Moves active B t t')
include h

/-- A device that is still active has not moved. -/
theorem owner_eq (hx : active x = true) : t'.owner x = t.owner x := (h x).resolve_right fun hmoved => hmoved.2 hx

theorem lt {n : Nat} (hB : B < n) (hx : t.owner x < n) : t'.owner x < n := by
  rcases h x with heq | ⟨heq, -⟩ <;> rwa [heq]

end Moves

namespace Counted

variable {active : Nat → Bool} {members : List Nat} {t : Buckets Nat Nat} {lists : Nat → List Nat} {count : Nat → Nat}
  (h : Counted active members t lists count) {d : Nat}
include h

section
variable (hd : d ∈ members) (ha : active d = true)
include hd ha

theorem count_pos : 0 < count (t.owner d) := by
  rw [h.count_eq]
  exact countP_pos_iff.2 ⟨d, (h.holds.mem_iff _ d).2 ⟨hd, rfl⟩, ha⟩

/-- The counts without an active device. -/
theorem count_without (n : Nat) : (lists n).countP (without active d) = lessOne count (t.owner d) n := by
  have hcount := countP_without ha (h.holds.nodup n)
  unfold lessOne
  by_cases hn : n = t.owner d
  · subst hn
    rw [if_pos ((h.holds.mem_iff _ d).2 ⟨hd, rfl⟩)] at hcount
    rw [update_self, h.count_eq]
    omega
  · rw [if_neg fun hmem => hn ((h.holds.mem_iff n d).1 hmem).2.symm] at hcount
    rw [update_of_ne hn, h.count_eq, ← hcount, Nat.add_zero]

/-- An active device is taken out, and a list without another one is poured into a second list. -/
theorem pour {A B fuel : Nat} (hAB : A ≠ B) (hfuel : members.length ≤ fuel) (hzero : lessOne count (t.owner d) A = 0) :
    ∃ t' lists', Buckets.pour unknownDevice fuel A B t = some t' ∧
      Counted (without active d) members t' lists' (lessOne count (t.owner d)) ∧ Moves (without active d) B t t' := by
  obtain ⟨t', hpour, hholds, howner⟩ := h.holds.pour hAB hfuel
  rw [← h.count_without hd ha] at hzero
  refine ⟨t', _, hpour, ⟨hholds, fun n => ?_⟩, fun x => ?_⟩
  · rw [← h.count_without hd ha]
    by_cases hA : n = A
    · rw [hA, hzero, update_self, countP_nil]
    · by_cases hB : n = B
      · rw [update_of_ne hA, hB, update_self, countP_append, countP_reverse, hzero, Nat.zero_add]
      · rw [update_of_ne hA, update_of_ne hB]
  · rw [howner]
    split
    case isTrue hmem => exact .inr ⟨rfl, countP_eq_zero.1 hzero x hmem⟩
    case isFalse => exact .inl rfl

end

/-- A new active device. -/
theorem push (hd : d ∉ members) (hmark : d ≠ unknownDevice) (ha : active d = true) (a : Nat) :
    Counted active (d :: members) (t.putFirst a d) (update lists a (d :: lists a)) (update count a (count a + 1)) := by
  refine ⟨h.holds.push hd hmark a, fun n => ?_⟩
  by_cases hn : n = a
  · rw [hn, update_self, update_self, countP_cons_of_pos ha, h.count_eq]
  · rw [update_of_ne hn, update_of_ne hn, h.count_eq]

/-- Writes to other devices change nothing. -/
theorem congr {active' : Nat → Bool} {t' : Buckets Nat Nat} (hactive : ∀ d ∈ members, active' d = active d)
    (hholds : t'.Holds unknownDevice members lists) : Counted active' members t' lists count := by
  refine ⟨hholds, fun n => (h.count_eq n).trans (countP_congr fun d hd => ?_)⟩
  rw [hactive d ((hholds.mem_iff n d).1 hd).1]

end Counted

/-! ## The conducting terminals -/

/-- The lists and the counts of the two conducting terminals of the devices. -/
structure Pair (active : Nat → Bool) (members : List Nat) (t u : Buckets Nat Nat) (firsts seconds : Nat → List Nat)
    (firstCount secondCount : Nat → Nat) : Prop where
  first : Counted active members t firsts firstCount
  second : Counted active members u seconds secondCount
  apart : ∀ d ∈ members, active d = true → t.owner d ≠ u.owner d

namespace Pair

variable {active : Nat → Bool} {members : List Nat} {t u : Buckets Nat Nat} {firsts seconds : Nat → List Nat}
  {firstCount secondCount : Nat → Nat} (h : Pair active members t u firsts seconds firstCount secondCount) {d : Nat}
include h

theorem symm : Pair active members u t seconds firsts secondCount firstCount :=
  ⟨h.second, h.first, fun d hd ha => (h.apart d hd ha).symm⟩

/-- Shorting a device from a net with no other connection to its other net. -/
theorem short (hd : d ∈ members) (ha : active d = true) (hone : firstCount (t.owner d) + secondCount (t.owner d) = 1)
    {fuel : Nat} (hfuel : members.length ≤ fuel) : ∃ t' u' firsts' seconds',
      Buckets.pour unknownDevice fuel (t.owner d) (u.owner d) t = some t' ∧
      Buckets.pour unknownDevice fuel (t.owner d) (u.owner d) u = some u' ∧
      Pair (without active d) members t' u' firsts' seconds' (lessOne firstCount (t.owner d)) (lessOne secondCount (u.owner d)) ∧
      lessOne firstCount (t.owner d) (t.owner d) + lessOne secondCount (u.owner d) (t.owner d) = 0 ∧
      Moves (without active d) (u.owner d) t t' ∧ Moves (without active d) (u.owner d) u u' := by
  have hne := h.apart d hd ha
  have hpos := h.first.count_pos hd ha
  have hzero : lessOne firstCount (t.owner d) (t.owner d) = 0 := by
    rw [lessOne, update_self]
    omega
  have hzero' : lessOne secondCount (u.owner d) (t.owner d) = 0 := by
    rw [lessOne, update_of_ne hne]
    omega
  obtain ⟨t', firsts', hfirst, hcounted, hmoves⟩ := h.first.pour hd ha hne hfuel hzero
  obtain ⟨u', seconds', hsecond, hcounted', hmoves'⟩ := h.second.pour hd ha hne hfuel hzero'
  refine ⟨t', u', firsts', seconds', hfirst, hsecond, ⟨hcounted, hcounted', fun x hx hax => ?_⟩, by rw [hzero, hzero'],
    hmoves, hmoves'⟩
  rw [hmoves.owner_eq hax, hmoves'.owner_eq hax]
  exact h.apart x hx (without_iff.1 hax).1

/-- A new active device between two nets. -/
theorem push {a b : Nat} (hd : d ∉ members) (hmark : d ≠ unknownDevice) (ha : active d = true) (hab : a ≠ b) :
    Pair active (d :: members) (t.putFirst a d) (u.putFirst b d) (update firsts a (d :: firsts a))
      (update seconds b (d :: seconds b)) (update firstCount a (firstCount a + 1))
        (update secondCount b (secondCount b + 1)) := by
  refine ⟨h.first.push hd hmark ha a, h.second.push hd hmark ha b, fun x hx hax => ?_⟩
  show update t.owner d a x ≠ update u.owner d b x
  by_cases hxd : x = d
  · rwa [hxd, update_self, update_self]
  · rw [update_of_ne hxd, update_of_ne hxd]
    exact h.apart x ((mem_cons.1 hx).resolve_left hxd) hax

end Pair

/-! ## The lists of all terminals -/

/-- The device has not been ignored or shorted. -/
def LinkState.active (s : LinkState) (d : Nat) : Bool := !(s.deviceStatus d).simInactive

namespace LinkCircuit

variable (c : LinkCircuit)

/-- The lists of a state hold the members, and the counts and nets agree with them. -/
structure Exact (members gateMembers : List Nat) (s : LinkState) : Prop where
  pair : ∃ sources drains, Pair s.active members s.source s.drain sources drains (fun n => (s.connectionCount n).sourceCount)
    fun n => (s.connectionCount n).drainCount
  gate : ∃ gates, s.gate.Holds unknownDevice gateMembers gates ∧ ∀ n, (s.connectionCount n).gateCount = (gates n).length
  net_lt : ∀ d ∈ members, s.source.owner d < c.netCount ∧ s.drain.owner d < c.netCount
  gate_lt : ∀ d ∈ gateMembers, s.gate.owner d < c.netCount
  no_gate : ∀ d ∈ members, d ∉ gateMembers → s.gate.owner d = unknownNet

variable {c} {members gateMembers : List Nat} {s s' : LinkState} {t : Buckets Nat Nat}

theorem Exact.of_mem_iff (h : c.Exact members gateMembers s) {members' gateMembers' : List Nat}
    (hmem : ∀ d, d ∈ members' ↔ d ∈ members) (hgate : ∀ d, d ∈ gateMembers' ↔ d ∈ gateMembers) :
      c.Exact members' gateMembers' s := by
  obtain ⟨sources, drains, hpair⟩ := h.pair
  obtain ⟨gates, hgates, hcount⟩ := h.gate
  refine ⟨⟨sources, drains, ⟨hpair.first.holds.of_mem_iff hmem, hpair.first.count_eq⟩,
    ⟨hpair.second.holds.of_mem_iff hmem, hpair.second.count_eq⟩, fun d hd => hpair.apart d ((hmem d).1 hd)⟩,
    ⟨gates, hgates.of_mem_iff hgate, hcount⟩, fun d hd => h.net_lt d ((hmem d).1 hd),
    fun d hd => h.gate_lt d ((hgate d).1 hd), fun d hd hd' => ?_⟩
  exact h.no_gate d ((hmem d).1 hd) (mt (hgate d).2 hd')

/-! ## Linking -/

/-- The types with a conducting path from source to drain. -/
def isConducting : ModelType → Bool
  | .nmos | .pmos | .lddn | .lddp | .fuseOn | .fuseOff | .resistor => true
  | _ => false

/-- The types with a gate list. -/
def hasGate : ModelType → Bool
  | .nmos | .pmos | .lddn | .lddp => true
  | _ => false

variable (c) in
/-- The devices that `LinkDevices` puts in lists: the conducting ones between two nets. -/
def links (d : DeviceEntry) : Bool :=
  isConducting d.type &&
    match c.setDeviceNets d with
    | .ok (mySourceNet, _, myDrainNet, _) => mySourceNet != myDrainNet
    | .error _ => false

variable (c) in
def linkedOf (devices : List DeviceEntry) : List Nat := (devices.filter c.links).map DeviceEntry.id

variable (c) in
def gatesOf (devices : List DeviceEntry) : List Nat := (devices.filter fun d => c.links d && hasGate d.type).map DeviceEntry.id

variable {done : List DeviceEntry} {d : DeviceEntry} {sourceNet gateNet drainNet bulkNet : Nat}

theorem signalNet_lt (hd : d ∈ c.devices) {i n : Nat} (h : c.signalNet d i = .ok n) : n < c.netCount := by
  unfold signalNet at h
  split at h
  case h_1 m hm =>
    cases h
    exact c.net_lt d hd m (mem_of_getElem? hm)
  case h_2 => nomatch h

/-- The nets that `SetDeviceNets` sets for a conducting device. -/
theorem setDeviceNets_spec (hd : d ∈ c.devices) (htype : isConducting d.type = true)
    (h : c.setDeviceNets d = .ok (sourceNet, gateNet, drainNet, bulkNet)) :
    (sourceNet < c.netCount ∧ drainNet < c.netCount) ∧ (hasGate d.type = true → gateNet < c.netCount) ∧
      (hasGate d.type = false → gateNet = unknownNet) := by
  unfold setDeviceNets at h
  cases hd' : d.type <;> simp only [hd', isConducting, Bool.false_eq_true] at htype h <;> simp only [hasGate]
  all_goals
    simp only [bind_eq_ok] at h
    obtain ⟨a, ha, b, hb, h⟩ := h
  all_goals first
    | obtain ⟨e, he, f, -, h⟩ := h
      cases h
      exact ⟨⟨signalNet_lt hd he, signalNet_lt hd ha⟩, fun _ => signalNet_lt hd hb, nofun⟩
    | obtain ⟨e, -, h⟩ := h
      cases h
      exact ⟨⟨signalNet_lt hd ha, signalNet_lt hd hb⟩, nofun, fun _ => rfl⟩

/-- A device comes in front of the list of its net, whether its link is written or is the mark already. -/
theorem linkTerminal_eq {id : Nat} (hnext : t.next id = unknownDevice) (net : Nat) :
    linkTerminal { t with owner := update t.owner id net } id = t.putFirst net id := by
  have hlink : (if t.first net ≠ unknownDevice then update t.next id (t.first net) else t.next) =
      update t.next id (t.first net) := by
    split
    · rfl
    case isFalse h => rw [not_not.1 h, ← hnext, update_eq_self]
  simp only [linkTerminal, Buckets.putFirst, update_self, hlink]

/-- The connection counts with the gate of a device that has one. -/
def addGate (counts : Nat → CConnectionCount) (type : ModelType) (gateNet : Nat) : Nat → CConnectionCount :=
  if hasGate type then update counts gateNet { counts gateNet with gateCount := (counts gateNet).gateCount + 1 } else counts

/-- A state with a device in the lists of its nets. -/
def linked (s : LinkState) (d : DeviceEntry) (sourceNet gateNet drainNet bulkNet : Nat) : LinkState :=
  { s with
    source := s.source.putFirst sourceNet d.id
    drain := s.drain.putFirst drainNet d.id
    gate := if hasGate d.type then s.gate.putFirst gateNet d.id else { s.gate with owner := update s.gate.owner d.id gateNet }
    bulkNet := update s.bulkNet d.id bulkNet
    connectionCount := addConnections (addGate s.connectionCount d.type gateNet) sourceNet drainNet
      (if d.type.isNmos then .nmos else if d.type.isPmos then .pmos else d.type)
    deviceType := update s.deviceType d.id (some d.type) }

/-- What a round of `LinkDevices` does with a device that has no links yet. -/
theorem linkDevice_cases (h : c.linkDevice s d = .ok s') (hsource : s.source.next d.id = unknownDevice)
    (hdrain : s.drain.next d.id = unknownDevice) (hgate : s.gate.next d.id = unknownDevice) :
    ∃ sourceNet gateNet drainNet bulkNet, c.setDeviceNets d = .ok (sourceNet, gateNet, drainNet, bulkNet) ∧
      ((c.links d = false ∧ ∃ status : Nat → DeviceStatus, (∀ x, x ≠ d.id → status x = s.deviceStatus x) ∧
          (d.type = .resistor → (status d.id).simInactive = true) ∧
          s' = { setDevice s d sourceNet gateNet drainNet bulkNet with deviceStatus := status }) ∨
        (c.links d = true ∧ sourceNet ≠ drainNet ∧ s' = linked s d sourceNet gateNet drainNet bulkNet)) := by
  obtain ⟨⟨sourceNet, gateNet, drainNet, bulkNet⟩, hnets, h⟩ := bind_eq_ok.1 h
  refine ⟨sourceNet, gateNet, drainNet, bulkNet, hnets, ?_⟩
  dsimp only at h
  split at h
  case isTrue heq =>
    cases h
    refine .inl ⟨?_, _, fun x hx => update_of_ne hx _ _, fun _ => ?_, rfl⟩
    · simp [links, hnets, heq]
    · rw [update_self]
      rfl
  case isFalse hne =>
    cases htype : d.type <;> rw [htype] at h
    case nmos | pmos | lddn | lddp | fuseOn | fuseOff | resistor =>
      refine .inr ⟨by simp [links, hnets, hne, htype, isConducting], hne, ?_⟩
      simp only [linkSourceDrain, linkGate, setDevice, update_self, if_neg (Ne.symm hne), linkTerminal_eq hsource,
        linkTerminal_eq hdrain, linkTerminal_eq hgate] at h
      cases h
      simp only [linked, addGate, htype, hasGate]
      rfl
    case switchOn =>
      cases h
      exact .inl ⟨by simp [links, htype, isConducting], s.deviceStatus, fun _ _ => rfl, nofun, rfl⟩
    case bipolar | diode | switchOff | capacitor =>
      cases h
      exact .inl ⟨by simp [links, htype, isConducting], _, fun x hx => update_of_ne hx _ _, nofun, rfl⟩
    case mosfet | box => nomatch h

section
variable (counts : Nat → CConnectionCount) (A B : Nat) (type : ModelType)

theorem addConnections_eq : (fun n => (addConnections counts A B type n).sourceCount) =
        update (fun n => (counts n).sourceCount) A ((counts A).sourceCount + 1) ∧
      (fun n => (addConnections counts A B type n).drainCount) =
        update (fun n => (counts n).drainCount) B ((counts B).drainCount + 1) ∧
      ∀ n, (addConnections counts A B type n).gateCount = (counts n).gateCount := by
  refine ⟨funext fun n => ?_, funext fun n => ?_, fun n => ?_⟩ <;> by_cases hB : n = B <;> by_cases hA : n = A <;> subst_vars <;>
    simp [addConnections, *]

theorem addGate_eq (n : Nat) : (addGate counts type A n).sourceCount = (counts n).sourceCount ∧
    (addGate counts type A n).drainCount = (counts n).drainCount ∧
    (addGate counts type A n).gateCount = (counts n).gateCount + if hasGate type = true ∧ n = A then 1 else 0 := by
  unfold addGate
  cases hasGate type <;> by_cases hA : n = A <;> simp [hA]

end

section
variable (h : c.Exact members gateMembers s)
include h

/-- Writes to a device that is in no list. -/
theorem Exact.write_other {id : Nat} (hid : id ∉ members) (hid' : id ∉ gateMembers)
    {bulkNet : Nat → Nat} {deviceType : Nat → Option ModelType} {status : Nat → DeviceStatus}
    (hstatus : ∀ d, d ≠ id → status d = s.deviceStatus d) : c.Exact members gateMembers
      { s with
        deviceType := deviceType
        deviceStatus := status
        bulkNet := bulkNet
        source := { s.source with owner := update s.source.owner id sourceNet }
        gate := { s.gate with owner := update s.gate.owner id gateNet }
        drain := { s.drain with owner := update s.drain.owner id drainNet } } := by
  obtain ⟨sources, drains, hpair⟩ := h.pair
  obtain ⟨gates, hgates, hcount⟩ := h.gate
  have hne : ∀ d ∈ members, d ≠ id := fun d hd heq => hid (heq ▸ hd)
  have hne' : ∀ d ∈ gateMembers, d ≠ id := fun d hd heq => hid' (heq ▸ hd)
  have hactive : ∀ d ∈ members, (!(status d).simInactive) = s.active d := fun d hd => by rw [hstatus d (hne d hd)]; rfl
  refine ⟨⟨sources, drains, hpair.first.congr hactive ?_, hpair.second.congr hactive ?_, fun d hd ha => ?_⟩,
    ⟨gates, ?_, hcount⟩, fun d hd => ?_, fun d hd => ?_, fun d hd hd' => ?_⟩
  · exact hpair.first.holds.congr rfl rfl fun d hd => update_of_ne (hne d hd) _ _
  · exact hpair.second.holds.congr rfl rfl fun d hd => update_of_ne (hne d hd) _ _
  · simp only [update_of_ne (hne d hd)]
    exact hpair.apart d hd ((hactive d hd).symm.trans ha)
  · exact hgates.congr rfl rfl fun d hd => update_of_ne (hne' d hd) _ _
  · simp only [update_of_ne (hne d hd)]
    exact h.net_lt d hd
  · simp only [update_of_ne (hne' d hd)]
    exact h.gate_lt d hd
  · simp only [update_of_ne (hne d hd)]
    exact h.no_gate d hd hd'

/-- A new active device in the lists of its nets. -/
theorem Exact.linked (hid : d.id ∉ members) (hgid : d.id ∉ gateMembers) (hmark : d.id ≠ unknownDevice)
    (hactive : s.active d.id = true) (hne : sourceNet ≠ drainNet) (hlt : sourceNet < c.netCount ∧ drainNet < c.netCount)
    (hglt : hasGate d.type = true → gateNet < c.netCount) (hnogate : hasGate d.type = false → gateNet = unknownNet) :
    c.Exact (d.id :: members) (if hasGate d.type then d.id :: gateMembers else gateMembers)
      (LinkCircuit.linked s d sourceNet gateNet drainNet bulkNet) := by
  obtain ⟨sources, drains, hpair⟩ := h.pair
  obtain ⟨gates, hgates, hcount⟩ := h.gate
  have hother : ∀ x ∈ members, x ≠ d.id := fun x hx heq => hid (heq ▸ hx)
  have hgother : ∀ x ∈ gateMembers, x ≠ d.id := fun x hx heq => hgid (heq ▸ hx)
  have hpush := hpair.push hid hmark hactive hne
  have hgateCounts := addGate_eq s.connectionCount gateNet d.type
  obtain ⟨hsources, hdrains, hgateCount⟩ := addConnections_eq (addGate s.connectionCount d.type gateNet) sourceNet drainNet
    (if d.type.isNmos then .nmos else if d.type.isPmos then .pmos else d.type)
  simp only [(hgateCounts _).1, (hgateCounts _).2.1, (hgateCounts _).2.2] at hsources hdrains hgateCount
  rw [← hsources, ← hdrains] at hpush
  have hnets : ∀ x ∈ d.id :: members, update s.source.owner d.id sourceNet x < c.netCount ∧
      update s.drain.owner d.id drainNet x < c.netCount := by
    refine forall_mem_cons.2 ⟨by simpa using hlt, fun x hx => ?_⟩
    rw [update_of_ne (hother x hx), update_of_ne (hother x hx)]
    exact h.net_lt x hx
  have howner : (LinkCircuit.linked s d sourceNet gateNet drainNet bulkNet).gate.owner = update s.gate.owner d.id gateNet := by
    unfold LinkCircuit.linked
    cases hasGate d.type <;> rfl
  have hgates_lt : ∀ x ∈ gateMembers, update s.gate.owner d.id gateNet x < c.netCount := fun x hx => by
    rw [update_of_ne (hgother x hx)]
    exact h.gate_lt x hx
  refine ⟨⟨_, _, hpush⟩, ?_, hnets, ?_, forall_mem_cons.2 ⟨fun hnot => ?_, fun x hx hnot => ?_⟩⟩
  · simp only [LinkCircuit.linked, hgateCount]
    cases hasGate d.type
    · exact ⟨gates, hgates.congr rfl rfl fun x hx => update_of_ne (hgother x hx) _ _, by simpa using hcount⟩
    · refine ⟨_, hgates.push hgid hmark gateNet, fun n => ?_⟩
      by_cases hn : n = gateNet <;> simp [hn, hcount]
  · rw [howner]
    cases hgate : hasGate d.type
    · exact hgates_lt
    · exact forall_mem_cons.2 ⟨by simpa using hglt hgate, hgates_lt⟩
  · rw [howner, update_self]
    cases hgate : hasGate d.type
    · exact hnogate hgate
    · exact absurd (by simp [hgate]) hnot
  · rw [howner, update_of_ne (hother x hx)]
    refine h.no_gate x hx fun hmem => hnot ?_
    split
    · exact mem_cons_of_mem _ hmem
    · exact hmem

end

variable (c) in
/-- The lists while devices are linked, where `done` has the last device first: a device that is in no list has no link, and one
not handled yet no type. -/
structure Linking (done : List DeviceEntry) (s : LinkState) : Prop where
  exact : c.Exact (c.linkedOf done) (c.gatesOf done) s
  next_source : ∀ d, d ∉ c.linkedOf done → s.source.next d = unknownDevice
  next_drain : ∀ d, d ∉ c.linkedOf done → s.drain.next d = unknownDevice
  next_gate : ∀ d, d ∉ c.gatesOf done → s.gate.next d = unknownDevice
  resistor : ∀ d, s.deviceType d = some .resistor → s.active d = true → d ∈ c.linkedOf done
  fresh : ∀ d, d ∉ done.map DeviceEntry.id → s.deviceStatus d = c.deviceStatus d
  active : ∀ d ∈ c.linkedOf done, s.active d = true

/-- Before the first device all lists are empty. -/
theorem linking_unlinked : c.Linking [] c.unlinked := by
  have hholds : Buckets.Holds unknownDevice noDevices [] fun _ => [] :=
    ⟨fun _ => rfl, fun _ => nodup_nil, fun _ _ => iff_of_false not_mem_nil fun h => not_mem_nil h.1⟩
  exact ⟨⟨⟨_, _, ⟨hholds, fun _ => rfl⟩, ⟨hholds, fun _ => rfl⟩, nofun⟩, ⟨_, hholds, fun _ => rfl⟩, nofun, nofun, nofun⟩,
    fun _ _ => rfl, fun _ _ => rfl, fun _ _ => rfl, nofun, fun _ _ => rfl, nofun⟩

theorem linkedOf_cons : c.linkedOf (d :: done) = if c.links d then d.id :: c.linkedOf done else c.linkedOf done := by
  unfold linkedOf
  cases h : c.links d <;> simp [h]

theorem gatesOf_cons :
    c.gatesOf (d :: done) = if c.links d && hasGate d.type then d.id :: c.gatesOf done else c.gatesOf done := by
  unfold gatesOf
  cases h : c.links d && hasGate d.type <;> simp [h]

theorem linkedOf_subset {x : Nat} (hx : x ∈ c.linkedOf done) : x ∈ done.map DeviceEntry.id :=
  map_subset _ (filter_subset_self _) hx

theorem gatesOf_subset {x : Nat} (hx : x ∈ c.gatesOf done) : x ∈ done.map DeviceEntry.id :=
  map_subset _ (filter_subset_self _) hx

theorem isConducting_of_links (hlinks : c.links d = true) : isConducting d.type = true :=
  (Bool.and_eq_true_iff.1 hlinks).1

/-- A device that is linked is not inactive yet. -/
theorem active_of_links (hd : d ∈ c.devices) (hlinks : c.links d = true) : (c.deviceStatus d.id).simInactive = false := by
  refine c.active d hd fun htype => ?_
  have := isConducting_of_links hlinks
  rw [htype] at this
  nomatch this

namespace Linking

variable (h : c.Linking done s) (hnew : d.id ∉ done.map DeviceEntry.id)
include h hnew

/-- A device that is not linked. -/
theorem skip (hlinks : c.links d = false) {status : Nat → DeviceStatus} (hstatus : ∀ x, x ≠ d.id → status x = s.deviceStatus x)
    (hresistor : d.type = .resistor → (status d.id).simInactive = true) :
    c.Linking (d :: done) { setDevice s d sourceNet gateNet drainNet bulkNet with deviceStatus := status } := by
  have hlinked : c.linkedOf (d :: done) = c.linkedOf done := by simp [linkedOf_cons, hlinks]
  have hgates : c.gatesOf (d :: done) = c.gatesOf done := by simp [gatesOf_cons, hlinks]
  have hactive : ∀ x, x ≠ d.id → (!(status x).simInactive) = s.active x := fun x hx => by rw [hstatus x hx]; rfl
  refine ⟨?_, hlinked ▸ h.next_source, hlinked ▸ h.next_drain, hgates ▸ h.next_gate, fun x htype hx => ?_, fun x hx => ?_, ?_⟩
  · rw [hlinked, hgates]
    exact h.exact.write_other (mt linkedOf_subset hnew) (mt gatesOf_subset hnew) hstatus
  · rw [hlinked]
    by_cases heq : x = d.id
    · subst heq
      rw [show (setDevice s d sourceNet gateNet drainNet bulkNet).deviceType d.id = some d.type from update_self ..] at htype
      rw [LinkState.active, hresistor (Option.some.inj htype)] at hx
      nomatch hx
    · rw [show (setDevice s d sourceNet gateNet drainNet bulkNet).deviceType x = s.deviceType x from update_of_ne heq _ _]
        at htype
      exact h.resistor x htype ((hactive x heq).symm.trans hx)
  · obtain ⟨hxd, hx⟩ := not_or.1 (mt mem_cons.2 hx)
    exact (hstatus x hxd).trans (h.fresh x hx)
  · rw [hlinked]
    exact fun x hx => (hactive x fun heq => hnew (heq ▸ linkedOf_subset hx)).trans (h.active x hx)

/-- One more device of `LinkDevices`. -/
theorem step (hd : d ∈ c.devices) (hok : c.linkDevice s d = .ok s') : c.Linking (d :: done) s' := by
  have hid : d.id ∉ c.linkedOf done := mt linkedOf_subset hnew
  have hgid : d.id ∉ c.gatesOf done := mt gatesOf_subset hnew
  obtain ⟨sourceNet, gateNet, drainNet, bulkNet, hnets, hcase⟩ :=
    linkDevice_cases hok (h.next_source _ hid) (h.next_drain _ hid) (h.next_gate _ hgid)
  rcases hcase with ⟨hlinks, status, hstatus, hresistor, rfl⟩ | ⟨hlinks, hne, rfl⟩
  · exact h.skip hnew hlinks hstatus hresistor
  have hmark : d.id ≠ unknownDevice := Nat.ne_of_lt (Nat.lt_of_lt_of_le (c.id_lt d hd) c.deviceCount_le)
  have hlinked : c.linkedOf (d :: done) = d.id :: c.linkedOf done := by rw [linkedOf_cons, if_pos hlinks]
  have hgates : c.gatesOf (d :: done) = if hasGate d.type then d.id :: c.gatesOf done else c.gatesOf done := by
    rw [gatesOf_cons, hlinks, Bool.true_and]
  obtain ⟨hlt, hglt, hnogate⟩ := setDeviceNets_spec hd (isConducting_of_links hlinks) hnets
  have hactive : s.active d.id = true := by
    rw [LinkState.active, h.fresh _ hnew, active_of_links hd hlinks]
    rfl
  refine ⟨?_, fun x hx => ?_, fun x hx => ?_, fun x hx => ?_, fun x hx hax => ?_, fun x hx => ?_, ?_⟩
  · rw [hlinked, hgates]
    exact h.exact.linked hid hgid hmark hactive hne hlt hglt hnogate
  · obtain ⟨hxd, hx⟩ := not_or.1 (mt mem_cons.2 (hlinked ▸ hx))
    exact (update_of_ne hxd _ _).trans (h.next_source x hx)
  · obtain ⟨hxd, hx⟩ := not_or.1 (mt mem_cons.2 (hlinked ▸ hx))
    exact (update_of_ne hxd _ _).trans (h.next_drain x hx)
  · rw [hgates] at hx
    unfold linked
    cases hgate : hasGate d.type <;> simp only [hgate] at hx ⊢
    · exact h.next_gate x hx
    · obtain ⟨hxd, hx⟩ := not_or.1 (mt mem_cons.2 hx)
      exact (update_of_ne hxd _ _).trans (h.next_gate x hx)
  · rw [hlinked, mem_cons]
    by_cases hxd : x = d.id
    · exact .inl hxd
    · rw [show (linked s d sourceNet gateNet drainNet bulkNet).deviceType x = s.deviceType x from update_of_ne hxd _ _] at hx
      exact .inr (h.resistor x hx hax)
  · exact h.fresh x fun hmem => hx (mem_cons_of_mem _ hmem)
  · rw [hlinked]
    exact forall_mem_cons.2 ⟨hactive, h.active⟩

end Linking

/-- `LinkDevices` puts every device that is linked in its lists. -/
theorem linking_linkDevices (hok : c.linkDevices = .ok s) : c.Linking c.devices.reverse s := by
  refine (Outcome.foldlM (I := fun done s => c.Linking done.reverse s) (E := fun _ => True) linking_unlinked
    fun done d rest heq s h => ?_).of_ok hok
  have hnodup := c.ids_nodup
  rw [heq, map_append, map_cons] at hnodup
  have hnew : d.id ∉ done.reverse.map DeviceEntry.id := by
    rw [map_reverse, mem_reverse]
    exact fun hmem => (nodup_append.1 hnodup).2.2 _ hmem _ mem_cons_self rfl
  rw [reverse_append]
  cases hok : c.linkDevice s d with
  | error => trivial
  | ok s' => exact h.step hnew (heq ▸ mem_append_right _ mem_cons_self) hok

end LinkCircuit
end Cvc
