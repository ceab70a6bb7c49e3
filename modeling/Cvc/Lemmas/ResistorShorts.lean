import Cvc.Lemmas.DeviceLists
import Cvc.Lemmas.VirtualNet

/-!
# Shorting resistors

What one short does is `Shorted`: its resistor is no longer active, and its first net has no active devices left. The active
devices themselves never move, so a run takes leaves off the graph that `LinkDevices` made, and `Dangles` says of that graph which
resistors it can take. `Peeled` is the invariant of the run: every device that is no longer active dangles.
-/

namespace Cvc

open Function (update update_self update_of_ne)
open List

namespace LinkCircuit

open CVirtualNetVector

variable (c : LinkCircuit)

/-- The devices that `LinkDevices` puts in the lists of their sources and drains. -/
def linkedDevices : List Nat := c.linkedOf c.devices

/-- The linked devices with gates. -/
def gateDevices : List Nat := c.gatesOf c.devices

/-- The lists are exact, and every active resistor is in them. -/
structure Sound (s : LinkState) : Prop where
  exact : c.Exact c.linkedDevices c.gateDevices s
  resistor : ∀ d, s.deviceType d = some .resistor → s.active d = true → d ∈ c.linkedDevices

variable {c} in
/-- The calls of `ShortNonConductingResistor`: an active resistor at a net that has no other connection, with its other net. -/
structure CanShort (s : LinkState) (theDeviceId theFirstNet theSecondNet : Nat) (theDirection : ShortDirection) : Prop where
  resistor : s.deviceType theDeviceId = some .resistor
  active : s.active theDeviceId = true
  nets : match theDirection with
    | .sourceToMasterDrain => s.source.owner theDeviceId = theFirstNet ∧ s.drain.owner theDeviceId = theSecondNet
    | .drainToMasterSource => s.drain.owner theDeviceId = theFirstNet ∧ s.source.owner theDeviceId = theSecondNet
  one : (s.connectionCount theFirstNet).sourceDrainCount = 1

/-- A sequence of resistor shorts. -/
inductive Shorts : LinkState → LinkState → Prop where
  | refl (s : LinkState) : Shorts s s
  | short {s s₁ s₂ : LinkState} {d A B : Nat} {dir : ShortDirection} (hcan : CanShort s d A B dir)
      (hok : c.shortResistor s d A B dir = .ok s₁) (h : Shorts s₁ s₂) : Shorts s s₂

/-- The assertion of `CVirtualNetVector::Set` on the length of a chain. -/
def chainTooLong : Failure := .assertionFailed "myLinkCount < 5021"

/-- An active device with its source or its drain at a net. -/
def LiveAt (s : LinkState) (n d : Nat) : Prop :=
  d ∈ c.linkedDevices ∧ s.active d = true ∧ (s.source.owner d = n ∨ s.drain.owner d = n)

/-- What a short does. -/
structure Shorted (s : LinkState) (d A B : Nat) (s' : LinkState) : Prop where
  sound : c.Sound s'
  type_eq : s'.deviceType = s.deviceType
  active_eq : s'.active = without s.active d
  ne : A ≠ B
  liveAt_iff : ∀ n x, c.LiveAt s' n x ↔ c.LiveAt s n x ∧ x ≠ d
  first : ∀ x, ¬c.LiveAt s' A x
  next_eq : ∀ q, (s.virtualNet q).next B = B → (s'.virtualNet q).next = update (s.virtualNet q).next A B

variable {c} {s₀ s s₁ s' : LinkState} {d A B n : Nat} {dir : ShortDirection} {nets : List Nat}

theorem sublist_range {l : List Nat} (hl : l.Sublist (c.devices.map DeviceEntry.id)) : l.length ≤ c.deviceCount := by
  have hsub : l ⊆ .range c.deviceCount := by
    intro x hx
    obtain ⟨d, hd, rfl⟩ := mem_map.1 (hl.subset hx)
    exact mem_range.2 (c.id_lt d hd)
  have := ((c.ids_nodup.sublist hl).subperm hsub).length_le
  rwa [length_range] at this

theorem linkedDevices_sublist : c.linkedDevices.Sublist (c.devices.map DeviceEntry.id) := filter_sublist.map _

theorem linkedDevices_length_le : c.linkedDevices.length ≤ c.deviceCount := sublist_range linkedDevices_sublist

theorem gateDevices_length_le : c.gateDevices.length ≤ c.deviceCount := sublist_range (filter_sublist.map _)

/-- After `LinkDevices` the lists are exact, and no linked device is shorted. -/
theorem sound_linkDevices (hlink : c.linkDevices = .ok s) : c.Sound s ∧ ∀ d ∈ c.linkedDevices, s.active d = true := by
  have h := linking_linkDevices hlink
  have hmem : ∀ d, d ∈ c.linkedDevices ↔ d ∈ c.linkedOf c.devices.reverse := by simp [linkedDevices, linkedOf]
  have hgate : ∀ d, d ∈ c.gateDevices ↔ d ∈ c.gatesOf c.devices.reverse := by simp [gateDevices, gatesOf]
  exact ⟨⟨h.exact.of_mem_iff hmem hgate, fun d hd ha => (hmem d).2 (h.resistor d hd ha)⟩, fun d hd => h.active d ((hmem d).1 hd)⟩

/-! ## One short -/

section
variable (counts : Nat → CConnectionCount) (A B : Nat)

theorem removeConnections_eq (dir : ShortDirection) :
    (∀ n, (removeConnections counts A B dir n).gateCount = (counts n).gateCount) ∧
    match dir with
    | .sourceToMasterDrain =>
      (fun n => (removeConnections counts A B dir n).sourceCount) = lessOne (fun n => (counts n).sourceCount) A ∧
        (fun n => (removeConnections counts A B dir n).drainCount) = lessOne (fun n => (counts n).drainCount) B
    | .drainToMasterSource =>
      (fun n => (removeConnections counts A B dir n).drainCount) = lessOne (fun n => (counts n).drainCount) A ∧
        (fun n => (removeConnections counts A B dir n).sourceCount) = lessOne (fun n => (counts n).sourceCount) B := by
  cases dir <;> refine ⟨fun n => ?_, funext fun n => ?_, funext fun n => ?_⟩ <;> by_cases hB : n = B <;> by_cases hA : n = A <;>
    subst_vars <;> simp [removeConnections, lessOne, *]

variable {A B} in
/-- The merge counts the gates anew and keeps the other counts. -/
theorem mergeCounts_eq (hAB : A ≠ B) (gates : Nat → List Nat)
    (hcount : ∀ n, n ≠ A → n ≠ B → (counts n).gateCount = (gates n).length) (n : Nat) :
    let counts' := mergeCounts counts A B (gates A).length (gates B).length
    (counts' n).sourceCount = (counts n).sourceCount ∧ (counts' n).drainCount = (counts n).drainCount ∧
      (counts' n).gateCount = (gates n).length := by
  by_cases hB : n = B
  · subst hB
    simp [mergeCounts, Ne.symm hAB]
  · by_cases hA : n = A
    · subst hA
      simp [mergeCounts, hB]
    · simp [mergeCounts, hA, hB, hcount n hA hB]

end

/-- The walk along the list of a net has enough steps, so it returns the whole list. -/
theorem devicesOf_eq {members : List Nat} {t : Buckets Nat Nat} {lists : Nat → List Nat}
    (h : t.Holds unknownDevice members lists) (hlen : members.length ≤ c.deviceCount) (n : Nat) :
    c.devicesOf t n = .ok (lists n) := by
  rw [devicesOf, Buckets.follow_eq (h.linked n) (Nat.le_trans (h.length_le n) hlen)]

theorem mergeConnectionLists_eq {gate source drain : Buckets Nat Nat} {gates : Nat → List Nat}
    (hgate : Buckets.pour unknownDevice c.deviceCount A B s.gate = some gate)
    (hsource : Buckets.pour unknownDevice c.deviceCount A B s.source = some source)
    (hdrain : Buckets.pour unknownDevice c.deviceCount A B s.drain = some drain)
    (hgates : ∀ n, c.devicesOf gate n = .ok (gates n)) : c.mergeConnectionLists s A B = .ok { s with
      gate := gate
      source := source
      drain := drain
      connectionCount := mergeCounts s.connectionCount A B (gates A).length (gates B).length } := by
  simp only [mergeConnectionLists, mergeConnectionListByTerminals, recountConnections, hgate, hsource, hdrain, hgates, bind,
    Except.bind]
  rfl

/-- A net is linked; if the second net is not linked itself, that is all. -/
theorem outcome_setVirtualNet (v : CVirtualNetVector) (hAB : A ≠ B) : Outcome (setVirtualNet v A B)
    (fun v' => v.next B = B → v'.next = update v.next A B) (· = chainTooLong) := by
  unfold setVirtualNet
  split
  case h_2 => exact rfl
  case h_1 v' hv =>
    intro hB
    rcases set_cases hv with ⟨hback, -⟩ | ⟨-, f, R, rfl⟩
    · have hback : v.next B = A := (by simpa [linksBack] using hback : v.advance.next B = A ∧ ¬B = A).1
      exact absurd (hback.symm.trans hB) hAB
    · exact (next_storeFinal ..).trans (next_link ..)

/-- The conducting terminals when a resistor is shorted, in either direction. -/
theorem Sound.pair_short (h : c.Sound s) (hcan : CanShort s d A B dir) : A ≠ B ∧ B < c.netCount ∧
    (removeConnections s.connectionCount A B dir A).sourceDrainCount = 0 ∧ ∃ source drain sources drains,
      Buckets.pour unknownDevice c.deviceCount A B s.source = some source ∧
      Buckets.pour unknownDevice c.deviceCount A B s.drain = some drain ∧
      Pair (without s.active d) c.linkedDevices source drain sources drains
        (fun n => (removeConnections s.connectionCount A B dir n).sourceCount)
        (fun n => (removeConnections s.connectionCount A B dir n).drainCount) ∧
      Moves (without s.active d) B s.source source ∧ Moves (without s.active d) B s.drain drain := by
  have hd := h.resistor d hcan.resistor hcan.active
  obtain ⟨sources, drains, hpair⟩ := h.exact.pair
  have hone := hcan.one
  unfold CConnectionCount.sourceDrainCount at hone
  cases dir with
  | sourceToMasterDrain =>
    obtain ⟨rfl, rfl⟩ := hcan.nets
    obtain ⟨source, drain, sources', drains', hs, hd', hshort, hzero, hmoves⟩ :=
      hpair.short hd hcan.active hone linkedDevices_length_le
    obtain ⟨-, hsource, hdrain⟩ :=
      removeConnections_eq s.connectionCount (s.source.owner d) (s.drain.owner d) .sourceToMasterDrain
    rw [← hsource, ← hdrain] at hshort hzero
    exact ⟨hpair.apart d hd hcan.active, (h.exact.net_lt d hd).2, hzero, source, drain, sources', drains', hs, hd', hshort,
      hmoves⟩
  | drainToMasterSource =>
    obtain ⟨rfl, rfl⟩ := hcan.nets
    rw [Nat.add_comm] at hone
    obtain ⟨drain, source, drains', sources', hd', hs, hshort, hzero, hmoves⟩ :=
      hpair.symm.short hd hcan.active hone linkedDevices_length_le
    obtain ⟨-, hdrain, hsource⟩ :=
      removeConnections_eq s.connectionCount (s.drain.owner d) (s.source.owner d) .drainToMasterSource
    rw [← hsource, ← hdrain] at hshort hzero
    exact ⟨hpair.symm.apart d hd hcan.active, (h.exact.net_lt d hd).1, (Nat.add_comm ..).trans hzero, source, drain,
      sources', drains', hs, hd', hshort.symm, hmoves.symm⟩

/-- A short keeps the lists exact, unless a chain of virtual nets gets too long. -/
theorem Sound.shortResistor (h : c.Sound s) (hcan : CanShort s d A B dir) :
    Outcome (c.shortResistor s d A B dir) (c.Shorted s d A B) (· = chainTooLong) := by
  obtain ⟨hAB, hBlt, hzero, source, drain, sources, drains, hsource, hdrain, hpair, hso, hdo⟩ := h.pair_short hcan
  obtain ⟨gates, hgates, hcount⟩ := h.exact.gate
  obtain ⟨gate, hgate, hholds, hgo⟩ := hgates.pour hAB gateDevices_length_le
  refine (outcome_setVirtualNet _ hAB).bind fun minNet hmin => (outcome_setVirtualNet _ hAB).bind fun simNet hsim =>
    (outcome_setVirtualNet _ hAB).bind fun maxNet hmax => ?_
  have hcounts := mergeCounts_eq (removeConnections s.connectionCount A B dir) hAB
    (update (update gates B ((gates A).reverse ++ gates B)) A []) fun n hA hB => by
      rw [(removeConnections_eq s.connectionCount A B dir).1, hcount, update_of_ne hA, update_of_ne hB]
  have hactive : ∀ x, (removeResistor s d A B dir (virtualNetsOf minNet simNet maxNet)).active x = without s.active d x := by
    intro x
    by_cases hx : x = d <;> simp [LinkState.active, removeResistor, without, hx]
  have hmerge := mergeConnectionLists_eq (s := removeResistor s d A B dir (virtualNetsOf minNet simNet maxNet)) hgate hsource
    hdrain (devicesOf_eq hholds gateDevices_length_le)
  unfold CConnectionCount.sourceDrainCount at hzero
  rw [hmerge]
  show Outcome (if _ then _ else _) _ _
  refine .ite (fun _ => ?_) fun hassert => absurd ?_ hassert
  · refine ⟨⟨⟨⟨sources, drains, ⟨hpair.first.holds, fun n => ?_⟩, ⟨hpair.second.holds, fun n => ?_⟩, fun x hx hax => ?_⟩,
      ⟨_, hholds, fun n => (hcounts n).2.2⟩, fun x hx => (h.exact.net_lt x hx).imp (hso.lt hBlt) (hdo.lt hBlt), fun x hx => ?_,
      fun x hx hx' => ?_⟩, fun x hx hax => ?_⟩, rfl, funext hactive, hAB, fun n x => ?_, fun x hlive => ?_, fun q => ?_⟩
    · exact (hcounts n).1.trans ((hpair.first.count_eq n).trans (congrArg (countP · _) (funext hactive).symm))
    · exact (hcounts n).2.1.trans ((hpair.second.count_eq n).trans (congrArg (countP · _) (funext hactive).symm))
    · exact hpair.apart x hx ((hactive x).symm.trans hax)
    · show gate.owner x < c.netCount
      rw [hgo]
      split
      · exact hBlt
      · exact h.exact.gate_lt x hx
    · show gate.owner x = unknownNet
      rw [hgo, if_neg fun hmem => hx' ((hgates.mem_iff A x).1 hmem).1]
      exact h.exact.no_gate x hx hx'
    · exact h.resistor x hx (without_iff.1 ((hactive x).symm.trans hax)).1
    · show _ ∧ _ ∧ (source.owner x = n ∨ drain.owner x = n) ↔ _
      constructor
      · rintro ⟨hx, hax, hnets⟩
        have hax := (hactive x).symm.trans hax
        rw [hso.owner_eq hax, hdo.owner_eq hax] at hnets
        exact ⟨⟨hx, (without_iff.1 hax).1, hnets⟩, (without_iff.1 hax).2⟩
      · rintro ⟨⟨hx, hax, hnets⟩, hne⟩
        have hax := without_iff.2 ⟨hax, hne⟩
        exact ⟨hx, (hactive x).trans hax, by rwa [hso.owner_eq hax, hdo.owner_eq hax]⟩
    · -- the counts of the first net are zero
      obtain ⟨hx, hax, hnets⟩ := hlive
      have hax := (hactive x).symm.trans hax
      have hfirst := hpair.first.count_pos hx hax
      have hsecond := hpair.second.count_pos hx hax
      rcases hnets with hnet | hnet
      · rw [show source.owner x = A from hnet] at hfirst
        omega
      · rw [show drain.owner x = A from hnet] at hsecond
        omega
    · cases q
      exacts [hmin, hsim, hmax]
  · exact (congrArg₂ (· + ·) (hcounts A).1 (hcounts A).2.1).trans hzero

/-- The resistor of a short is at both of its nets. -/
theorem Sound.liveAt (h : c.Sound s) (hcan : CanShort s d A B dir) : c.LiveAt s A d ∧ c.LiveAt s B d := by
  have hd := h.resistor d hcan.resistor hcan.active
  have hnets := hcan.nets
  cases dir
  · exact ⟨⟨hd, hcan.active, .inl hnets.1⟩, hd, hcan.active, .inr hnets.2⟩
  · exact ⟨⟨hd, hcan.active, .inr hnets.1⟩, hd, hcan.active, .inl hnets.2⟩

/-- A run of shorts keeps a state sound. -/
theorem Sound.of_shorts (h : c.Sound s) (hs : c.Shorts s s') : c.Sound s' := by
  induction hs with
  | refl => exact h
  | short hcan hok _ ih => exact ih ((h.shortResistor hcan).of_ok hok).sound

/-- `FindUniqueSourceDrainConnectedDevice` at a net with one connection. -/
theorem Sound.findUnique (h : c.Sound s) (hone : (s.connectionCount n).sourceDrainCount = 1) {E : Failure → Prop} :
    Outcome (c.findUniqueSourceDrainConnectedDevice s n)
      (fun r => r = unknownDevice ∨ s.deviceType r = some .resistor ∧ c.LiveAt s n r) E := by
  obtain ⟨sources, drains, hpair⟩ := h.exact.pair
  unfold CConnectionCount.sourceDrainCount at hone
  rw [hpair.first.count_eq, hpair.second.count_eq, ← countP_append] at hone
  have hactive : ∀ r, (s.deviceStatus r).simInactive = false → s.active r = true := fun r hr => by
    rw [LinkState.active, hr]
    rfl
  simp only [findUniqueSourceDrainConnectedDevice, devicesOf_eq hpair.first.holds linkedDevices_length_le,
    devicesOf_eq hpair.second.holds linkedDevices_length_le]
  refine .mono (.foldlM (I := fun pre r => r = unknownDevice ∨ r ∈ pre ∧ s.deviceType r = some .resistor ∧ s.active r = true)
    (.inl rfl) fun pre x post hl r hr => .ite (fun hx => .ite (fun hknown => ?_) fun _ => ?_) fun _ => ?_) (fun r hr => ?_)
    fun _ => id
  · -- two active devices would be counted
    obtain ⟨hmem, -, hax⟩ := hr.resolve_left hknown
    have hpos : 0 < pre.countP s.active := countP_pos_iff.2 ⟨r, hmem, hax⟩
    rw [hl, countP_append, countP_cons_of_pos (hactive x hx.2)] at hone
    omega
  · exact .inr ⟨by simp, hx.1, hactive x hx.2⟩
  · exact hr.imp_right fun h => ⟨mem_append_left _ h.1, h.2⟩
  · refine hr.imp_right ?_
    rintro ⟨hmem, htype, hax⟩
    refine ⟨htype, h.resistor r htype hax, hax, ?_⟩
    exact (mem_append.1 hmem).imp (fun hmem => ((hpair.first.holds.mem_iff n r).1 hmem).2)
      fun hmem => ((hpair.second.holds.mem_iff n r).1 hmem).2

/-! ## A run -/

variable (c) in
/-- A sequence of shorts with their first nets, the last one first: each has one connection left and no power. -/
inductive ShortsAway (s₀ : LinkState) : List Nat → LinkState → Prop where
  | nil : ShortsAway s₀ [] s₀
  | short {s s₁ : LinkState} {d A B : Nat} {dir : ShortDirection} {nets : List Nat} (h : ShortsAway s₀ nets s)
      (hcan : CanShort s d A B dir) (hnone : c.netVoltagePtr A = none) (hok : c.shortResistor s d A B dir = .ok s₁) :
      ShortsAway s₀ (A :: nets) s₁

variable (c) in
/-- A resistor that only its second net holds: its first net has no power, and all other devices there dangle from that net. A
port with no other device does not start such a tree. -/
inductive Dangles (s₀ : LinkState) : Nat → Nat → Nat → Prop where
  | mk {d A B : Nat} {far : Nat → Nat} (hA : c.LiveAt s₀ A d) (hB : c.LiveAt s₀ B d) (hne : A ≠ B)
      (hresistor : s₀.deviceType d = some .resistor) (hnone : c.netVoltagePtr A = none)
      (hstart : c.portCount ≤ A ∨ ∃ x, c.LiveAt s₀ A x ∧ x ≠ d)
      (hothers : ∀ x, c.LiveAt s₀ A x → x ≠ d → Dangles s₀ x (far x) A) : Dangles s₀ d A B

variable (c) in
/-- A state of a run, with the nets that were shorted away. -/
structure Peeled (s₀ : LinkState) (nets : List Nat) (s : LinkState) : Prop where
  sound : c.Sound s
  run : c.ShortsAway s₀ nets s
  type_eq : s.deviceType = s₀.deviceType
  live : ∀ n x, c.LiveAt s n x → c.LiveAt s₀ n x
  dead : ∀ n x, c.LiveAt s₀ n x → c.LiveAt s n x ∨ ∃ A B, A ∈ nets ∧ c.Dangles s₀ x A B
  gone : ∀ A ∈ nets, (∀ x, ¬c.LiveAt s A x) ∧ ∃ x B, c.Dangles s₀ x A B
  self : (∀ q n, (s₀.virtualNet q).next n = n) → ∀ q n, n ∉ nets → (s.virtualNet q).next n = n

theorem Shorts.trans {s₂ : LinkState} (h : c.Shorts s s₁) (h' : c.Shorts s₁ s₂) : c.Shorts s s₂ := by
  induction h with
  | refl => exact h'
  | short hcan hok _ ih => exact .short hcan hok (ih h')

theorem ShortsAway.shorts (h : c.ShortsAway s₀ nets s) : c.Shorts s₀ s := by
  induction h with
  | nil => exact .refl _
  | short _ hcan _ hok ih => exact ih.trans (.short hcan hok (.refl _))

/-- A dangling resistor is connected to no other nets than its two. -/
theorem Dangles.eq_or_eq (h : c.Dangles s₀ d A B) (hn : c.LiveAt s₀ n d) : n = A ∨ n = B := by
  obtain ⟨⟨-, -, hA⟩, ⟨-, -, hB⟩, hne, -⟩ := h
  have hn := hn.2.2
  omega

theorem peeled_linkDevices (hlink : c.linkDevices = .ok s₀) : c.Peeled s₀ [] s₀ :=
  ⟨(sound_linkDevices hlink).1, .nil, rfl, fun _ _ => id, fun _ _ => .inl, nofun, fun hself q n _ => hself q n⟩

namespace Peeled

section
variable (h : c.Peeled s₀ nets s) (hcan : CanShort s d A B dir) (hnone : c.netVoltagePtr A = none)
  (hstart : c.portCount ≤ A ∨ ∃ x, c.LiveAt s₀ A x ∧ x ≠ d)
include h hcan hnone hstart

/-- What is shorted dangles: the other devices of its first net were shorted into that net. -/
theorem dangles (hs : c.Shorted s d A B s') : c.Dangles s₀ d A B := by
  obtain ⟨hA, hB⟩ := h.sound.liveAt hcan
  have hothers : ∀ x, ∃ X, c.LiveAt s₀ A x → x ≠ d → c.Dangles s₀ x X A := by
    intro x
    by_cases hx : c.LiveAt s₀ A x ∧ x ≠ d
    case neg => exact ⟨A, fun hmem hxd => absurd ⟨hmem, hxd⟩ hx⟩
    rcases h.dead A x hx.1 with hlive | ⟨X, Y, hX, hdangles⟩
    · exact absurd ((hs.liveAt_iff A x).2 ⟨hlive, hx.2⟩) (hs.first x)
    · rcases hdangles.eq_or_eq hx.1 with rfl | rfl
      · exact absurd hA ((h.gone _ hX).1 d)
      · exact ⟨X, fun _ _ => hdangles⟩
  choose far hfar using hothers
  exact .mk (h.live A d hA) (h.live B d hB) hs.ne (h.type_eq ▸ hcan.resistor) hnone hstart hfar

/-- A short on the way along a chain. -/
theorem short : Outcome (c.shortResistor s d A B dir) (fun s' => c.Peeled s₀ (A :: nets) s' ∧ c.Shorted s d A B s')
    (· = chainTooLong) := by
  refine (h.sound.shortResistor hcan).with_eq.mono (fun s' ⟨hok, hs⟩ => ⟨?_, hs⟩) fun _ => id
  have hdangles := h.dangles hcan hnone hstart hs
  refine ⟨hs.sound, .short h.run hcan hnone hok, hs.type_eq.trans h.type_eq,
    fun n x hx => h.live n x ((hs.liveAt_iff n x).1 hx).1, fun n x hx => ?_, forall_mem_cons.2 ⟨⟨hs.first, d, B, hdangles⟩, ?_⟩,
    fun hself q n hn => ?_⟩
  · rcases h.dead n x hx with hlive | ⟨X, Y, hX, hdead⟩
    · by_cases hxd : x = d
      · exact .inr ⟨A, B, mem_cons_self, hxd ▸ hdangles⟩
      · exact .inl ((hs.liveAt_iff n x).2 ⟨hlive, hxd⟩)
    · exact .inr ⟨X, Y, mem_cons_of_mem _ hX, hdead⟩
  · exact fun X hX => ⟨fun x hx => (h.gone X hX).1 x ((hs.liveAt_iff X x).1 hx).1, (h.gone X hX).2⟩
  · obtain ⟨hnA, hn⟩ := not_or.1 (mt mem_cons.2 hn)
    have hB : B ∉ nets := fun hmem => (h.gone B hmem).1 d (h.sound.liveAt hcan).2
    rw [hs.next_eq q (h.self hself q B hB), update_of_ne hnA]
    exact h.self hself q n hn

/-- The recursion performs a sequence of shorts; it needs no more levels than there are active devices. -/
theorem shortNonConductingResistor {levels : Nat} (hlevels : c.linkedDevices.countP s.active ≤ levels + 1) :
    Outcome (c.shortNonConductingResistor levels s d A B dir) (fun s' => ∃ nets', c.Peeled s₀ nets' s') (· = chainTooLong) := by
  induction levels using Nat.strongRecOn generalizing s d A B dir nets with
  | ind levels ih =>
    unfold LinkCircuit.shortNonConductingResistor
    refine (h.short hcan hnone hstart).bind fun s₁ ⟨h₁, hs⟩ => .ite (fun hnext => ?_) fun _ => .pure ⟨_, h₁⟩
    refine (h₁.sound.findUnique hnext.1).bind fun r hr => .ite (fun _ => .pure ⟨_, h₁⟩) fun hknown => ?_
    obtain ⟨htype, hlive⟩ := hr.resolve_left hknown
    -- the next resistor is not the one just shorted
    have hne : d ≠ r := fun heq => ((hs.liveAt_iff B r).1 hlive).2 heq.symm
    have hstart' : ∃ x, c.LiveAt s₀ B x ∧ x ≠ r := ⟨d, h.live B d (h.sound.liveAt hcan).2, hne⟩
    have hfewer := countP_without hcan.active (c.ids_nodup.sublist linkedDevices_sublist)
    rw [if_pos (h.sound.resistor d hcan.resistor hcan.active), ← hs.active_eq] at hfewer
    have hpos : 0 < c.linkedDevices.countP s₁.active := countP_pos_iff.2 ⟨r, hlive.1, hlive.2.1⟩
    cases levels with
    | zero => omega
    | succ levels =>
      have hrest : ∀ {B' dir'}, CanShort s₁ r B B' dir' → Outcome (c.shortNonConductingResistor levels s₁ r B B' dir')
          (fun s' => ∃ nets', c.Peeled s₀ nets' s') (· = chainTooLong) := fun hcan' =>
        ih levels levels.lt_succ_self h₁ hcan' hnext.2 (.inr hstart') (by omega)
      exact .ite (fun hsource => hrest ⟨htype, hlive.2.1, ⟨hsource, rfl⟩, hnext.1⟩) fun hsource =>
        .ite (fun hdrain => hrest ⟨htype, hlive.2.1, ⟨hdrain, rfl⟩, hnext.1⟩) fun hdrain =>
          absurd hlive.2.2 (not_or.2 ⟨hsource, hdrain⟩)

end

/-- The loop starts a short at a net that is no port, has one connection left and no power. -/
theorem isDeadEnd_iff :
    c.isDeadEnd s n = true ↔ c.portCount ≤ n ∧ (s.connectionCount n).sourceDrainCount = 1 ∧ c.netVoltagePtr n = none := by
  simp [isDeadEnd, and_assoc]

variable (h : c.Peeled s₀ nets s) {levels : Nat} (hlevels : c.deviceCount ≤ levels)
include h hlevels

theorem shortDevice (device : Nat) :
    Outcome (c.shortDevice levels s device) (fun s' => ∃ nets', c.Peeled s₀ nets' s') (· = chainTooLong) := by
  have hcount : c.linkedDevices.countP s.active ≤ levels + 1 := by
    have h1 : c.linkedDevices.countP s.active ≤ c.linkedDevices.length := countP_le_length
    have h2 : c.linkedDevices.length ≤ c.deviceCount := linkedDevices_length_le
    omega
  refine .ite (fun hresistor => ?_) fun _ => .pure ⟨nets, h⟩
  have hactive : s.active device = true := by
    rw [LinkState.active, hresistor.2]
    rfl
  refine .ite (fun hdead => ?_) fun _ => .ite (fun hdead => ?_) fun _ => .pure ⟨nets, h⟩
  all_goals
    obtain ⟨hport, hone, hnone⟩ := isDeadEnd_iff.1 hdead
    refine h.shortNonConductingResistor ?_ hnone (.inl hport) hcount
    exact ⟨hresistor.1, hactive, ⟨rfl, rfl⟩, hone⟩

/-- The whole loop keeps the invariant, and only the length of a chain can stop it. -/
theorem shortNonConductingResistors :
    Outcome (c.shortNonConductingResistors levels s) (fun s' => ∃ nets', c.Peeled s₀ nets' s') (· = chainTooLong) :=
  .foldlM (I := fun _ s => ∃ nets, c.Peeled s₀ nets s) ⟨nets, h⟩ fun _ device _ _ _ ⟨_, h⟩ => h.shortDevice hlevels device

end Peeled

end LinkCircuit
end Cvc
