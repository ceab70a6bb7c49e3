import Cvc.Lemmas.ResistorShorts

/-!
# The device lists are exact

`deviceLists_exact`: after `LinkDevices` and after every sequence of resistor shorts the lists of the nets hold exactly the
devices that name the net, and the counts are those of the devices not shorted yet. `ShortNonConductingResistors` performs such a
sequence, and the only assertion that can stop it is the one on the length of a chain of virtual nets. `ports_selfLinked` says
when it leaves the ports linked to themselves.
-/

namespace Cvc

open List

namespace LinkCircuit

variable (c : LinkCircuit)

/-- What the lists of a state enumerate, and what the counts of a state are. -/
structure ListsExact (s : LinkState) : Prop where
  source : ∀ n < c.netCount, ∃ devices, c.devicesOf s.source n = .ok devices ∧ devices.Nodup ∧
    ∀ d, d ∈ devices ↔ d ∈ c.linkedDevices ∧ s.source.owner d = n
  drain : ∀ n < c.netCount, ∃ devices, c.devicesOf s.drain n = .ok devices ∧ devices.Nodup ∧
    ∀ d, d ∈ devices ↔ d ∈ c.linkedDevices ∧ s.drain.owner d = n
  gate : ∀ n < c.netCount, ∃ devices, c.devicesOf s.gate n = .ok devices ∧ devices.Nodup ∧
    ∀ d, d ∈ devices ↔ d ∈ c.linkedDevices ∧ s.gate.owner d = n
  net_lt : ∀ d ∈ c.linkedDevices, s.source.owner d < c.netCount ∧ s.drain.owner d < c.netCount
  gate_lt : ∀ d ∈ c.gateDevices, s.gate.owner d < c.netCount
  sourceDrainCount : ∀ n < c.netCount, ∀ sources drains, c.devicesOf s.source n = .ok sources →
    c.devicesOf s.drain n = .ok drains →
    (s.connectionCount n).sourceDrainCount = sources.countP s.active + drains.countP s.active
  gateCount : ∀ n < c.netCount, ∀ gates, c.devicesOf s.gate n = .ok gates → (s.connectionCount n).gateCount = gates.length

variable {c}

theorem mem_linkedDevices_of_gate {d : Nat} (hd : d ∈ c.gateDevices) : d ∈ c.linkedDevices := by
  obtain ⟨e, he, rfl⟩ := mem_map.1 hd
  obtain ⟨he, hlinks⟩ := mem_filter.1 he
  exact mem_map.2 ⟨e, mem_filter.2 ⟨he, (Bool.and_eq_true_iff.1 hlinks).1⟩, rfl⟩

/-- The lists of a sound state enumerate the devices that name the net. -/
theorem Sound.listsExact {s : LinkState} (h : c.Sound s) : c.ListsExact s := by
  obtain ⟨sources, drains, hpair⟩ := h.exact.pair
  obtain ⟨gates, hgates, hcount⟩ := h.exact.gate
  have hsource := devicesOf_eq hpair.first.holds linkedDevices_length_le
  have hdrain := devicesOf_eq hpair.second.holds linkedDevices_length_le
  have hgate := devicesOf_eq hgates gateDevices_length_le
  refine ⟨fun n _ => ⟨_, hsource n, hpair.first.holds.nodup n, hpair.first.holds.mem_iff n⟩,
    fun n _ => ⟨_, hdrain n, hpair.second.holds.nodup n, hpair.second.holds.mem_iff n⟩,
    fun n hn => ⟨_, hgate n, hgates.nodup n, fun d => ?_⟩, h.exact.net_lt, h.exact.gate_lt, fun n _ l l' hl hl' => ?_,
    fun n _ l hl => ?_⟩
  · rw [hgates.mem_iff]
    constructor
    · exact fun ⟨hd, hnet⟩ => ⟨mem_linkedDevices_of_gate hd, hnet⟩
    · rintro ⟨hd, hnet⟩
      refine ⟨?_, hnet⟩
      -- a linked device without a gate has no gate net
      by_contra hd'
      rw [h.exact.no_gate d hd hd'] at hnet
      exact absurd hn (Nat.not_lt.2 (hnet ▸ c.netCount_le))
  · cases (hsource n).symm.trans hl
    cases (hdrain n).symm.trans hl'
    unfold CConnectionCount.sourceDrainCount
    rw [hpair.first.count_eq, hpair.second.count_eq]
  · cases (hgate n).symm.trans hl
    exact hcount n

/-- A computation that can only fail for a chain that is too long, as its two results. -/
theorem ok_or_chainTooLong {m : Except Failure LinkState} {P : LinkState → Prop} (h : Outcome m P (· = chainTooLong)) :
    (∃ s, m = .ok s ∧ P s) ∨ m = .error chainTooLong := by
  cases m with
  | ok s => exact .inl ⟨s, rfl, h⟩
  | error e => exact .inr (congrArg _ h)

/-- After `LinkDevices` no linked device is shorted, and after it and any sequence of resistor shorts the lists are exact. No call
of `ShortNonConductingResistor` fails its own assertion, and the loop of `ShortNonConductingResistors` performs such a sequence:
it throws no error, and only a chain of virtual nets that is too long stops it. -/
theorem deviceLists_exact {s₀ : LinkState} (hlink : c.linkDevices = .ok s₀) :
    (∀ d ∈ c.linkedDevices, s₀.active d = true) ∧
    (∀ s, c.Shorts s₀ s → c.ListsExact s) ∧
    (∀ s, c.Shorts s₀ s → ∀ d A B dir, CanShort s d A B dir →
      (∃ s', c.shortResistor s d A B dir = .ok s') ∨ c.shortResistor s d A B dir = .error chainTooLong) ∧
    ∀ levels, c.deviceCount ≤ levels →
      (∃ s, c.shortNonConductingResistors levels s₀ = .ok s ∧ c.Shorts s₀ s) ∨
        c.shortNonConductingResistors levels s₀ = .error chainTooLong := by
  obtain ⟨hsound, hactive⟩ := sound_linkDevices hlink
  refine ⟨hactive, fun s hs => (hsound.of_shorts hs).listsExact, fun s hs d A B dir hcan => ?_, fun levels hlevels => ?_⟩
  · exact (ok_or_chainTooLong ((hsound.of_shorts hs).shortResistor hcan)).imp_left fun ⟨s', hok, _⟩ => ⟨s', hok⟩
  · refine (ok_or_chainTooLong ((peeled_linkDevices hlink).shortNonConductingResistors hlevels)).imp_left ?_
    exact fun ⟨s, hok, nets, h⟩ => ⟨s, hok, h.run.shorts⟩

/-- The loop of `ShortNonConductingResistors` starts from nets that are no ports, but the recursion goes on without that test. If
no resistor dangles from a port, the ports and the nets with powers stay linked to themselves, and every other net that does not
was shorted away when it had one connection left and no power. -/
theorem ports_selfLinked {s₀ s : LinkState} (hlink : c.linkDevices = .ok s₀) (hself : ∀ q n, (s₀.virtualNet q).next n = n)
    (hports : ∀ n < c.portCount, ¬∃ d B, c.Dangles s₀ d n B) {levels : Nat} (hlevels : c.deviceCount ≤ levels)
    (hrun : c.shortNonConductingResistors levels s₀ = .ok s) :
    (∀ q n, n < c.portCount ∨ (c.netVoltagePtr n).isSome → (s.virtualNet q).next n = n) ∧
      ∃ nets, c.ShortsAway s₀ nets s ∧ ∀ q n, (s.virtualNet q).next n ≠ n → n ∈ nets := by
  obtain ⟨nets, h⟩ := ((peeled_linkDevices hlink).shortNonConductingResistors hlevels).of_ok hrun
  refine ⟨fun q n hn => h.self hself q n fun hmem => ?_, nets, h.run, fun q n hne => not_not.1 (mt (h.self hself q n) hne)⟩
  obtain ⟨-, d, B, hdangles⟩ := h.gone n hmem
  rcases hn with hport | hpower
  · exact hports n hport ⟨d, B, hdangles⟩
  · obtain ⟨-, -, -, -, hnone, -⟩ := hdangles
    rw [hnone] at hpower
    nomatch hpower

end LinkCircuit

/-- Two resistors in a row from the port 0 over net 1 to net 2, where nothing else is connected. -/
def deadEnd : LinkCircuit where
  netCount := 3
  netCount_le := (CVirtualNetVector.selfLinked 3).size_le
  deviceCount := 2
  deviceCount_le := by decide
  portCount := 1
  cvcSOI := false
  getEquivalentNet n := n
  netVoltagePtr _ := none
  deviceStatus _ := {}
  virtualNet _ := .selfLinked 3
  netName _ := ""
  deviceName _ := ""
  devices := [⟨0, .resistor, [0, 1]⟩, ⟨1, .resistor, [1, 2]⟩]
  ids_nodup := by decide
  id_lt := by decide
  net_lt := by decide
  active _ _ _ := rfl

/-- Both resistors are shorted, and end up in the lists of the port. -/
theorem deadEnd_run : ∃ s₀ s, deadEnd.linkDevices = .ok s₀ ∧ deadEnd.shortNonConductingResistors 2 s₀ = .ok s ∧
    (s.active 0, s.active 1, s.source.owner 1) = (false, false, 0) := by
  have hshorted : ((deadEnd.linkDevices.bind (deadEnd.shortNonConductingResistors 2)).map
      fun s => (s.active 0, s.active 1, s.source.owner 1)).toOption = some (false, false, 0) := by decide +kernel
  obtain ⟨s₀, hlink⟩ : ∃ s₀, deadEnd.linkDevices = .ok s₀ := ⟨_, rfl⟩
  rw [hlink] at hshorted
  cases hok : deadEnd.shortNonConductingResistors 2 s₀ with
  | error => simp [Except.bind, hok, Except.map, Except.toOption] at hshorted
  | ok s => exact ⟨s₀, s, hlink, hok, by simpa [Except.bind, hok, Except.map, Except.toOption] using hshorted⟩

/-- The lists of the two resistors in a row are exact before and after both are shorted. -/
theorem deadEnd_deviceLists : ∃ s₀ s, deadEnd.linkDevices = .ok s₀ ∧ deadEnd.shortNonConductingResistors 2 s₀ = .ok s ∧
    deadEnd.ListsExact s₀ ∧ deadEnd.ListsExact s ∧ (s.active 0, s.active 1, s.source.owner 1) = (false, false, 0) := by
  obtain ⟨s₀, s, hlink, hok, hshorted⟩ := deadEnd_run
  obtain ⟨-, hexact, -, hrun⟩ := LinkCircuit.deviceLists_exact hlink
  obtain ⟨s', hok', hs⟩ := (hrun 2 (by decide)).resolve_right (by simp [hok])
  cases hok.symm.trans hok'
  exact ⟨s₀, s, hlink, hok, hexact _ (.refl _), hexact s hs, hshorted⟩

/-- With net 1 as a second port, the short of net 2 goes on to the short of that port. -/
theorem deadEnd_port_shorted : let c := { deadEnd with portCount := 2 }
    ((c.linkDevices.bind (c.shortNonConductingResistors 2)).map fun s => (s.virtualNet .min).next 1).toOption = some 0 := by
  decide +kernel

/-- With the one port at the end of the chain nothing dangles from it. -/
theorem deadEnd_ports_selfLinked : ∃ s₀ s, deadEnd.linkDevices = .ok s₀ ∧ deadEnd.shortNonConductingResistors 2 s₀ = .ok s ∧
    ∀ q, (s.virtualNet q).next 0 = 0 := by
  obtain ⟨s₀, s, hlink, hok, -⟩ := deadEnd_run
  have hstart : (∀ q n, (s₀.virtualNet q).next n = n) ∧
      ∀ d ∈ deadEnd.linkedDevices, s₀.source.owner d = 0 ∨ s₀.drain.owner d = 0 → d = 0 := by
    obtain rfl : _ = s₀ := Except.ok.inj hlink
    exact ⟨fun _ _ => rfl, by decide +kernel⟩
  refine ⟨s₀, s, hlink, hok, fun q =>
    (LinkCircuit.ports_selfLinked hlink hstart.1 ?_ (by decide) hok).1 q 0 (.inl (by decide))⟩
  rintro n hn ⟨d, B, ⟨hd, -, hnet⟩, -, -, -, -, hport | ⟨x, ⟨hx, -, hnet'⟩, hne⟩, -⟩
  · exact absurd hport (Nat.not_le.2 hn)
  · obtain rfl := Nat.lt_one_iff.1 hn
    exact hne ((hstart.2 x hx hnet').trans (hstart.2 d hd hnet).symm)

end Cvc
