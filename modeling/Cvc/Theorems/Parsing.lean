import Mathlib.Data.List.Nodup
import Cvc.Circuit

/-!
# Parsed circuits

Parsing a circuit loses nothing and mixes nothing up: the ports are its first signals, in their order, no signal has two ids, and
the devices and the subcircuit calls stand in the order of the netlist, each with its name, its master and the ids of the signals
that are listed for it. So a parsed circuit is well formed.
-/

namespace Cvc

open List

/-- A device of the netlist. -/
def ParsedDevice.described (d : ParsedDevice) : Nat × List (Option Nat) × Option Nat :=
  (d.name, d.signalList.map some, d.masterName)

/-- A device of a circuit, with the names of the signals that its ids stand for. -/
def CDevice.described (signals : List Nat) (master : CDevice → Option Nat) (d : CDevice) : Nat × List (Option Nat) × Option Nat :=
  (d.name, d.signalIdV.map (signals[·]?), master d)

namespace CCircuit

variable {c c' : CCircuit} {devices read : List ParsedDevice} {text : Nat → String} {name : Nat} {ports more : List Nat}
  {signals : List Nat} {master : CDevice → Option Nat} {d : CDevice} {p : ParsedDevice}

/-- The circuit has the ports as its first signals, and the devices and the subcircuit calls as they were read. -/
structure Reads (c : CCircuit) (ports : List Nat) (read : List ParsedDevice) : Prop where
  portCount_eq : c.portCount = ports.length
  ports_eq : c.localSignalIdMap.take c.portCount = ports
  nodup : c.localSignalIdMap.Nodup
  devices_eq : c.devicePtrV.map (CDevice.described c.localSignalIdMap fun _ => none) =
    (read.filter (·.masterName.isNone)).map ParsedDevice.described
  calls_eq : c.subcircuitPtrV.map (CDevice.described c.localSignalIdMap (some ·.masterName)) =
    (read.filter (·.masterName.isSome)).map ParsedDevice.described

/-- More signals do not change what a device is, once all its ids have names. -/
theorem described_append (new : List Nat) (h : d.described signals master = p.described) :
    d.described (signals ++ new) master = p.described := by
  obtain ⟨hname, hsignals, hmaster⟩ : d.name = p.name ∧ d.signalIdV.map (signals[·]?) = p.signalList.map some ∧
      master d = p.masterName := by
    simpa [CDevice.described, ParsedDevice.described] using h
  have hkeep : d.signalIdV.map ((signals ++ new)[·]?) = d.signalIdV.map (signals[·]?) := by
    refine map_congr_left fun i hi => ?_
    have hsome : signals[i]? ∈ p.signalList.map some := hsignals ▸ mem_map_of_mem hi
    obtain ⟨x, -, hx⟩ := mem_map.1 hsome
    exact getElem?_append_left (List.getElem?_eq_some_iff.1 hx.symm).1
  simp [CDevice.described, ParsedDevice.described, hname, hkeep, hsignals, hmaster]

/-- ... and so for a list of devices. -/
theorem map_described_append (new : List Nat) {ds : List CDevice} {ps : List ParsedDevice}
    (h : ds.map (CDevice.described signals master) = ps.map ParsedDevice.described) :
    ds.map (CDevice.described (signals ++ new) master) = ps.map ParsedDevice.described := by
  rw [← h]
  refine map_congr_left fun d hd => ?_
  obtain ⟨p, -, hp⟩ := mem_map.1 (h ▸ mem_map_of_mem hd)
  rw [← hp, described_append new hp.symm]

/-- `SetSignalIds` adds the signals that are new, and returns the ids of all of them. -/
theorem setSignalIds_spec (more : List Nat) (c : CCircuit) :
    ∃ new ids, c.setSignalIds more = ({ c with localSignalIdMap := c.localSignalIdMap ++ new }, ids) ∧
      (c.localSignalIdMap.Nodup → (c.localSignalIdMap ++ new).Nodup) ∧
      ids.map ((c.localSignalIdMap ++ new)[·]?) = more.map some := by
  induction more generalizing c with
  | nil => exact ⟨[], [], by simp [setSignalIds], by simp, rfl⟩
  | cons signal more ih =>
    by_cases hin : signal ∈ c.localSignalIdMap
    · obtain ⟨new, ids, heq, hnodup, hids⟩ := ih c
      refine ⟨new, c.localSignalIdMap.idxOf signal :: ids, by simp [setSignalIds, hin, heq], hnodup, ?_⟩
      have hfirst : (c.localSignalIdMap ++ new)[c.localSignalIdMap.idxOf signal]? = some signal := by
        rw [getElem?_append_left (idxOf_lt_length_of_mem hin), getElem?_idxOf hin]
      rw [map_cons, map_cons, hfirst, hids]
    · obtain ⟨new, ids, heq, hnodup, hids⟩ := ih { c with localSignalIdMap := c.localSignalIdMap ++ [signal] }
      have hmem : signal ∈ c.localSignalIdMap ++ [signal] := by simp
      refine ⟨signal :: new, (c.localSignalIdMap ++ [signal]).idxOf signal :: ids, ?_, fun h => ?_, ?_⟩
      · simp only [setSignalIds, hin, if_false, heq]
        simp
      · have hnew : (c.localSignalIdMap ++ [signal]).Nodup := h.append (nodup_singleton _) (by simpa using hin)
        simpa using hnodup hnew
      · have hfirst : (c.localSignalIdMap ++ signal :: new)[(c.localSignalIdMap ++ [signal]).idxOf signal]? = some signal := by
          rw [append_cons, getElem?_append_left (idxOf_lt_length_of_mem hmem), getElem?_idxOf hmem]
        rw [map_cons, map_cons, hfirst]
        simpa using hids

theorem Reads.addSignals (h : c.Reads ports read) {new : List Nat} (hnodup : (c.localSignalIdMap ++ new).Nodup) :
    Reads { c with localSignalIdMap := c.localSignalIdMap ++ new } ports read := by
  have hle : c.portCount ≤ c.localSignalIdMap.length := by
    have := congrArg length h.ports_eq
    rw [length_take, ← h.portCount_eq] at this
    omega
  refine ⟨h.portCount_eq, ?_, hnodup, map_described_append new h.devices_eq, map_described_append new h.calls_eq⟩
  rw [take_append_of_le_length hle, h.ports_eq]

/-- The devices of a netlist are loaded as they are read. -/
theorem Reads.loadDevices {used : List Nat} (h : c.Reads ports read) (hok : loadDevices used devices c = .ok c') :
    c'.Reads ports (read ++ devices) := by
  induction devices generalizing used read c with
  | nil => simpa using Except.ok.inj hok ▸ h
  | cons device devices ih =>
    obtain ⟨new, ids, heq, hnodup, hids⟩ := setSignalIds_spec device.signalList c
    have hadd := h.addSignals (hnodup h.nodup)
    unfold CCircuit.loadDevices at hok
    simp only [heq] at hok
    split at hok
    · nomatch hok
    rw [append_cons]
    cases hmaster : device.masterName with
    | some masterName =>
      rw [hmaster] at hok
      refine ih ?_ hok
      refine ⟨hadd.portCount_eq, hadd.ports_eq, hadd.nodup, ?_, ?_⟩
      · simpa [hmaster] using hadd.devices_eq
      · simpa [hmaster, CDevice.described, ParsedDevice.described, hids] using hadd.calls_eq
    | none =>
      rw [hmaster] at hok
      refine ih ?_ hok
      refine ⟨hadd.portCount_eq, hadd.ports_eq, hadd.nodup, ?_, ?_⟩
      · simpa [hmaster, CDevice.described, ParsedDevice.described, hids] using hadd.devices_eq
      · simpa [hmaster] using hadd.calls_eq

/-- The ports of a circuit become its first signals. -/
theorem addPortSignalIds_reads (h : c.Reads ports []) (hall : c.localSignalIdMap = ports)
    (hok : addPortSignalIds text name more c = .ok c') : c'.Reads (ports ++ more) [] := by
  induction more generalizing c ports with
  | nil => simpa using Except.ok.inj hok ▸ h
  | cons port more ih =>
    unfold addPortSignalIds at hok
    split at hok
    · nomatch hok
    rename_i hnew
    rw [append_cons]
    have hcount : c.portCount + 1 = (ports ++ [port]).length := by simp [h.portCount_eq]
    have hnodup : (c.localSignalIdMap ++ [port]).Nodup := h.nodup.append (nodup_singleton _) (by simpa using hnew)
    have hsame := h.addSignals hnodup
    refine ih ?_ (by simp [hall]) hok
    refine ⟨hcount, ?_, hnodup, hsame.devices_eq, hsame.calls_eq⟩
    rw [hall, hcount, take_length]

/-- A circuit that reads as a netlist is well formed. -/
theorem Reads.wellFormed (h : c.Reads ports read) : c.WellFormed := by
  have hlt : ∀ {ds : List CDevice} {ps : List ParsedDevice} {master : CDevice → Option Nat},
      ds.map (CDevice.described c.localSignalIdMap master) = ps.map ParsedDevice.described →
        ∀ d ∈ ds, ∀ i ∈ d.signalIdV, i < c.localSignalIdMap.length := by
    intro ds ps master heq d hd i hi
    obtain ⟨p, -, hp⟩ := mem_map.1 (heq ▸ mem_map_of_mem hd)
    have hsignals : p.signalList.map some = d.signalIdV.map (c.localSignalIdMap[·]?) := congrArg (·.2.1) hp
    obtain ⟨x, -, hx⟩ := mem_map.1 (hsignals ▸ mem_map_of_mem hi)
    exact (List.getElem?_eq_some_iff.1 hx.symm).1
  refine ⟨?_, hlt h.devices_eq, hlt h.calls_eq⟩
  have := congrArg length h.ports_eq
  rw [length_take, ← h.portCount_eq] at this
  omega

/-- A circuit that is parsed without an error has the ports as its first signals, no signal with two ids, and every device and
every subcircuit call of the netlist in its order, with its name, its master and the ids of its signals. -/
theorem parse_reads (hok : parse text name ports devices = .ok c) : c.Reads ports devices ∧ c.WellFormed := by
  obtain ⟨c1, hports, hdev⟩ := bind_eq_ok.1 hok
  have hstart : Reads {} [] [] := ⟨rfl, rfl, nodup_nil, rfl, rfl⟩
  have hread := (addPortSignalIds_reads hstart rfl hports).loadDevices hdev
  exact ⟨hread, hread.wellFormed⟩

/-- A transistor, a black box without signals and the call of a subcircuit. -/
theorem parse_reads_devices : ∃ c, parse (fun _ => "") 0 [1, 2] [⟨0, [2, 3], none⟩, ⟨1, [], none⟩, ⟨2, [3, 1], some 7⟩] = .ok c ∧
    c.Reads [1, 2] [⟨0, [2, 3], none⟩, ⟨1, [], none⟩, ⟨2, [3, 1], some 7⟩] ∧ c.WellFormed :=
  .imp (fun _ h => ⟨h, parse_reads h⟩) ⟨_, rfl⟩

end CCircuit
end Cvc
