import Cvc.Netlist

/-!
# Transistors that are always on

`IsAlwaysOnCandidate` tests the drain where the resistances of the source are too large, also for a device whose source is
selected (`alwaysOnCandidate_iff`).
-/

namespace Cvc

open Program

/-- The resistances to the min and to the max voltage are below `MAX_RESISTANCE / 128` and within a factor of 128 of each other.
-/
def IsWindow (minNet maxNet : CVirtualNet) : Prop :=
  (minNet.finalResistance < maxResistance / 2 ^ 7 ∧ maxNet.finalResistance < maxResistance / 2 ^ 7) ∧
    maxNet.finalResistance < minNet.finalResistance * 2 ^ 7 ∧ minNet.finalResistance < maxNet.finalResistance * 2 ^ 7

namespace FlatCircuit

variable (c : FlatCircuit) (d : Nat) (dir : ShortDirection) (s : NetState) (net : EventQueueType → Bool → CVirtualNet)

/-- The virtual nets of the source (`true`) and of the drain, read one after the other, for a device whose target is an output. -/
def ReadsEnds : Prop :=
  let source := c.getEquivalentNet s (c.sourceNet d)
  let drain := c.getEquivalentNet s (c.drainNet d)
  d ≠ unknownDevice ∧ isOutputType
    (s.connectionCount (match dir with | .drainToMasterSource => drain | .sourceToMasterDrain => source)).sourceDrainType = true ∧
    ∃ s1 s2 s3 s4, virtualNetAt .minQueue source s = .ok (net .minQueue true) s1 ∧
      virtualNetAt .minQueue drain s1 = .ok (net .minQueue false) s2 ∧
        virtualNetAt .maxQueue source s2 = .ok (net .maxQueue true) s3 ∧
      virtualNetAt .maxQueue drain s3 = .ok (net .maxQueue false) s4

/-- The ends of the four virtual nets are nets with powers. -/
def EndsKnown : Prop :=
  ∀ x ∈ [net .minQueue true, net .minQueue false, net .maxQueue true, net .maxQueue false],
    x.finalNetId ≠ unknownNet ∧ (s.netVoltagePtr x.finalNetId).isSome

/-- The voltage at an end. -/
def endVoltage (q : EventQueueType) (source : Bool) : Int := s.voltage q (net q source).finalNetId

/-- A lower min voltage or a higher max voltage, or the larger resistance if the voltages are the same, is that of the source, or
it is not and the drain is selected. -/
def Selects (source : Bool) : Prop :=
  (source = true ↔ endVoltage s net .minQueue true < endVoltage s net .minQueue false ∨ endVoltage s net .minQueue true =
    endVoltage s net .minQueue false ∧ (net .minQueue true).finalResistance > (net .minQueue false).finalResistance) ∧
  (source = true ↔ endVoltage s net .maxQueue true > endVoltage s net .maxQueue false ∨ endVoltage s net .maxQueue true =
    endVoltage s net .maxQueue false ∧ (net .maxQueue true).finalResistance > (net .maxQueue false).finalResistance)

/-- Both voltages select a terminal whose resistances are in the window. -/
def SelectsWindow : Prop := ∃ source, Selects s net source ∧ IsWindow (net .minQueue source) (net .maxQueue source)

/-- The source is selected and has a resistance that is too large, and the drain would pass. -/
def FallsThrough : Prop :=
  Selects s net true ∧ IsWindow (net .minQueue false) (net .maxQueue false) ∧
    ¬((net .minQueue true).finalResistance < maxResistance / 2 ^ 7 ∧ (net .maxQueue true).finalResistance < maxResistance / 2 ^ 7)

/-- The last part of `IsAlwaysOnCandidate`, for the ends. -/
def testEnds : Bool :=
  isAlwaysOn (net .minQueue true) (net .minQueue false) (net .maxQueue true) (net .maxQueue false)
    (endVoltage s net .minQueue true) (endVoltage s net .minQueue false)
    (endVoltage s net .maxQueue true) (endVoltage s net .maxQueue false)

variable {c d dir s net}

theorem isBalanced_iff {a b : CVirtualNet} : isBalanced a b = true ↔ IsWindow a b := by
  simp only [isBalanced, IsWindow, Bool.and_eq_true, decide_eq_true_eq, and_assoc]

/-- What is tested for voltages that are not all the same. -/
theorem testEnds_iff
    (hdiffer : ∃ q ∈ [EventQueueType.minQueue, .maxQueue], ∃ source,
      endVoltage s net q source ≠ endVoltage s net .minQueue true) :
    testEnds s net = true ↔ SelectsWindow s net ∨ FallsThrough s net := by
  unfold testEnds isAlwaysOn
  rw [if_neg (by simp at hdiffer; grind)]
  have hselects : ∀ source, Selects s net source ↔
      isSourceTarget (fun v w => decide (v < w)) (endVoltage s net .minQueue true) (endVoltage s net .minQueue false)
        (net .minQueue true) (net .minQueue false) = source ∧
      isSourceTarget (fun v w => decide (v > w)) (endVoltage s net .maxQueue true) (endVoltage s net .maxQueue false)
        (net .maxQueue true) (net .maxQueue false) = source := by
    intro source
    unfold Selects isSourceTarget
    cases source <;> simp <;> omega
  simp only [SelectsWindow, FallsThrough, hselects]
  generalize isSourceTarget _ _ _ (net .minQueue true) _ = a
  generalize isSourceTarget _ _ _ (net .maxQueue true) _ = b
  cases a <;> cases b <;> simp [isBalanced_iff]
  split
  case isTrue hsmall => exact (or_iff_left fun h => by omega).symm
  case isFalse hlarge =>
    have hsource : ¬IsWindow (net .minQueue true) (net .maxQueue true) := fun h => hlarge h.1
    rw [or_iff_right hsource, and_iff_left (by omega)]

theorem isAlwaysOnCandidate_iff (hreads : c.ReadsEnds d dir s net) :
    (∃ s', c.isAlwaysOnCandidate d dir s = .ok true s') ↔ EndsKnown s net ∧ testEnds s net = true := by
  obtain ⟨hd, houtput, s1, s2, s3, s4, h1, h2, h3, h4⟩ := hreads
  have hrun : c.isAlwaysOnCandidate d dir s = .ok (
      !([net .minQueue true, net .minQueue false, net .maxQueue true, net .maxQueue false].any fun x =>
        x.finalNetId == unknownNet || (s.netVoltagePtr x.finalNetId).isNone) && testEnds s net) s4 := by
    refine (congrFun (if_neg hd) s).trans ?_
    refine run_bind_eq_ok.2 ⟨s, s, rfl, ?_⟩
    refine (congrFun (if_neg (by cases dir <;> simpa using houtput)) s).trans ?_
    refine run_bind_eq_ok.2 ⟨_, s1, h1,
      run_bind_eq_ok.2 ⟨_, s2, h2, run_bind_eq_ok.2 ⟨_, s3, h3, run_bind_eq_ok.2 ⟨_, s4, h4, ?_⟩⟩⟩⟩
    split
    case isTrue hunknown => rw [hunknown]; rfl
    case isFalse hknown => rw [Bool.eq_false_iff.2 hknown]; rfl
  rw [hrun]
  simp [EndsKnown]

/-- A device whose four voltages are not all the same: it is a candidate only with a terminal that is selected and in the window,
exactly if the test does not go on to the drain. -/
theorem alwaysOnCandidate_iff (hreads : c.ReadsEnds d dir s net)
    (hdiffer : ∃ q ∈ [EventQueueType.minQueue, .maxQueue], ∃ source,
      endVoltage s net q source ≠ endVoltage s net .minQueue true) :
    ((∃ s', c.isAlwaysOnCandidate d dir s = .ok true s') → SelectsWindow s net) ↔ ¬(EndsKnown s net ∧ FallsThrough s net) := by
  rw [isAlwaysOnCandidate_iff hreads, testEnds_iff hdiffer]
  constructor
  · rintro h ⟨hknown, hfalls⟩
    obtain ⟨source, hsource, hwindow⟩ := h ⟨hknown, .inr hfalls⟩
    obtain rfl : source = true := hsource.1.2 (hfalls.1.1.1 rfl)
    exact hfalls.2.2 hwindow.1
  · rintro h ⟨hknown, hwindow | hfalls⟩
    · exact hwindow
    · exact absurd ⟨hknown, hfalls⟩ h

/-! ### An NMOS and a PMOS between the nets 2 and 3 -/

def passDevices : List FlatDevice :=
    [{ type := .nmos, source := 2, gate := 1, drain := 3 }, { type := .pmos, source := 2, gate := 0, drain := 3 }]

def passCircuit : FlatCircuit := .ofDevices 4 passDevices (by decide) false false

/-- Both nets lead to the ground and to the power, the source with some resistance and the drain with 1000. -/
def passEnds (r : Nat) (q : EventQueueType) (source : Bool) : CVirtualNet :=
  let final := if q = .minQueue then 0 else 1
  ⟨final, if source then r else 1000, final, if source then r else 1000⟩

def passState (r : Nat) : NetState :=
  { NetState.ofPowers 4 passDevices [{ netId := 0, minVoltage := 0 }, { netId := 1, maxVoltage := 1200 }] with
    virtualNet := fun q => { CVirtualNetVector.selfLinked 4 with
      net := fun n => if n = 2 then passEnds r q true else if n = 3 then passEnds r q false else ⟨n, 0, n, 0⟩
      lastUpdateV := fun _ => 0 } }

theorem passCircuit_candidate : SelectsWindow (passState 2000) (passEnds 2000) := by
  refine (@alwaysOnCandidate_iff passCircuit 0 .drainToMasterSource _ _ ?_ ?_).2 ?_ ⟨_, by rfl⟩
  · exact ⟨by decide, by decide +kernel, _, _, _, _, rfl, rfl, rfl, rfl⟩
  · exact ⟨.maxQueue, by simp, true, by decide⟩
  · exact fun h => h.2.2.2 (by decide)

theorem passCircuit_source_too_large : let s := passState (10 ^ 7)
    let net := passEnds (10 ^ 7)
    passCircuit.ReadsEnds 0 .drainToMasterSource s net ∧ endVoltage s net .maxQueue true ≠ endVoltage s net .minQueue true ∧
    (∃ s', passCircuit.isAlwaysOnCandidate 0 .drainToMasterSource s = .ok true s') ∧ ¬SelectsWindow s net := by
  refine ⟨⟨by decide, by decide +kernel, _, _, _, _, rfl, rfl, rfl, rfl⟩, by decide, ⟨_, by rfl⟩, ?_⟩
  rintro ⟨source, ⟨hmin, -⟩, hwindow⟩
  obtain rfl : source = true := hmin.2 (.inr ⟨rfl, by decide⟩)
  exact absurd hwindow.1.1 (by decide)

end FlatCircuit
end Cvc
