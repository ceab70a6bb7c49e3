import Cvc.InverterInput
import Cvc.Theorems.TrivialInverters

/-!
# Inverters with series transistors

`GetNextInSeries` skips the devices between two different nets, so it finds no transistor, and a transistor counts only if it is
connected to the ground or the power itself (`mosInput_eq_some`). `findInverterInput_exact_iff`: the input of an inverter is found
exactly where no transistor is in series, and there are NMOS and PMOS transistors.
-/

namespace Cvc
namespace FlatCircuit

variable (c : FlatCircuit) (s : NetState)

/-- A transistor leads to its ground or power: itself, or, if its gate is on, by the only other device of the net between them,
which is a transistor of its kind. The gate net that is left is the input. -/
inductive Reaches (rail : Nat) (power : CPower) (device net : Nat) : Nat → Prop where
  | direct (h : net = rail) : Reaches rail power device net (c.gateNet device)
  | series (next : Nat) (h : net ≠ rail) (hon : c.isOnGate s device power = true)
      (hnext : (c.sources net ++ c.drains net).filter (fun d => c.sourceNet d != c.drainNet d && d != device) = [next])
      (hsame : isSameMos (c.deviceType device) (c.deviceType next) = true) (hrail : c.oppositeNet next net = .ok rail) :
      Reaches rail power device net (c.gateNet next)

/-- The transistors at a net that are not inactive, with the nets on their other sides. -/
def transistors (n : Nat) : List (Nat × Nat) := c.activeMos c.drainNet (c.sources n) ++ c.activeMos c.sourceNet (c.drains n)

/-- The transistors of a net all lead to the ground or the power, with one input. -/
def IsInverter (n : Nat) (rail : Bool → Nat) (power : Bool → CPower) (input : Nat) : Prop :=
  c.transistors n ≠ [] ∧ ∀ t ∈ c.transistors n,
    c.Reaches s (rail (c.deviceType t.1).isNmos) (power (c.deviceType t.1).isNmos) t.1 t.2 input

variable {c s} {device net g : Nat} {rail input result : Bool → Nat} {power : Bool → CPower} {l : List (Nat × Nat)}

/-- The only device that is found in series is at one net with both sides. -/
theorem sourceNet_getNextInSeries (h : c.getNextInSeries device net ≠ unknownDevice) :
    c.sourceNet (c.getNextInSeries device net) = c.drainNet (c.getNextInSeries device net) := by
  unfold getNextInSeries at h ⊢
  split at h
  case h_2 => exact absurd rfl h
  case h_1 next hnext =>
    have hmem : next ∈ (c.sources net ++ c.drains net).filter fun d =>
      !(c.sourceNet d != c.drainNet d) && d != device := by simp [hnext]
    have hsame : c.sourceNet next = c.drainNet next := by simpa using (Bool.and_eq_true_iff.1 (List.mem_filter.1 hmem).2).1
    split at h
    · exact absurd rfl h
    · rwa [if_neg ‹_›]

theorem mosInput_eq_some {rail : Nat} {power : CPower} :
    c.mosInput s rail power device net = .ok (some g) ↔ net = rail ∧ c.gateNet device = g := by
  unfold mosInput
  split
  case isTrue h => simp [h, pure, Except.pure]
  case isFalse h =>
    refine iff_of_false (fun hsome => ?_) fun hdirect => h hdirect.1
    split at hsome
    · dsimp only at hsome
      split at hsome
      · nomatch hsome
      case isFalse hknown =>
        obtain ⟨opposite, hopposite, hsome⟩ := bind_eq_ok.1 hsome
        -- the other side of the device is the net in the middle again
        have hnet : opposite = net := by
          unfold oppositeNet at hopposite
          rw [sourceNet_getNextInSeries hknown] at hopposite
          split at hopposite <;> simp_all
        rw [hnet, if_neg h] at hsome
        nomatch hsome
    · nomatch hsome

/-- What a check that is OK has found: every transistor is at its ground or power, and its gate at the input of its kind. -/
structure Found (c : FlatCircuit) (rail : Bool → Nat) (l : List (Nat × Nat)) (input result : Bool → Nat) : Prop where
  direct : ∀ t ∈ l, t.2 = rail (c.deviceType t.1).isNmos ∧ c.gateNet t.1 = result (c.deviceType t.1).isNmos
  kept : ∀ kind, result kind = input kind ∨ input kind = unknownNet ∧ ∃ t ∈ l, (c.deviceType t.1).isNmos = kind

theorem findUniqueMosInputs_ok_iff (hl : ∀ t ∈ l, c.gateNet t.1 ≠ unknownNet) :
    c.findUniqueMosInputs s rail power l input = .ok (true, result) ↔ c.Found rail l input result := by
  induction l generalizing input with
  | nil =>
    constructor
    · rintro ⟨⟩
      exact ⟨nofun, fun _ => .inl rfl⟩
    · rintro ⟨-, hkept⟩
      have hsame : result = input := funext fun kind => (hkept kind).resolve_right fun ⟨_, _, ht, _⟩ => nomatch ht
      rw [hsame]
      rfl
  | cons t l ih =>
    obtain ⟨hg, hl⟩ := List.forall_mem_cons.1 hl
    have hstep : c.findUniqueMosInputs s rail power (t :: l) input = .ok (true, result) ↔ t.2 = rail (c.deviceType t.1).isNmos ∧
        (input (c.deviceType t.1).isNmos = unknownNet ∨ input (c.deviceType t.1).isNmos = c.gateNet t.1) ∧
        c.findUniqueMosInputs s rail power l (Function.update input (c.deviceType t.1).isNmos (c.gateNet t.1)) =
          .ok (true, result) := by
      rw [findUniqueMosInputs, bind_eq_ok]
      constructor
      · rintro ⟨_ | g, hinput, hnext⟩
        · nomatch hnext
        obtain ⟨hnet, rfl⟩ := mosInput_eq_some.1 hinput
        dsimp only at hnext
        split at hnext
        · exact ⟨hnet, ‹_›, hnext⟩
        · nomatch hnext
      · rintro ⟨hnet, hinput, hnext⟩
        exact ⟨_, mosInput_eq_some.2 ⟨hnet, rfl⟩, (if_pos hinput).trans hnext⟩
    rw [hstep, ih hl]
    constructor
    · rintro ⟨hnet, hinput, hdirect, hkept⟩
      constructor <;> grind [Function.update_apply]
    · rintro ⟨hdirect, hkept⟩
      refine ⟨?_, ?_, ?_, ?_⟩ <;> grind [Function.update_apply]

/-- The two checks are one of all devices. -/
theorem findUniqueMosInputs_append (l l' : List (Nat × Nat)) (input : Bool → Nat) :
    c.findUniqueMosInputs s rail power (l ++ l') input = (do
      let (check, input) ← c.findUniqueMosInputs s rail power l input
      if check then c.findUniqueMosInputs s rail power l' input else pure (false, input)) := by
  induction l generalizing input with
  | nil => rfl
  | cons t l ih =>
    rw [List.cons_append, findUniqueMosInputs, findUniqueMosInputs]
    cases c.mosInput s (rail (c.deviceType t.1).isNmos) (power (c.deviceType t.1).isNmos) t.1 t.2 with
    | error => rfl
    | ok g =>
      cases g with
      | none => rfl
      | some g =>
        simp only [bind, Except.bind]
        split
        · exact ih _
        · rfl

section
variable {n : Nat} {low high : CVirtualNet} {v w : CVirtualNetVector} {ground power : CPower}
  (hlow : CVirtualNet.operatorCall (s.virtualNet .minQueue) n = some (low, v)) (hground : powerOf s low.finalNetId = some ground)
  (hhigh : CVirtualNet.operatorCall (s.virtualNet .maxQueue) n = some (high, w)) (hpower : powerOf s high.finalNetId = some power)
  (hgates : ∀ t ∈ c.transistors n, c.gateNet t.1 ≠ unknownNet)
include hlow hground hhigh hpower hgates

theorem findInverterInput_ok_iff (input : Nat) : c.findInverterInput s n = .ok input ∧ input ≠ unknownNet ↔
    input ≠ unknownNet ∧ c.Found (cond · low.finalNetId high.finalNetId) (c.transistors n)
      (fun _ => unknownNet) fun _ => input := by
  rw [and_comm, and_congr_right_iff]
  intro hknown
  rw [← @findUniqueMosInputs_ok_iff c s _ _ _ (cond · ground power) _ hgates, transistors, findUniqueMosInputs_append]
  unfold findInverterInput
  rw [hlow, hhigh]
  simp only [hground, hpower]
  cases c.findUniqueMosInputs s (cond · low.finalNetId high.finalNetId) (cond · ground power)
    (c.activeMos c.drainNet (c.sources n))
      fun _ => unknownNet with
  | error => simp [bind, Except.bind]
  | ok r =>
    obtain ⟨check, a⟩ := r
    simp only [bind, Except.bind]
    cases c.findUniqueMosInputs s (cond · low.finalNetId high.finalNetId) (cond · ground power)
      (c.activeMos c.sourceNet (c.drains n)) a with
    | error => cases check <;> simp [pure, Except.pure]
    | ok r =>
      obtain ⟨check', b⟩ := r
      have hfun : b = (fun _ => input) ↔ b true = input ∧ b false = input := by simp [funext_iff, and_comm]
      cases check <;> cases check' <;> simp [pure, Except.pure, hfun] <;> grind

/-- The code finds the inputs of inverters, and no others, exactly if the transistors of every inverter are at its ground and
power, and it has some of both kinds. -/
theorem findInverterInput_exact_iff :
    (∀ input, c.findInverterInput s n = .ok input ∧ input ≠ unknownNet ↔
      c.IsInverter s n (cond · low.finalNetId high.finalNetId) (cond · ground power) input) ↔
    ∀ input, c.IsInverter s n (cond · low.finalNetId high.finalNetId) (cond · ground power) input →
      (∀ t ∈ c.transistors n, t.2 = cond (c.deviceType t.1).isNmos low.finalNetId high.finalNetId) ∧
        ∀ kind, ∃ t ∈ c.transistors n, (c.deviceType t.1).isNmos = kind := by
  have hiff := findInverterInput_ok_iff hlow hground hhigh hpower hgates
  constructor
  · intro h input hinverter
    obtain ⟨hknown, hfound⟩ := (hiff input).1 ((h input).2 hinverter)
    exact ⟨fun t ht => (hfound.direct t ht).1, fun kind => ((hfound.kept kind).resolve_left hknown).2⟩
  · intro h input
    rw [hiff]
    constructor
    · rintro ⟨hknown, hfound⟩
      obtain ⟨-, t, ht, -⟩ := (hfound.kept true).resolve_left hknown
      refine ⟨List.ne_nil_of_mem ht, fun t ht => ?_⟩
      obtain ⟨hnet, rfl⟩ := hfound.direct t ht
      exact .direct hnet
    · intro hinverter
      obtain ⟨hdirect, hkinds⟩ := h input hinverter
      have hgate : ∀ t ∈ c.transistors n, c.gateNet t.1 = input := by
        intro t ht
        cases hinverter.2 t ht with
        | direct => rfl
        | series _ hne => exact absurd (hdirect t ht) hne
      obtain ⟨t, ht, -⟩ := hkinds true
      exact ⟨hgate t ht ▸ hgates t ht, fun t ht => ⟨hdirect t ht, hgate t ht⟩, fun kind => .inr ⟨rfl, hkinds kind⟩⟩

end

/-- The nets with the powers 0 and 1, where the net 3 has a min link to the one and a max link to the other. -/
def outputState (devices : List FlatDevice) : NetState :=
  { NetState.ofPowers 5 devices
      [{ netId := 0, minVoltage := 0, type := { powerBit := true } },
        { netId := 1, minVoltage := 1200, type := { powerBit := true } }] with
    virtualNet := fun queue =>
      let final := if queue = .minQueue then 0 else 1
      ((CVirtualNetVector.selfLinked 5).link 3 final 1).storeFinal 3 final 1 0 }

theorem inverter_input_exact : inverterCircuit.IsInverter (outputState inverterDevices) 3 (cond · 0 1)
    (cond · ((outputState inverterDevices).power 0) ((outputState inverterDevices).power 1)) 2 := by
  have hiff := findInverterInput_exact_iff (c := inverterCircuit) (s := outputState inverterDevices) (n := 3) rfl rfl rfl rfl
    (by decide +kernel)
  exact (hiff.2 fun _ _ => by decide +kernel) 2 |>.1 ⟨by rfl, by decide⟩

/-- An inverter from the net 2 to the net 3 with an NMOS transistor that is always on between the net 3 and the other one. -/
def seriesDevices : List FlatDevice :=
  [{ type := .nmos, source := 3, gate := 1, drain := 4 }, { type := .nmos, source := 4, gate := 2, drain := 0 },
    { type := .pmos, source := 1, gate := 2, drain := 3 }]

theorem series_input_not_found : let c := FlatCircuit.ofDevices 5 seriesDevices (by decide) false false
    let s := outputState seriesDevices
    c.IsInverter s 3 (cond · 0 1) (cond · (s.power 0) (s.power 1)) 2 ∧ (c.findInverterInput s 3).toOption = some unknownNet := by
  intro c s
  have htransistors : c.transistors 3 = [(0, 4), (2, 1)] := by decide +kernel
  refine ⟨⟨by rw [htransistors]; nofun, ?_⟩, by decide +kernel⟩
  rw [htransistors]
  simp only [List.forall_mem_cons]
  refine ⟨?_, ?_, nofun⟩
  · exact .series 1 (by decide) (by decide +kernel) (by decide +kernel) (by decide +kernel) (by decide +kernel)
  · exact .direct rfl

end FlatCircuit
end Cvc
