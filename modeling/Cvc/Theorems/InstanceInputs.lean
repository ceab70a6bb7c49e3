import Cvc.PathNodes
import Cvc.SetPower

/-!
# Inputs in the power file of an instance

A line of the power file of an instance that defines an input should become an expected level of each of its nets. The definition
for a net is a copy of that for the net before, which is an input no more once it is an expected level. So only the first net gets
an expected level, and the definition is made the power of those of the others that have none.
-/

namespace Cvc

open PowerSettings List

namespace PowerSettings

variable {s : PowerSettings}

/-- The powers of the nets were made. -/
def Valid (s : PowerSettings) : Prop := ∀ n p, s.netVoltagePtr n = some p → p < s.powerCount

/-- A line gives every one of its nets an expected level, and none of them a power. -/
structure AddsExpectedLevels (equivalentNet : Nat → Nat) (nets : List Nat) (s t : PowerSettings) : Prop where
  level : ∃ levels, t.cvcExpectedLevelPtrList = s.cvcExpectedLevelPtrList ++ levels ∧
    levels.map (fun p => (t.power p).netId) = nets.map (s.getEquivalentNet equivalentNet)
  not_power : t.cvcPowerPtrList = s.cvcPowerPtrList
  not_installed : t.netVoltagePtr = s.netVoltagePtr

theorem Valid.newPower (hs : s.Valid) (power : CPower) : (s.newPower power).Valid :=
  fun n p hp => Nat.lt_succ_of_lt (hs n p hp)

theorem Valid.install (hs : s.Valid) {p : Nat} (hp : p < s.powerCount) (theNetId : Nat) : (s.install theNetId p).Valid := by
  intro n q hq
  by_cases hn : n = theNetId
  · simp only [PowerSettings.install, hn, Function.update_self, Option.some.injEq] at hq
    exact hq ▸ hp
  · exact hs n q (by simpa [PowerSettings.install, hn] using hq)

/-- A new power has no part in the equivalent nets. -/
theorem Valid.getEquivalentNet_newPower (hs : s.Valid) (power : CPower) (eqv : Nat → Nat) (n : Nat) :
    (s.newPower power).getEquivalentNet eqv n = s.getEquivalentNet eqv n := by
  simp only [getEquivalentNet, PowerSettings.newPower]
  split
  · rfl
  · cases hp : s.netVoltagePtr (eqv n) with
    | none => rfl
    | some p => simp [Function.update_of_ne (Nat.ne_of_lt (hs _ p hp))]

end PowerSettings

namespace CPower

/-- A voltage as a text is not empty. -/
theorem toStringVolts_ne_nil (v : Int) : toStringVolts v ≠ [] := by
  have hwhole : (fixedVolts v).1 ≠ [] := by
    intro hnil
    have : (toString (v.natAbs / 1000)).toList = [] := (append_eq_nil_iff.1 hnil).2
    simp at this
  unfold toStringVolts
  split
  · exact hwhole
  · simp

end CPower

namespace InstancePowerState

variable {s : InstancePowerState} {orig : Text} {eqv : Nat → Nat} {p : Nat}

/-- The line names a power of the top. -/
def IsMacro (myOriginalPower : Text) (type : PowerType) : Prop :=
    type.powerBit = true ∧ myOriginalPower.head?.any Char.isAlpha = true

/-- A definition with this type becomes no expected level. -/
def Passes (myOriginalPower : Text) (type : PowerType) : Prop := IsMacro myOriginalPower type ∨ type.inputBit = false

/-- What a round does to the lists and powers when the definition passes: the expected levels and the powers stay. -/
theorem setNet_of_passes (hpass : Passes orig (s.settings.power p).type) (n : Nat) :
    (s.setNet orig p n).settings.cvcExpectedLevelPtrList = s.settings.cvcExpectedLevelPtrList ∧
      (s.setNet orig p n).settings.power = s.settings.power := by
  by_cases htop : IsMacro orig (s.settings.power p).type
  · have hif : ((s.settings.power p).type.powerBit && orig.head?.any Char.isAlpha) = true := by simp [htop.1, htop.2]
    simp only [setNet, hif, if_true, setMacro]
    split
    · split <;> exact ⟨rfl, rfl⟩
    · exact ⟨rfl, rfl⟩
  · have hif : ((s.settings.power p).type.powerBit && orig.head?.any Char.isAlpha) = false := by
      simpa [IsMacro] using htop
    simp only [setNet, hif, hpass.resolve_left htop, Bool.false_eq_true, if_false, setFull]
    split <;> exact ⟨rfl, rfl⟩

/-- A round keeps the powers of the nets among those made, and their number. -/
theorem setNet_valid (hs : s.settings.Valid) (hp : p < s.settings.powerCount) (n : Nat) : (s.setNet orig p n).settings.Valid ∧
      (s.setNet orig p n).settings.powerCount = s.settings.powerCount := by
  unfold setNet
  dsimp only
  split
  · unfold setMacro
    split
    · split <;> exact ⟨hs, rfl⟩
    · exact ⟨hs, rfl⟩
  split
  · unfold setExpected
    dsimp only
    split <;> exact ⟨hs, rfl⟩
  · unfold setFull
    split
    · exact ⟨hs, rfl⟩
    · exact ⟨.install (s := s.settings.pushPower p) hs hp n, rfl⟩

variable (orig eqv) in
/-- The state at the beginning of the round for one of the other nets. -/
theorem setNext_eq (s : InstancePowerState × Nat) (n : Nat) :
    ∃ t : InstancePowerState, t.settings.cvcExpectedLevelPtrList = s.1.settings.cvcExpectedLevelPtrList ∧
      (s.1.settings.Valid → t.settings.Valid) ∧ (t.settings.power s.1.settings.powerCount).type = (s.1.settings.power s.2).type ∧
      s.1.settings.powerCount < t.settings.powerCount ∧ setNext eqv orig s n =
        (t.setNet orig s.1.settings.powerCount (s.1.settings.getEquivalentNet eqv n), s.1.settings.powerCount) := by
  refine ⟨{ s.1 with settings := s.1.settings.newPower ((s.1.settings.power s.2).copyTo (s.1.settings.getEquivalentNet eqv n)) },
    rfl, fun hs => hs.newPower _, ?_, Nat.lt_succ_self _, rfl⟩
  simp [newPower, CPower.copyTo]

/-- From a definition that passes on, no net gets an expected level. -/
theorem foldl_setNext_of_passes {s : InstancePowerState × Nat} (nets : List Nat)
    (hpass : Passes orig (s.1.settings.power s.2).type) :
    (nets.foldl (setNext eqv orig) s).1.settings.cvcExpectedLevelPtrList = s.1.settings.cvcExpectedLevelPtrList := by
  induction nets generalizing s with
  | nil => rfl
  | cons n nets ih =>
    obtain ⟨t, hlevels, -, htype, -, heq⟩ := setNext_eq orig eqv s n
    rw [← htype] at hpass
    obtain ⟨hkept, hpower⟩ := setNet_of_passes hpass (s.1.settings.getEquivalentNet eqv n)
    rw [foldl_cons, ih (by rw [heq]; simpa only [hpower] using hpass), heq]
    exact hkept.trans hlevels

theorem foldl_setNext_valid {s : InstancePowerState × Nat} (nets : List Nat) (hs : s.1.settings.Valid) :
    (nets.foldl (setNext eqv orig) s).1.settings.Valid := by
  induction nets generalizing s with
  | nil => exact hs
  | cons n nets ih =>
    obtain ⟨t, -, hvalid, -, hlt, heq⟩ := setNext_eq orig eqv s n
    exact ih (by rw [heq]; exact (setNet_valid (hvalid hs) hlt _).1)

variable (eqv) in
/-- The first round of a line that defines an input: it becomes an expected level. -/
theorem setFirst_input (n : Nat) (hinput : (s.settings.power p).type.inputBit = true)
    (hknown : (s.settings.power p).minVoltage ≠ unknownVoltage ∨ (s.settings.power p).simVoltage ≠ unknownVoltage ∨
      (s.settings.power p).maxVoltage ≠ unknownVoltage) (htop : ¬ IsMacro orig (s.settings.power p).type) :
    ∃ power : CPower, power.netId = s.settings.getEquivalentNet eqv n ∧ power.type.inputBit = false ∧ s.setFirst eqv orig p n =
        { s with settings := (s.settings.setPower p power).pushExpectedLevel p } := by
  have hif : ((s.settings.power p).type.powerBit && orig.head?.any Char.isAlpha) = false := by
    simpa [IsMacro] using htop
  set net := s.settings.getEquivalentNet eqv n
  refine ⟨({ s.settings.power p with netId := net } : CPower).expectVoltages.expectedOnly, rfl, rfl, ?_⟩
  have hexpected : ({ s.settings.power p with netId := net } : CPower).expectVoltages.hasExpected = true := by
    rcases hknown with hv | hv | hv <;>
      simp [CPower.hasExpected, CPower.expectVoltages, CPower.expectedMin, CPower.expectedSim, CPower.expectedMax, hv,
        CPower.toStringVolts_ne_nil]
  simp [setFirst, setNet, setPower, hif, hinput, setExpected, net, hexpected]

/-- A line with a definition that passes adds no expected level. -/
theorem setNets_of_passes (hpass : Passes orig (s.settings.power p).type) (nets : List Nat) :
    (s.setNets eqv orig p nets).settings.cvcExpectedLevelPtrList = s.settings.cvcExpectedLevelPtrList := by
  cases nets with
  | nil => rfl
  | cons net rest =>
    set power := { s.settings.power p with netId := s.settings.getEquivalentNet eqv net }
    have hfirst : Passes orig ((s.settings.setPower p power).power p).type := by simpa [setPower] using hpass
    obtain ⟨hlevels, hpower⟩ := setNet_of_passes (s := { s with settings := s.settings.setPower p power }) hfirst
      (s.settings.getEquivalentNet eqv net)
    have hpower' : (s.setFirst eqv orig p net).settings.power = (s.settings.setPower p power).power := hpower
    exact (foldl_setNext_of_passes rest (by rw [hpower']; exact hfirst)).trans hlevels

/-- A line that defines an input adds one expected level. -/
theorem setNets_input {first : CPower} (net : Nat) (rest : List Nat) (htype : first.type.inputBit = false)
    (hfirst : s.setFirst eqv orig p net = { s with settings := (s.settings.setPower p first).pushExpectedLevel p }) :
    (s.setNets eqv orig p (net :: rest)).settings.cvcExpectedLevelPtrList = s.settings.cvcExpectedLevelPtrList ++ [p] := by
  unfold setNets
  rw [foldl_setNext_of_passes rest (by simp [hfirst, setPower, pushExpectedLevel, Passes, htype]), hfirst]
  rfl

theorem setNets_valid (hs : s.settings.Valid) (hp : p < s.settings.powerCount) (nets : List Nat) :
    (s.setNets eqv orig p nets).settings.Valid := by
  cases nets with
  | nil => exact hs
  | cons net rest => exact foldl_setNext_valid rest (setNet_valid (s := { s with settings := s.settings.setPower p _ }) hs hp _).1

end InstancePowerState

section
variable {h : Hierarchy} (names : CCircuitPtrList h) (regex : Text → Option (Text → Bool)) (db : CCvcDb)

open InstancePowerState

/-- For a line that defines an input with a known voltage and names nets: every net gets an expected level and none of them a
power, exactly when there is one net and the line does not name a power of the top. -/
theorem setInstanceLine_input_iff (equivalentNet : Nat → Nat) (depth theInstanceId : Nat) (s : InstancePowerState) (line : Text)
    {power : CPower} {voltages : VoltageState} {hierarchyName : Text} {nets : List Nat} (hs : s.settings.Valid)
    (hparse : CPower.ofString line (fun name => (s.myLocalMacroPtrMap name).map s.settings.power) depth s.voltages =
      .ok (power, voltages))
    (hinput : power.type.inputBit = true)
    (hknown : power.minVoltage ≠ unknownVoltage ∨ power.simVoltage ≠ unknownVoltage ∨ power.maxVoltage ≠ unknownVoltage)
    (hname : h.hierarchyName db theInstanceId = .ok hierarchyName)
    (hnets : names.netIdList regex db (instanceSignal hierarchyName power.powerSignal) theInstanceId = .ok nets)
      (hne : nets ≠ []) :
    ∃ t, names.setInstanceLine regex db equivalentNet depth theInstanceId s line = .ok t ∧ t.settings.Valid ∧
      (AddsExpectedLevels equivalentNet nets s.settings t.settings ↔
        nets.length = 1 ∧ ¬ (power.type.powerBit = true ∧ power.powerSignal.head?.any Char.isAlpha = true)) := by
  set named : CPower := { power with
    extraData := power.extraData.map ({ · with powerSignal := instanceSignal hierarchyName power.powerSignal }) }
  set t0 : InstancePowerState := { s with settings := s.settings.newPower named, voltages }
  have hmade : t0.settings.power s.settings.powerCount = named := by simp [t0, newPower]
  refine ⟨t0.setNets equivalentNet power.powerSignal s.settings.powerCount nets, ?_,
    setNets_valid (hs.newPower _) (Nat.lt_succ_self _) nets, ?_⟩
  · simp only [CCircuitPtrList.setInstanceLine, hparse, hname, hnets, bind, Except.bind, pure]
    rfl
  obtain ⟨net, rest, rfl⟩ := exists_cons_of_ne_nil hne
  by_cases htop : IsMacro power.powerSignal power.type
  · -- the line names a power of the top, for every one of its nets
    refine iff_of_false (fun hadd => ?_) (fun hone => hone.2 htop)
    obtain ⟨levels, hlevels, hmap⟩ := hadd.level
    rw [setNets_of_passes (by rw [hmade]; exact .inl htop)] at hlevels
    obtain rfl : levels = [] := self_eq_append_right.1 hlevels
    simp at hmap
  obtain ⟨first, hnet, htype, hfirst⟩ := setFirst_input (s := t0) (p := s.settings.powerCount) equivalentNet net
    (hmade ▸ hinput) (hmade ▸ hknown) (by rw [hmade]; exact htop)
  have hall := setNets_input net rest htype hfirst
  constructor
  · intro hadd
    obtain ⟨levels, hlevels, hmap⟩ := hadd.level
    rw [hall] at hlevels
    obtain rfl : [s.settings.powerCount] = levels := append_cancel_left hlevels
    have hlength := congrArg List.length hmap
    simp only [length_map] at hlength
    exact ⟨hlength.symm, htop⟩
  · rintro ⟨hone, -⟩
    obtain rfl : rest = [] := by simpa using hone
    have hline : t0.setNets equivalentNet power.powerSignal s.settings.powerCount [net] =
        { t0 with settings := (t0.settings.setPower s.settings.powerCount first).pushExpectedLevel s.settings.powerCount } :=
          hfirst
    rw [hline]
    refine ⟨⟨[s.settings.powerCount], rfl, ?_⟩, rfl, rfl⟩
    simp [setPower, pushExpectedLevel, hnet, t0, hs.getEquivalentNet_newPower]

/-- A top with an instance `X` of a circuit with the ports `a<1>` and `a<0>`. -/
def busCell : Hierarchy :=
  { Hierarchy.ofCircuits [{ portCount := 2, localSignalIdMap := [2, 3] },
      { localSignalIdMap := [5, 6], subcircuitPtrV := [⟨4, [0, 1], 0⟩] }] (by decide) (by decide) (by decide) with
    text := fun name => ["CELL", "TOP", "a<1>", "a<0>", "X", "p", "q"].getD name "" }

/-- The names of `busCell`. -/
def busCellNames : CCircuitPtrList busCell :=
    .ofRange 7 (fun _ => Hierarchy.isName_lt (fun _ => rfl) (by decide)) (by decide +kernel)

/-- Settings without a power. -/
def noPowers : PowerSettings where
  power _ := {}
  powerCount := 0

/-- The line `a<1> input min@0.1 max@1.2` for the instance `/X`. -/
theorem busCell_oneNet : ∃ counts db, busCell.linkTop = .ok counts ∧ busCell.assignTopGlobalIDs 10 counts = .ok db ∧
    ∃ t, busCellNames.setInstanceLine exactPattern db id 3 1 { settings := noPowers } "a<1> input min@0.1 max@1.2".toList =
      .ok t ∧
      AddsExpectedLevels id [0] noPowers t.settings := by
  obtain ⟨counts, db, hlink, hdb, hname, hlist⟩ := busCell.exists_flat 10
    (fun db => (busCell.hierarchyName db 1).toOption = some "/X".toList ∧
      (busCellNames.netIdList exactPattern db "/X/a<1>".toList 1).toOption = some [0]) (by decide +kernel)
  have hline : ((CPower.ofString "a<1> input min@0.1 max@1.2".toList (fun _ => none) 3 {}).toOption.map fun r =>
      (r.1.type.inputBit, r.1.type.powerBit, r.1.minVoltage, r.1.powerSignal)) =
        some (true, false, 100, "a<1>".toList) := by decide +kernel
  obtain ⟨⟨power, voltages⟩, hparse, hpower⟩ := Option.map_eq_some_iff.1 hline
  simp only [Prod.mk.injEq] at hpower
  obtain ⟨hinput, hnotpower, hmin, hsignal⟩ := hpower
  have hnets : busCellNames.netIdList exactPattern db (instanceSignal "/X".toList power.powerSignal) 1 = .ok [0] := by
    rw [hsignal]
    exact eq_ok_of_toOption hlist
  obtain ⟨t, ht, -, hiff⟩ :=
    setInstanceLine_input_iff busCellNames exactPattern db id 3 1 { settings := noPowers } _ (fun _ _ => nofun)
    (eq_ok_of_toOption hparse) hinput (.inl (by rw [hmin]; decide)) (eq_ok_of_toOption hname) hnets (by simp)
  exact ⟨counts, db, hlink, hdb, t, ht, hiff.2 ⟨rfl, by simp [hnotpower]⟩⟩

/-- From the line `a<1:0> input min@0.1 max@1.2` for the instance `/X`, the first of the two nets gets an expected level and the
second one a power. -/
theorem busCell_twoNets : ∃ counts db, busCell.linkTop = .ok counts ∧ busCell.assignTopGlobalIDs 10 counts = .ok db ∧
    busCellNames.netIdList exactPattern db "/X/a<1:0>".toList 1 = .ok [0, 1] ∧
    ∃ t, busCellNames.setInstancePower exactPattern db id 3 []
        [{ instanceName := "/X".toList, powerFile := "x.power".toList, powerList := ["a<1:0> input min@0.1 max@1.2".toList] }]
          noPowers {} =
          .ok (t, false) ∧
      t.cvcExpectedLevelPtrList = [0] ∧ t.cvcPowerPtrList = [1] ∧ t.netVoltagePtr 0 = none ∧ t.netVoltagePtr 1 = some 1 ∧
      ¬ AddsExpectedLevels id [0, 1] noPowers t := by
  obtain ⟨counts, db, hlink, hdb, hnets, hrun⟩ := busCell.exists_flat 10
    (fun db => (busCellNames.netIdList exactPattern db "/X/a<1:0>".toList 1).toOption = some [0, 1] ∧
      ((busCellNames.setInstancePower exactPattern db id 3 []
        [{ instanceName := "/X".toList, powerFile := "x.power".toList, powerList := ["a<1:0> input min@0.1 max@1.2".toList] }]
        noPowers {}).toOption.map
          (fun r => (r.2, r.1.cvcExpectedLevelPtrList, r.1.cvcPowerPtrList, r.1.netVoltagePtr 0, r.1.netVoltagePtr 1)) ==
            some (false, [0], [1], none, some 1)) = true) (by decide +kernel)
  obtain ⟨⟨t, error⟩, hrun, ht⟩ := Option.map_eq_some_iff.1 (beq_iff_eq.1 hrun)
  simp only [Prod.mk.injEq] at ht
  obtain ⟨rfl, hlevels, hlist, hnone, hsome⟩ := ht
  refine ⟨counts, db, hlink, hdb, eq_ok_of_toOption hnets, t, eq_ok_of_toOption hrun, hlevels, hlist, hnone,
    hsome, fun hadd => ?_⟩
  have := hadd.not_power
  simp [hlist, noPowers] at this

end
end Cvc
