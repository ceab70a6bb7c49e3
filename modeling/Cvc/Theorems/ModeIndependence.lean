import Cvc.Lemmas.ModeLoop

/-!
# Independence of the modes

What is in force when a run goes on to its checks, against the files of that run alone. The runs of one process are not
independent: the list of instance powers and the lists of net checks are never cleared, and the checks of nets and models are
loaded only with a new database, although the models are read anew in every run.
-/

namespace Cvc

open List

/-- What is in force is what the files of the run say: the instances of its power file with the definitions of their own files
once, the models of its model file with the checks of its model check file, and the checks of its net check file. -/
structure InForce (readers : Readers) (options : Options) (m : Mode) (s : ModeState) : Prop where
  instancePowers : InstancePowersOf m s.cvcInstancePowerPtrList
  modelChecks : ModelChecksOf readers m (loadModels readers options.gSetup m).1 s.cvcModelListMap
  netChecks : NetChecksOf m s.inverterInputOutputCheckList s.oppositeLogicList

/-- A run after any others has its own definitions in force exactly when
* no run before it had an instance line in its power file, and
* with a new database, the net check files of the runs that read a netlist had no check; with the database of one of them, they
  had the checks of its own net check file, and no line of its model check file is a check of one of its models. -/
theorem inForce_iff (readers : Readers) (options : Options) (soi : Bool) (history : List Mode) (m : Mode) (s s' : ModeState)
    (hs : verifyCircuitForAllModes readers options { cvcLastSOI := soi } history = .ok s)
    (hm : verifyCircuit readers options s m = .ok (s', true)) :
    let earlier := loadedChecks readers options ([], [], soi) history
    InForce readers options m s' ↔ (∀ e ∈ history, e.lockReport = true → e.instanceLines = []) ∧
      if m.database = lastDatabase readers options ([], [], soi) history then
        (∃ own, m.netChecks = some own ∧ inverterNets own = inverterNets earlier ∧ oppositeNets own = oppositeNets earlier) ∧
          ∃ lines, m.optionalLines m.cvcModelCheckFile = some lines ∧
            ∀ line ∈ lines, modelCheck readers (loadModels readers options.gSetup m).1 line = .ok none
      else inverterNets earlier = [] ∧ oppositeNets earlier = [] := by
  intro earlier
  rcases verifyCircuit_cases hm with ⟨-, -, hfalse⟩ | ⟨-, instancePowers, status, hpower, hstatus, hcase⟩
  · nomatch hfalse
  obtain ⟨hmodel, rfl⟩ := hstatus rfl
  have hgoes : GoesOn readers options m .ok := .inr ⟨hmodel, rfl⟩
  have hpowers := instancePowersOf_iff hpower
  rw [instancePowers_eq_nil_iff hs rfl] at hpowers
  by_cases hlines : ∀ e ∈ history, e.lockReport = true → e.instanceLines = []
  swap
  · -- the instances of an earlier run are still there
    refine iff_of_false (fun hf => hlines (hpowers.1 ?_)) fun h => hlines h.1
    rcases hcase with ⟨-, rfl⟩ | ⟨-, -, _, _, _, -, -, rfl⟩ <;> exact hf.instancePowers
  have hstart : Loaded [] ([], [], soi) { cvcLastSOI := soi } := ⟨rfl, rfl, rfl, rfl⟩
  have hloaded := hstart.verifyCircuitForAllModes hs hlines
  rw [nil_append] at hloaded
  rcases hcase with ⟨hsame, rfl⟩ | ⟨-, hsame, inverters, opposites, models, hnets, hmodels, rfl⟩
  · rw [if_pos (hloaded.isSameDatabase_iff.1 (hsame hgoes)), ← modelChecksOf_self_iff (unchecked_loadModels options.gSetup)]
    have hown : NetChecksOf m s.inverterInputOutputCheckList s.oppositeLogicList ↔
        ∃ own, m.netChecks = some own ∧ inverterNets own = inverterNets earlier ∧ oppositeNets own = oppositeNets earlier := by
      simp only [netChecksOf_iff, hloaded.inverters, hloaded.opposites, reverse_inj, eq_comm, earlier]
    rw [← hown]
    exact ⟨fun hf => ⟨hlines, hf.3, hf.2⟩, fun ⟨_, hn, hc⟩ => ⟨hpowers.2 hlines, hc, hn⟩⟩
  rw [if_neg fun he => by rw [hloaded.isSameDatabase_iff.2 he] at hsame; nomatch hsame]
  constructor
  · intro hf
    obtain ⟨hinv, hopp⟩ := hf.netChecks.unique hnets
    refine ⟨hlines, ?_, ?_⟩
    · simpa [hloaded.inverters] using append_right_eq_self.1 hinv
    · simpa [hloaded.opposites] using append_right_eq_self.1 hopp
  · rintro ⟨-, hinv, hopp⟩
    refine ⟨hpowers.2 hlines, hmodels, ?_⟩
    rw [hloaded.inverters, hloaded.opposites, hinv, hopp]
    simpa using hnets

/-! ## Two runs -/

/-- Constructors that accept everything. -/
def acceptAll : Readers where
  modelParameters _ := true
  powerError _ _ := false
  checkValue _ := true

/-- A mode with one instance line, one model with a check and one net check. -/
def sampleMode : Mode where
  cvcTopBlock := "top".toList
  cvcNetlistFilename := "cdl".toList
  cvcModelFilename := "models".toList
  cvcPowerFilename := "power".toList
  cvcNetCheckFile := "nets".toList
  cvcModelCheckFile := "checks".toList
  files file :=
    if file = "models".toList then some ["MN nch Vth=0.3".toList]
    else if file = "power".toList then some ["VDD power 1.2".toList, "#instance /a block".toList]
    else if file = "block".toList then some ["# comment".toList, "VDD power".toList]
    else if file = "nets".toList then some ["/a/out inverter_input=output".toList]
    else if file = "checks".toList then some ["nch Vb=0.0".toList]
    else none

/-- The state after a run of that mode. -/
def sampleState : ModeState where
  cvcInstancePowerPtrList := [⟨"/a".toList, "block".toList, ["VDD power".toList]⟩]
  cvcModelListMap := [("M nch".toList,
    [⟨['M'], "nch".toList, "MN nch Vth=0.3".toList, [.new "Vb=0.0".toList "Vb".toList "0.0".toList [] "0.0".toList []]⟩])]
  inverterInputOutputCheckList := ["/a/out".toList]
  cvcLastTopBlock := "top".toList
  cvcLastNetlistFilename := "cdl".toList

/-- The mode without its instance line. -/
def plainMode : Mode := { sampleMode with cvcPowerFilename := "block".toList }

/-- The mode without its model checks. -/
def uncheckedMode : Mode := { sampleMode with cvcModelCheckFile := [] }

/-- A run with the instance line and the net check of its files, after one with the same net check and no instance line. -/
theorem uncheckedMode_inForce : ∃ s s', verifyCircuitForAllModes acceptAll ⟨false, false⟩ {} [plainMode] = .ok s ∧
    s.inverterInputOutputCheckList = ["/a/out".toList] ∧ verifyCircuit acceptAll ⟨false, false⟩ s uncheckedMode = .ok (s', true) ∧
    InForce acceptAll ⟨false, false⟩ uncheckedMode s' := by
  let s : ModeState := { sampleState with cvcInstancePowerPtrList := [] }
  let s' : ModeState := { sampleState with
    cvcModelListMap := [("M nch".toList, [⟨['M'], "nch".toList, "MN nch Vth=0.3".toList, []⟩])] }
  have hs : verifyCircuitForAllModes acceptAll ⟨false, false⟩ {} [plainMode] = .ok s := by decide +kernel
  have hm : verifyCircuit acceptAll ⟨false, false⟩ s uncheckedMode = .ok (s', true) := by decide +kernel
  refine ⟨s, s', hs, rfl, hm, (inForce_iff acceptAll ⟨false, false⟩ false [plainMode] uncheckedMode s s' hs hm).2 ⟨?_, ?_⟩⟩
  · rw [forall_mem_singleton]
    exact fun _ => by decide +kernel
  · refine ⟨⟨[some (.inverterInputOutput "/a/out".toList)], by decide +kernel⟩, [], rfl, nofun⟩

/-- The state after the same mode has been run again: the instance is there twice, the first time with its definitions twice, and
the model has lost its check. -/
def reusedState : ModeState := { sampleState with
  cvcInstancePowerPtrList := [⟨"/a".toList, "block".toList, ["VDD power".toList, "VDD power".toList]⟩,
    ⟨"/a".toList, "block".toList, ["VDD power".toList]⟩]
  cvcModelListMap := [("M nch".toList, [⟨['M'], "nch".toList, "MN nch Vth=0.3".toList, []⟩])] }

/-- The same mode with another netlist. -/
def otherMode : Mode := { sampleMode with cvcNetlistFilename := "other".toList }

/-- The state after the other netlist has been run: the net check of the first run is there, too. -/
def otherState : ModeState := { sampleState with
  cvcInstancePowerPtrList := reusedState.cvcInstancePowerPtrList
  inverterInputOutputCheckList := ["/a/out".toList, "/a/out".toList]
  cvcLastNetlistFilename := "other".toList }

/-- After a first run, neither a run of the same mode nor one with another netlist has its own definitions in force. -/
theorem secondRun_not_inForce :
    verifyCircuitForAllModes acceptAll ⟨false, false⟩ {} [sampleMode] = .ok sampleState ∧
    (verifyCircuit acceptAll ⟨false, false⟩ sampleState sampleMode = .ok (reusedState, true) ∧
      ¬ InstancePowersOf sampleMode reusedState.cvcInstancePowerPtrList ∧
      ¬ ModelChecksOf acceptAll sampleMode (loadModels acceptAll false sampleMode).1 reusedState.cvcModelListMap ∧
      ¬ InForce acceptAll ⟨false, false⟩ sampleMode reusedState) ∧
    verifyCircuit acceptAll ⟨false, false⟩ sampleState otherMode = .ok (otherState, true) ∧
      ¬ NetChecksOf otherMode otherState.inverterInputOutputCheckList otherState.oppositeLogicList ∧
      ¬ InForce acceptAll ⟨false, false⟩ otherMode otherState := by
  have hinstances : ¬ InstancePowersOf sampleMode reusedState.cvcInstancePowerPtrList := by
    intro hof
    have hlen : sampleMode.instanceLines.length = 2 := hof.length_eq
    revert hlen
    decide +kernel
  have hmodels : ¬ ModelChecksOf acceptAll sampleMode (loadModels acceptAll false sampleMode).1 reusedState.cvcModelListMap := by
    have hfresh : reusedState.cvcModelListMap = (loadModels acceptAll false sampleMode).1 := by decide +kernel
    rw [hfresh, modelChecksOf_self_iff (unchecked_loadModels false)]
    rintro ⟨lines, hlines, hall⟩
    obtain rfl : ["nch Vb=0.0".toList] = lines := Option.some.inj (Eq.trans (by decide +kernel) hlines)
    have hnone := hall _ mem_cons_self
    revert hnone
    decide +kernel
  have hnets : ¬ NetChecksOf otherMode otherState.inverterInputOutputCheckList otherState.oppositeLogicList := by
    rintro ⟨lines, checks, hlines, hchecks, hinverters, -⟩
    obtain rfl : ["/a/out inverter_input=output".toList] = lines := Option.some.inj (Eq.trans (by decide +kernel) hlines)
    have hone : 1 = checks.length := (forall₂_of_mapM hchecks).length_eq
    have htwo : 2 = (inverterNets checks).reverse.length := congrArg List.length hinverters
    rw [length_reverse] at htwo
    have hle : (inverterNets checks).length ≤ checks.length := length_filterMap_le _ _
    omega
  refine ⟨by decide +kernel, ⟨by decide +kernel, hinstances, hmodels, fun hf => hinstances hf.1⟩, by decide +kernel, hnets,
    fun hf => hnets hf.3⟩

end Cvc
