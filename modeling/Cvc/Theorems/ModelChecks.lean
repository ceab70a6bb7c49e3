import Cvc.Lemmas.InstancePath
import Cvc.ModelChecks
import Cvc.Theorems.ErrorTotals

/-!
# Completeness of the model checks

The checks of a model are made on its devices in the instances that are not parallel, if the model has a limit for the overvoltage
checks; a violated check is counted by the multiplication factor of the instance, if there is an error limit.
-/

namespace Cvc

open List

variable {env : OverVoltageEnv} {parameter : String} {e : OverVoltageError}

/-- The error of an overvoltage check has the kind of the check. -/
theorem OverVoltageEnv.theErrorIndex_overVoltageError {index : CvcError} {heading : String}
    {plain leaks : Bool} (he : env.overVoltageError index heading parameter plain leaks = some e) : e.theErrorIndex = index := by
  unfold overVoltageError at he
  split at he
  · rw [← Option.some.inj he]
  split at he
  · cases he
  · split at he
    · rw [← Option.some.inj he]
    · cases he

theorem OverVoltageEnv.theErrorIndex_findVdsError {par : Int} {c : CFullConnection}
    (he : env.findVdsError par c parameter = some e) : e.theErrorIndex = .overvoltageVds := by
  simp only [findVdsError] at he
  split at he
  · cases he
  · exact theErrorIndex_overVoltageError he

/-- The errors of a cell are not counted: its limit is zero. -/
def ErrorEnv.isIgnored (env : ErrorEnv) (theParentId : Nat) : Bool :=
  match env.cellLimit theParentId with
  | .ok (some (_, 0)) => true
  | _ => false

namespace ModelCheckEnv

variable (env : ModelCheckEnv) {e : Evaluation}

/-- A device in an instance, if the instance is not parallel. -/
def useIn (deviceIt id : Nat) : List DeviceUse :=
  match env.errors.db.instancePtrV id with
  | some myInstance => if myInstance.isParallelInstance then [] else [⟨id, deviceIt, myInstance.firstDeviceId + deviceIt⟩]
  | none => []

/-- A device of a circuit in the instances that are not parallel. -/
def usesOf (device : Nat × Nat) : List DeviceUse := (env.errors.db.instanceIdV device.1).flatMap (env.useIn device.2)

/-- The devices of a model in the instances that are not parallel. -/
def uses (model : CheckedModel) : List DeviceUse := model.devices.flatMap env.usesOf

/-- The checks of a model on a device. -/
def evaluationsOf (model : CheckedModel) (use : DeviceUse) : List Evaluation := model.checkList.map (⟨model, use, ·⟩)

/-- Every check of a model on every device of the model in every instance that is not parallel. -/
def evaluations (model : CheckedModel) : List Evaluation := (env.uses model).flatMap (evaluationsOf model)

/-- How often a device is there. -/
def mFactor (use : DeviceUse) : Nat := (env.errors.db.calculateMFactor use.instanceId).toOption.getD 0

/-- How often a check on a device is violated. -/
def violations (e : Evaluation) : Nat := if env.isViolated e.use e.check then env.mFactor e.use else 0

/-- A violated check on a device is counted: there is an error limit, and the cell is not ignored. -/
def isCounted (use : DeviceUse) : Bool := env.cvcCircuitErrorLimit != 0 && !env.errors.isIgnored use.instanceId

/-- How often a check on a device is counted. -/
def counted (e : Evaluation) : Nat := if env.isCounted e.use then env.violations e else 0

/-- A device of an instance of the database: the instance is there, it is the parent of the device, and the limit of its cell is
found. -/
structure InDatabase (deviceIt id : Nat) (myInstance : CInstance) : Prop where
  found : env.errors.db.instancePtrV id = some myInstance
  parent : myInstance.isParallelInstance = false → env.errors.deviceParent (myInstance.firstDeviceId + deviceIt) = .ok id
  limit : ∃ cell, env.errors.cellLimit id = .ok cell

/-- The instances of the circuits of the devices are those of the database. -/
def Consistent (models : List CheckedModel) : Prop :=
  ∀ model ∈ models, ∀ device ∈ model.devices, ∀ id ∈ env.errors.db.instanceIdV device.1,
    ∃ myInstance, env.InDatabase device.2 id myInstance

variable {env} {model : CheckedModel} {models : List CheckedModel} {use : DeviceUse} {check : VoltageCheck} {s t u : CheckState}
  {es fs : List Evaluation} {d id : Nat} {inst : CInstance}

/-! ## The database of a netlist -/

section
variable {h : Hierarchy} {id : List Nat → Nat} {p : List Nat}

/-- The loop over the ancestors ends: the id of a parent is smaller. -/
theorem exists_limitedAncestor {errors : ErrorEnv} (hf : h.FlatForm errors.db id) (hp : h.IsNode p)
    {depth : Nat} (hdepth : id p < depth) :
    ∃ q, h.IsNode q ∧ errors.limitedAncestor depth (id p) = .ok (id q) := by
  induction p generalizing depth with
  | nil =>
    obtain ⟨depth, rfl⟩ := Nat.exists_eq_add_of_le' (Nat.one_le_of_lt hdepth)
    refine ⟨[], hp, ?_⟩
    rw [hf.id_root]
    rfl
  | cons i p ih =>
    obtain ⟨depth, rfl⟩ := Nat.exists_eq_add_of_le' (Nat.one_le_of_lt hdepth)
    obtain ⟨I, hI, -, hparent, -⟩ := hf.instance_eq (i :: p) hp
    have hlt := hf.parent_lt i p hp
    simp only [ErrorEnv.limitedAncestor, if_pos (Nat.zero_lt_of_lt hlt), CCvcDb.instancePtr, hI, bind, Except.bind, hparent]
    split
    · exact ih hp.1 (by omega)
    · exact ⟨i :: p, hp, rfl⟩

theorem exists_cellLimit {errors : ErrorEnv} (hf : h.FlatForm errors.db id) (hp : h.IsNode p) :
    ∃ cell, errors.cellLimit (id p) = .ok cell := by
  unfold ErrorEnv.cellLimit
  split
  · exact ⟨none, rfl⟩
  obtain ⟨q, hq, hlimit⟩ := exists_limitedAncestor hf hp (Nat.lt_succ_self _)
  obtain ⟨I, hI, -⟩ := hf.instance_eq q hq
  simp only [hlimit, CCvcDb.instancePtr, hI, bind, Except.bind]
  split <;> exact ⟨_, rfl⟩

/-- The database that flattening makes is consistent with models whose devices are devices of its circuits. -/
theorem consistent_of_assignTopGlobalIDs {lim : Nat} {counts : Nat → CircuitCounts} (hlink : h.linkTop = .ok counts)
    (hok : h.assignTopGlobalIDs lim counts = .ok env.errors.db)
    (hdevices : ∀ model ∈ models, ∀ device ∈ model.devices, device.2 < (h.circuit device.1).devicePtrV.length) :
      env.Consistent models := by
  obtain ⟨id, hf⟩ := h.exists_listedForm hlink hok
  intro model hmodel device hdevice x hx
  obtain ⟨p, hp, hname, rfl⟩ := (hf.lists _ _).1 hx
  obtain ⟨I, hI, -⟩ := hf.instance_eq p hp
  refine ⟨I, hI, fun hone => ?_, exists_cellLimit hf.toFlatForm hp⟩
  have hlt : device.2 < h.ownDevices p := by
    unfold Hierarchy.ownDevices Hierarchy.circuitAt
    rw [hname]
    exact hdevices model hmodel device hdevice
  have hparent := hf.devices.parent p I _ ⟨hp, hI, hone⟩ (Nat.le_add_right ..) (Nat.add_lt_add_left hlt _)
  unfold ErrorEnv.deviceParent
  rw [hparent]

end

/-! ## What a part of the run adds -/

/-- From one state to another the evaluations are made, and counted. -/
structure Adds (env : ModelCheckEnv) (es : List Evaluation) (s t : CheckState) : Prop where
  evaluated : t.evaluated = s.evaluated ++ es
  count : t.errors.errorCount .modelCheck = s.errors.errorCount .modelCheck + (es.map env.counted).sum

theorem Adds.refl : Adds env [] s s := ⟨(append_nil _).symm, rfl⟩

theorem Adds.trans (hst : Adds env es s t) (htu : Adds env fs t u) : Adds env (es ++ fs) s u where
  evaluated := by rw [htu.evaluated, hst.evaluated, append_assoc]
  count := by rw [htu.count, hst.count, map_append, sum_append, Nat.add_assoc]

/-- A loop makes the evaluations of its rounds. -/
theorem Adds.foldlM {α : Type} {f : CheckState → α → Except Failure CheckState} {g : α → List Evaluation} {l : List α}
    (hf : ∀ x ∈ l, ∀ s, ∃ t, f s x = .ok t ∧ Adds env (g x) s t) : ∃ t, l.foldlM f s = .ok t ∧ Adds env (l.flatMap g) s t := by
  induction l generalizing s with
  | nil => exact ⟨s, rfl, .refl⟩
  | cons x l ih =>
    obtain ⟨t, ht, hadds⟩ := hf x mem_cons_self s
    obtain ⟨u, hu, hrest⟩ := @ih t fun y hy => hf y (mem_cons_of_mem _ hy)
    refine ⟨u, ?_, ?_⟩
    · exact bind_eq_ok.2 ⟨t, ht, hu⟩
    · exact hadds.trans hrest

theorem Adds.bind {x : Except Failure CheckState} {f : CheckState → Except Failure CheckState}
    (hx : ∃ t, x = .ok t ∧ Adds env [] s t) (hf : ∀ t, ∃ u, f t = .ok u ∧ Adds env es t u) :
    ∃ u, (x >>= f) = .ok u ∧ Adds env es s u := by
  obtain ⟨t, ht, hst⟩ := hx
  obtain ⟨u, hu, htu⟩ := hf t
  exact ⟨u, bind_eq_ok.2 ⟨t, ht, hu⟩, hst.trans htu⟩

/-! ## A device in an instance -/

namespace InDatabase

theorem instancePtr_eq (h : env.InDatabase d id inst) : env.errors.db.instancePtr id = .ok inst := by
  unfold CCvcDb.instancePtr
  rw [h.found]

theorem useIn_eq (h : env.InDatabase d id inst) : env.useIn d id =
      if inst.isParallelInstance then [] else [⟨id, d, inst.firstDeviceId + d⟩] := by
  unfold useIn
  rw [h.found]

section
variable (h : env.InDatabase d id inst) (hone : inst.isParallelInstance = false)
include h hone

theorem calculateMFactor_eq :
    env.errors.db.calculateMFactor id = .ok (if inst.parallelInstance > 1 then inst.parallelInstance else 1) := by
  refine bind_eq_ok.2 ⟨inst, h.instancePtr_eq, ?_⟩
  rw [hone, if_neg Bool.false_ne_true]
  split <;> rfl

/-- An error of the device has its multiplication factor as its weight, unless its cell is ignored. -/
theorem weight_eq : env.errors.weight (inst.firstDeviceId + d) =
      .ok (if env.errors.isIgnored id then 0 else env.mFactor ⟨id, d, inst.firstDeviceId + d⟩) := by
  obtain ⟨cell, hcell⟩ := h.limit
  unfold ErrorEnv.weight ErrorEnv.isIgnored mFactor
  simp only [h.parent hone, h.calculateMFactor_eq hone, hcell, bind, Except.bind, pure]
  match cell with
  | none => rfl
  | some (_, 0) => rfl
  | some (_, limit + 1) => rfl

theorem adds_findModelError : ∃ t, env.findModelError model ⟨id, d, inst.firstDeviceId + d⟩ s check = .ok t ∧
      Adds env [⟨model, ⟨id, d, inst.firstDeviceId + d⟩, check⟩] s t := by
  obtain ⟨b, errors, hreport, hcount⟩ := @ErrorEnv.errorCount_reportError _ env.cvcCircuitErrorLimit s.errors .printModelError _
    .modelCheck _ (h.weight_eq hone)
  unfold findModelError
  by_cases hviolated : env.isViolated ⟨id, d, inst.firstDeviceId + d⟩ check = true
  · rw [if_pos hviolated]
    refine ⟨_, bind_eq_ok.2 ⟨_, hreport, rfl⟩, rfl, ?_⟩
    rw [hcount]
    simp only [counted, isCounted, violations, hviolated, ErrorSite.limitFirst, map_cons, map_nil]
    by_cases hlimit : env.cvcCircuitErrorLimit = 0
    · simp [hlimit]
    · cases hignored : env.errors.isIgnored id <;> simp [hlimit]
  · rw [if_neg hviolated]
    refine ⟨_, rfl, rfl, ?_⟩
    simp [counted, violations, hviolated]

theorem adds_overVoltageCheck {limit : Int} {error : Option OverVoltageError}
    (hindex : ∀ e, error = some e → e.theErrorIndex ≠ .modelCheck) :
    ∃ t, env.overVoltageCheck limit ⟨id, d, inst.firstDeviceId + d⟩ error s = .ok t ∧ Adds env [] s t := by
  unfold overVoltageCheck
  split
  · cases error with
    | none => exact ⟨s, rfl, .refl⟩
    | some e =>
      obtain ⟨b, errors, hreport, hcount⟩ := @ErrorEnv.errorCount_reportError _ env.cvcCircuitErrorLimit s.errors
        .printOverVoltageError _ e.theErrorIndex _ (h.weight_eq hone)
      refine ⟨_, bind_eq_ok.2 ⟨_, hreport, rfl⟩, (append_nil _).symm, ?_⟩
      rw [hcount]
      split
      · rfl
      · exact Function.update_of_ne (hindex e rfl).symm _ _
  · exact ⟨s, rfl, .refl⟩

/-- The overvoltage checks add nothing, and every check of the model is made. -/
theorem adds_checkUse : ∃ t, env.checkUse model ⟨id, d, inst.firstDeviceId + d⟩ s = .ok t ∧
      Adds env (evaluationsOf model ⟨id, d, inst.firstDeviceId + d⟩) s t := by
  have hother : ∀ {index heading parameter plain leaks}, index ≠ .modelCheck → ∀ e,
      env.overVoltage.overVoltageError index heading parameter plain leaks = some e → e.theErrorIndex ≠ .modelCheck :=
    fun hne _ he => OverVoltageEnv.theErrorIndex_overVoltageError he ▸ hne
  refine Adds.bind (h.adds_overVoltageCheck hone (hother nofun)) fun s => ?_
  refine Adds.bind (h.adds_overVoltageCheck hone (hother nofun)) fun s => ?_
  refine Adds.bind (h.adds_overVoltageCheck hone fun e he => ?_) fun s => ?_
  · rw [OverVoltageEnv.theErrorIndex_findVdsError he]
    nofun
  refine Adds.bind (h.adds_overVoltageCheck hone (hother nofun)) fun s => ?_
  rw [evaluationsOf, map_eq_flatMap]
  exact Adds.foldlM fun check _ s => h.adds_findModelError hone

end

theorem adds_checkInstance (h : env.InDatabase d id inst) :
    ∃ t, env.checkInstance model d s id = .ok t ∧ Adds env ((env.useIn d id).flatMap (evaluationsOf model)) s t := by
  rw [h.useIn_eq]
  simp only [checkInstance, h.instancePtr_eq, bind, Except.bind]
  cases hone : inst.isParallelInstance with
  | true => exact ⟨s, rfl, .refl⟩
  | false =>
    rw [if_neg Bool.false_ne_true, if_neg Bool.false_ne_true, flatMap_singleton]
    exact h.adds_checkUse hone

end InDatabase

/-! ## The whole run -/

/-- The evaluations of a model that are made: all, if the model has a limit, and none otherwise. -/
def made (env : ModelCheckEnv) (model : CheckedModel) : List Evaluation := if model.hasLimit then env.evaluations model else []

theorem adds_checkModel (hdb : env.Consistent models) (hmodel : model ∈ models) :
    ∃ t, env.checkModel s model = .ok t ∧ Adds env (env.made model) s t := by
  unfold checkModel made
  cases hlimit : model.hasLimit with
  | false => exact ⟨s, rfl, Adds.refl⟩
  | true =>
    have hdevice : ∀ device ∈ model.devices, ∀ s, ∃ t, env.checkDevice model s device = .ok t ∧
        Adds env ((env.usesOf device).flatMap (evaluationsOf model)) s t := by
      intro device hdevice s
      rw [usesOf, flatMap_assoc]
      refine Adds.foldlM fun id hid s => ?_
      obtain ⟨inst, h⟩ := hdb model hmodel device hdevice id hid
      exact h.adds_checkInstance
    rw [if_pos rfl, evaluations, uses, flatMap_assoc]
    exact Adds.foldlM hdevice

theorem errorCount_appendErrorFiles : (env.appendErrorFiles s).errors.errorCount = s.errors.errorCount := by
  unfold appendErrorFiles
  generalize range 5 = l
  induction l generalizing s with
  | nil => rfl
  | cons i l ih =>
    exact (@ih { s with errors := _ }).trans ErrorEnv.errorCount_sumUpErrors

/-- The run returns, and it makes and counts the evaluations of the models that have a limit. -/
theorem adds_findAllOverVoltageErrors (hdb : env.Consistent models) (errors : ErrorState) :
    ∃ t, env.findAllOverVoltageErrors models errors = .ok t ∧ t.evaluated = models.flatMap env.made ∧
      t.errors.errorCount .modelCheck = errors.errorCount .modelCheck + ((models.flatMap env.made).map env.counted).sum := by
  obtain ⟨t, ht, hadds⟩ := @Adds.foldlM env { errors } _ env.checkModel env.made models fun model hmodel s =>
    adds_checkModel hdb hmodel
  refine ⟨_, bind_eq_ok.2 ⟨t, ht, rfl⟩, hadds.evaluated, ?_⟩
  rw [errorCount_appendErrorFiles]
  exact hadds.count

theorem evaluations_ne_nil_iff : env.evaluations model ≠ [] ↔ model.checkList ≠ [] ∧ env.uses model ≠ [] := by
  unfold evaluations evaluationsOf
  rw [ne_eq, flatMap_eq_nil_iff, ← isEmpty_eq_false_iff (l := env.uses model), isEmpty_eq_false_iff_exists_mem]
  simp [and_comm]

theorem model_of_mem_evaluations (he : e ∈ env.evaluations model) : e.model = model := by
  obtain ⟨use, -, hcheck⟩ := mem_flatMap.1 he
  obtain ⟨check, -, rfl⟩ := mem_map.1 hcheck
  rfl

/-- All evaluations are made exactly when every model with one has a limit. -/
theorem forall_mem_made_iff : (∀ e ∈ models.flatMap env.evaluations, e ∈ models.flatMap env.made) ↔
      ∀ model ∈ models, env.evaluations model ≠ [] → model.hasLimit = true := by
  constructor
  · intro hall model hmodel hne
    obtain ⟨e, he⟩ := exists_mem_of_ne_nil _ hne
    obtain ⟨other, -, hmade⟩ := mem_flatMap.1 (hall e (mem_flatMap.2 ⟨model, hmodel, he⟩))
    unfold made at hmade
    split at hmade
    · have heq : model = other := (model_of_mem_evaluations he).symm.trans (model_of_mem_evaluations hmade)
      rwa [heq]
    · cases hmade
  · intro hall e he
    obtain ⟨model, hmodel, he⟩ := mem_flatMap.1 he
    refine mem_flatMap.2 ⟨model, hmodel, ?_⟩
    unfold made
    rwa [if_pos (hall model hmodel (ne_nil_of_mem he))]

theorem flatMap_made_eq (hall : ∀ model ∈ models, env.evaluations model ≠ [] → model.hasLimit = true) :
    models.flatMap env.made = models.flatMap env.evaluations := by
  refine flatMap_congr fun model hmodel => ?_
  unfold made
  split
  · rfl
  · rename_i hlimit
    by_contra hne
    exact hlimit (hall model hmodel (.symm hne))

theorem mFactor_pos_of_mem (hdb : env.Consistent models) (he : e ∈ models.flatMap env.evaluations) : 0 < env.mFactor e.use := by
  obtain ⟨model, hmodel, he⟩ := mem_flatMap.1 he
  obtain ⟨use, huse, hcheck⟩ := mem_flatMap.1 he
  obtain ⟨check, -, rfl⟩ := mem_map.1 hcheck
  obtain ⟨device, hdevice, huse⟩ := mem_flatMap.1 huse
  obtain ⟨id, hid, huse⟩ := mem_flatMap.1 huse
  obtain ⟨inst, h⟩ := hdb model hmodel device hdevice id hid
  rw [h.useIn_eq] at huse
  split at huse
  · cases huse
  · rename_i hone
    rw [mem_singleton.1 huse]
    unfold mFactor
    rw [h.calculateMFactor_eq (Bool.eq_false_iff.2 hone)]
    show 0 < if _ then _ else _
    split <;> omega

/-- Every check is counted as often as it is violated exactly when errors of the devices of violated checks are counted. -/
theorem sum_counted_eq_iff (hdb : env.Consistent models) :
    ((models.flatMap env.evaluations).map env.counted).sum = ((models.flatMap env.evaluations).map env.violations).sum ↔
      ∀ e ∈ models.flatMap env.evaluations, env.isViolated e.use e.check = true → env.isCounted e.use = true := by
  have hle : ∀ e ∈ models.flatMap env.evaluations, env.counted e ≤ env.violations e := by
    intro e _
    unfold counted
    split
    · exact le_rfl
    · exact Nat.zero_le _
  rw [sum_map_eq_iff hle]
  refine forall₂_congr fun e he => ?_
  have hpos := mFactor_pos_of_mem hdb he
  unfold counted violations
  cases env.isViolated e.use e.check with
  | false => simp
  | true =>
    cases env.isCounted e.use with
    | false => simpa using hpos.ne
    | true => simp

/-- The run returns, and it makes every check of every model on every device of the model in every instance that is not parallel
and counts the violated ones, by the multiplication factors, exactly when every model with a check and a device in such an
instance has a limit for the overvoltage checks, and for the devices that violate a check there is an error limit that is not zero
and a cell whose limit is not zero. -/
theorem findAllOverVoltageErrors_complete_iff (env : ModelCheckEnv) (models : List CheckedModel) (hdb : env.Consistent models)
    (errors : ErrorState) :
    ∃ t, env.findAllOverVoltageErrors models errors = .ok t ∧
      ((∀ e ∈ models.flatMap env.evaluations, e ∈ t.evaluated) ∧
          t.errors.errorCount .modelCheck =
            errors.errorCount .modelCheck + ((models.flatMap env.evaluations).map env.violations).sum ↔
        (∀ model ∈ models, model.checkList ≠ [] → env.uses model ≠ [] → model.hasLimit = true) ∧
          ∀ e ∈ models.flatMap env.evaluations, env.isViolated e.use e.check = true → env.isCounted e.use = true) := by
  obtain ⟨t, ht, hevaluated, hcount⟩ := adds_findAllOverVoltageErrors hdb errors
  refine ⟨t, ht, ?_⟩
  have hlimits : (∀ model ∈ models, model.checkList ≠ [] → env.uses model ≠ [] → model.hasLimit = true) ↔
      ∀ model ∈ models, env.evaluations model ≠ [] → model.hasLimit = true := by
    simp [evaluations_ne_nil_iff]
  rw [hevaluated, hcount, forall_mem_made_iff, hlimits, Nat.add_left_cancel_iff]
  refine and_congr_right fun hall => ?_
  rw [flatMap_made_eq hall]
  exact sum_counted_eq_iff hdb

/-- The check `Vb=0` of a model check file. -/
def groundedBulk : VoltageCheck where
  check := "Vb=0".toList
  parameter := "Vb".toList
  isVoltage := true
  minInclusiveText := "0".toList
  minExclusiveText := []
  maxInclusiveText := "0".toList
  maxExclusiveText := []

example : (VoltageCheck.new "Vb=0".toList "Vb".toList "0".toList [] "0".toList []).toOption = some groundedBulk := by
  decide +kernel

/-- A top circuit with one transistor whose bulk is at 1.2 V. -/
def oneTransistor : ModelCheckEnv where
  overVoltage := { nets := { power := fun _ => {}, netVoltagePtr := fun _ => none, next := fun _ net => net } }
  errors := {
    db := {
      deviceCount := 1
      instanceIdV := fun name => if name = 0 then [0] else []
      instancePtrV := fun id => if id = 0 then some { localToGlobalNetIdV := [0, 1, 2, 3], masterName := 0 } else none
      deviceParentV := [0] } }
  cvcCircuitErrorLimit := 100
  mapDeviceNets := fun _ _ => { bulk := { minVoltage := 1200, simVoltage := 1200, maxVoltage := 1200 }, type := .nmos }
  devices := [(0, 0)]

/-- The model of the transistor, with the check of its bulk and perhaps a limit between the gate and the source. -/
def checkedModel (maxVgs : Int) : CheckedModel := { maxVgs, checkList := [groundedBulk], devices := [(0, 0)] }

theorem oneTransistor_consistent (maxVgs : Int) : oneTransistor.Consistent [checkedModel maxVgs] := by
  intro model hmodel device hdevice id hid
  obtain rfl := mem_singleton.1 hmodel
  obtain rfl := mem_singleton.1 hdevice
  obtain rfl : id = 0 := mem_singleton.1 hid
  exact ⟨_, rfl, fun _ => rfl, ⟨none, rfl⟩⟩

theorem oneTransistor_complete :
    ∃ t, oneTransistor.findAllOverVoltageErrors [checkedModel 1300] {} = .ok t ∧
      (∀ e ∈ [checkedModel 1300].flatMap oneTransistor.evaluations, e ∈ t.evaluated) ∧ t.errors.errorCount .modelCheck = 1 := by
  obtain ⟨t, ht, hiff⟩ := findAllOverVoltageErrors_complete_iff oneTransistor _ (oneTransistor_consistent 1300) {}
  obtain ⟨hall, hcount⟩ := hiff.2 ⟨by decide +kernel, by decide +kernel⟩
  refine ⟨t, ht, hall, hcount.trans ?_⟩
  decide +kernel

/-- The same transistor when its model has no limit: the check is not made, and its error is not counted. -/
theorem oneTransistor_not_complete :
    oneTransistor.Consistent [checkedModel unknownVoltage] ∧
      oneTransistor.evaluations (checkedModel unknownVoltage) = [⟨checkedModel unknownVoltage, ⟨0, 0, 0⟩, groundedBulk⟩] ∧
      oneTransistor.isViolated ⟨0, 0, 0⟩ groundedBulk = true ∧
      ∃ t, oneTransistor.findAllOverVoltageErrors [checkedModel unknownVoltage] {} = .ok t ∧ t.evaluated = [] ∧
        t.errors.errorCount .modelCheck = 0 := by
  refine ⟨oneTransistor_consistent _, by decide +kernel, by decide +kernel, ?_⟩
  obtain ⟨t, ht, hevaluated, hcount⟩ := adds_findAllOverVoltageErrors (oneTransistor_consistent unknownVoltage) {}
  exact ⟨t, ht, hevaluated, hcount⟩

end ModelCheckEnv
end Cvc
