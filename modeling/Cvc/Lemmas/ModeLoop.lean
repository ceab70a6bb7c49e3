import Mathlib.Data.List.Forall2
import Cvc.ModeLoop

/-!
# The loaders of a run

What each loader of a run leaves in the lists of the process, in terms of the lines of its file and of what was there before.
-/

namespace Cvc

open List Except

variable {readers : Readers} {options : Options} {m : Mode} {s s' : ModeState} {models : CModelListMap} {α β : Type}
  {l l' : List CInstancePower} {gSetup inOrder : Bool} {line : Text}

/-- A loop that reads its lines one after the other and pushes what it reads, where pushing does not change the reading. -/
theorem foldlM_push {σ : Type} {f : σ → α → Except Failure β} {push : σ → β → σ} (hf : ∀ s b, f (push s b) = f s)
    (lines : List α) (s : σ) :
    lines.foldlM (fun s line => do pure (push s (← f s line))) s = (do pure ((← lines.mapM (f s)).foldl push s)) := by
  induction lines generalizing s with
  | nil => rfl
  | cons line lines ih =>
    rw [foldlM_cons, mapM_cons]
    cases hb : f s line with
    | error e => rfl
    | ok b =>
      refine (ih (push s b)).trans ?_
      rw [hf]
      cases lines.mapM (f s) <;> rfl

/-! ## Powers -/

/-- The power definitions of a file. -/
def powersOf (files : Text → Option (List Text)) (file : Text) : List Text :=
  (((files file).getD []).filter (!isSkipped ·)).map trim

theorem length_readInstancePowers (files : Text → Option (List Text)) (l : List CInstancePower) :
    (readInstancePowers files l).1.length = l.length := by
  induction l with
  | nil => rfl
  | cons i l ih =>
    unfold readInstancePowers
    cases files i.powerFile with
    | none => rfl
    | some lines =>
      simp only [length_cons]
      rw [ih]

/-- When all files are there, every instance gets the definitions of its file. -/
theorem readInstancePowers_ok {files : Text → Option (List Text)} (hok : (readInstancePowers files l).2 ≠ .fail) :
    (∀ i ∈ l, (files i.powerFile).isSome) ∧
      (readInstancePowers files l).1 = l.map fun i => { i with powerList := i.powerList ++ powersOf files i.powerFile } := by
  induction l with
  | nil => exact ⟨by simp, rfl⟩
  | cons i l ih =>
    unfold readInstancePowers at hok ⊢
    cases hi : files i.powerFile with
    | none =>
      simp only [hi] at hok
      exact absurd rfl hok
    | some lines =>
      simp only [hi] at hok
      obtain ⟨hall, heq⟩ := ih hok
      refine ⟨?_, ?_⟩
      · intro j hj
        rcases mem_cons.1 hj with rfl | hj
        · rw [hi]
          rfl
        · exact hall j hj
      · simp [heq, powersOf, hi]

/-- The lines of the power file of a run that give instances their own power files. -/
def Mode.instanceLines (m : Mode) : List Text := ((m.files m.cvcPowerFilename).getD []).filter isInstance

section
variable {f : α → Except Failure β} {l : List α} {r : List β} (hok : l.mapM f = .ok r)
include hok

theorem forall₂_of_mapM :
    Forall₂ (fun x y => f x = .ok y) l r := by
  induction l generalizing r with
  | nil =>
    obtain rfl := ok.inj hok
    exact .nil
  | cons x l ih =>
    rw [mapM_cons] at hok
    obtain ⟨b, hb, hok⟩ := bind_eq_ok.1 hok
    obtain ⟨bs, hbs, hok⟩ := bind_eq_ok.1 hok
    obtain rfl := ok.inj hok
    exact .cons hb (ih hbs)

theorem exists_of_mapM {x : α}
    (hx : x ∈ l) : ∃ y ∈ r, f x = .ok y := by
  have hall := forall₂_of_mapM hok
  clear hok
  induction hall with
  | nil => nomatch hx
  | cons hb _ ih =>
    rcases mem_cons.1 hx with rfl | hx
    · exact ⟨_, mem_cons_self, hb⟩
    · obtain ⟨y, hy, hf⟩ := ih hx
      exact ⟨y, mem_cons_of_mem _ hy, hf⟩

end

/-- Loading the powers adds one entry for every instance line. -/
theorem length_loadPower {status : ReturnCode}
    (hok : loadPower readers gSetup m models l = .ok (l', status)) : l'.length = l.length + m.instanceLines.length := by
  unfold loadPower at hok
  unfold Mode.instanceLines
  cases hfile : m.files m.cvcPowerFilename with
  | none =>
    simp only [hfile] at hok
    obtain ⟨rfl, -⟩ := Prod.mk.inj (ok.inj hok)
    rfl
  | some lines =>
    simp only [hfile] at hok
    obtain ⟨new, hnew, hok⟩ := bind_eq_ok.1 hok
    obtain ⟨rfl, -⟩ := Prod.mk.inj (ok.inj hok)
    rw [length_readInstancePowers, length_append, ← (forall₂_of_mapM hnew).length_eq]
    rfl

/-- The instance powers of a run: one for each instance line of its power file, with the definitions of its file once. -/
def InstancePowersOf (m : Mode) (l : List CInstancePower) : Prop :=
  List.Forall₂ (fun line i => CInstancePower.new line = .ok { i with powerList := [] } ∧ (m.files i.powerFile).isSome ∧
    i.powerList = powersOf m.files i.powerFile) m.instanceLines l

theorem CInstancePower.powerList_new {i : CInstancePower} (hok : CInstancePower.new line = .ok i) : i.powerList = [] := by
  obtain ⟨⟨name, rest⟩, -, hok⟩ := bind_eq_ok.1 hok
  obtain ⟨⟨file, rest'⟩, -, hok⟩ := bind_eq_ok.1 hok
  rw [← ok.inj hok]

/-- The powers are in order with no instances loaded before: the instances are those of the run. -/
theorem instancePowersOf_loadPower (hok : loadPower readers gSetup m models [] = .ok (l', .ok)) : InstancePowersOf m l' := by
  unfold loadPower at hok
  unfold InstancePowersOf Mode.instanceLines
  cases hfile : m.files m.cvcPowerFilename with
  | none =>
    simp only [hfile] at hok
    obtain ⟨rfl, -⟩ := Prod.mk.inj (ok.inj hok)
    exact .nil
  | some lines =>
    simp only [hfile] at hok
    obtain ⟨new, hnew, hok⟩ := bind_eq_ok.1 hok
    obtain ⟨rfl, hstatus⟩ := Prod.mk.inj (ok.inj hok)
    have hread : (readInstancePowers m.files ([] ++ new)).2 ≠ .fail := by
      intro hf
      rw [if_pos hf] at hstatus
      nomatch hstatus
    obtain ⟨hall, heq⟩ := readInstancePowers_ok hread
    rw [heq, nil_append, forall₂_map_right_iff]
    have hpairs := forall₂_iff_zip.1 (forall₂_of_mapM hnew)
    refine forall₂_iff_zip.2 ⟨hpairs.1, fun {line i} hmem => ?_⟩
    have hnewLine := hpairs.2 hmem
    have hempty := CInstancePower.powerList_new hnewLine
    refine ⟨?_, hall i (of_mem_zip hmem).2, ?_⟩
    · rw [hnewLine, ← hempty]
    · rw [hempty, nil_append]

/-- Only an empty list before gives the instances of the run. -/
theorem instancePowersOf_iff (hok : loadPower readers gSetup m models l = .ok (l', .ok)) : InstancePowersOf m l' ↔ l = [] := by
  constructor
  · intro hof
    have hlen := hof.length_eq
    rw [length_loadPower hok] at hlen
    exact length_eq_zero_iff.1 (by omega)
  · rintro rfl
    exact instancePowersOf_loadPower hok

/-! ## Net checks -/

/-- The nets of the inverter checks. -/
def inverterNets (checks : List (Option NetCheck)) : List Text :=
  checks.filterMap fun
    | some (.inverterInputOutput netName) => some netName
    | _ => none

/-- The pairs of nets of the opposite logic checks. -/
def oppositeNets (checks : List (Option NetCheck)) : List (Text × Text) :=
  checks.filterMap fun
    | some (.oppositeLogic netName opposite) => some (netName, opposite)
    | _ => none

theorem foldl_pushNetCheck (checks : List (Option NetCheck)) (s : ModeState) :
    checks.foldl ModeState.pushNetCheck s = { s with
      inverterInputOutputCheckList := (inverterNets checks).reverse ++ s.inverterInputOutputCheckList
      oppositeLogicList := (oppositeNets checks).reverse ++ s.oppositeLogicList } := by
  induction checks generalizing s with
  | nil => rfl
  | cons check checks ih =>
    rw [foldl_cons, ih]
    match check with
    | none => rfl
    | some (.inverterInputOutput netName) => simp [ModeState.pushNetCheck, inverterNets, oppositeNets]
    | some (.oppositeLogic netName opposite) => simp [ModeState.pushNetCheck, inverterNets, oppositeNets]

/-- The lines of an optional file. -/
def Mode.optionalLines (m : Mode) (file : Text) : Option (List Text) := if file = [] then some [] else m.files file

/-- The net checks of a run, last line first. -/
def NetChecksOf (m : Mode) (inverters : List Text) (opposites : List (Text × Text)) : Prop :=
  ∃ lines checks, m.optionalLines m.cvcNetCheckFile = some lines ∧ lines.mapM netCheck = .ok checks ∧
    inverters = (inverterNets checks).reverse ∧ opposites = (oppositeNets checks).reverse

/-- A loader of an optional file that is OK has loaded the lines of the file, or none. -/
theorem exists_optionalLines {file : Text} {x y : α} {e : Failure} {load : List Text → Except Failure α}
    (hok : (if file = [] then pure x else match m.files file with | none => throw e | some lines => load lines) = .ok y)
    (hnil : load [] = .ok x) : ∃ lines, m.optionalLines file = some lines ∧ load lines = .ok y := by
  unfold Mode.optionalLines
  split at hok
  · exact ⟨[], if_pos ‹_›, hnil.trans hok⟩
  rw [if_neg ‹_›]
  cases hlines : m.files file with
  | none =>
    rw [hlines] at hok
    nomatch hok
  | some lines =>
    rw [hlines] at hok
    exact ⟨lines, rfl, hok⟩

/-- Loading the net checks puts those of the run in front. -/
theorem loadNetChecks_ok (hok : loadNetChecks m s = .ok s') :
    ∃ inverters opposites, NetChecksOf m inverters opposites ∧ s' = { s with
      inverterInputOutputCheckList := inverters ++ s.inverterInputOutputCheckList
      oppositeLogicList := opposites ++ s.oppositeLogicList } := by
  obtain ⟨lines, hlines, hok⟩ := exists_optionalLines hok rfl
  rw [foldlM_push (f := fun _ => netCheck) (fun _ _ => rfl)] at hok
  obtain ⟨checks, hchecks, hok⟩ := bind_eq_ok.1 hok
  obtain rfl := ok.inj hok
  exact ⟨_, _, ⟨lines, checks, hlines, hchecks, rfl, rfl⟩, foldl_pushNetCheck checks s⟩

theorem NetChecksOf.unique {i1 i2 : List Text} {o1 o2 : List (Text × Text)} (h1 : NetChecksOf m i1 o1)
    (h2 : NetChecksOf m i2 o2) : i1 = i2 ∧ o1 = o2 := by
  obtain ⟨lines, checks, hl, hc, rfl, rfl⟩ := h1
  obtain ⟨lines', checks', hl', hc', rfl, rfl⟩ := h2
  obtain rfl := Option.some.inj (hl.symm.trans hl')
  obtain rfl := ok.inj (hc.symm.trans hc')
  exact ⟨rfl, rfl⟩

/-! ## Model checks -/

variable (checks : List (Option (Text × CModelCheck)))

/-- The checks for the models of a key. -/
def checksFor (key : Text) : List CModelCheck :=
  checks.filterMap fun
    | some (k, check) => if k = key then some check else none
    | none => none

/-- The models with the given checks in front of their own. -/
def withChecks (models : CModelListMap) : CModelListMap :=
  models.map fun entry =>
    (entry.1, entry.2.map fun model => { model with checkList := (checksFor checks entry.1).reverse ++ model.checkList })

theorem findModelList_pushModelCheck (models : CModelListMap) (check : Option (Text × CModelCheck)) :
    findModelList (pushModelCheck models check) = findModelList models := by
  have hkeys : ∀ f : Text × List CModel → Text × List CModel, (∀ e, (f e).1 = e.1) →
      findModelList (models.map f) = findModelList models := by
    intro f hf
    funext name
    unfold findModelList
    rw [find?_map, Option.map_map]
    have hpred : ((fun entry : Text × List CModel => entry.1.drop 2 == name) ∘ f) = fun entry => entry.1.drop 2 == name := by
      funext entry
      simp [hf]
    rw [hpred]
    congr 1
    funext entry
    exact hf entry
  match check with
  | none => rfl
  | some (key, check) =>
    refine hkeys _ fun e => ?_
    split <;> rfl

theorem foldl_pushModelCheck (models : CModelListMap) : checks.foldl pushModelCheck models = withChecks checks models := by
  induction checks generalizing models with
  | nil => simp [withChecks, checksFor]
  | cons check checks ih =>
    rw [foldl_cons, ih]
    match check with
    | none => rfl
    | some (key, check) =>
      unfold withChecks pushModelCheck
      rw [map_map]
      refine map_congr_left fun entry _ => ?_
      simp only [checksFor]
      by_cases hk : entry.1 = key
      · simp [hk]
      · simp [hk, Ne.symm hk]

/-- The models as they are read: every key has one, and none has a check. -/
def Unchecked (models : CModelListMap) : Prop := ∀ entry ∈ models, entry.2 ≠ [] ∧ ∀ model ∈ entry.2, model.checkList = []

theorem Unchecked.addModel {acc : CModelListMap × Bool} (hu : Unchecked acc.1) (line : Text) :
    Unchecked (addModel readers acc line).1 := by
  unfold Cvc.addModel
  cases hnew : CModel.new readers line with
  | none => exact hu
  | some model =>
    intro entry hentry
    rcases SortedMap.mem_put hentry with rfl | hentry
    · refine ⟨append_ne_nil_of_right_ne_nil _ (cons_ne_nil _ _), fun x hx => ?_⟩
      rcases mem_append.1 hx with hx | hx
      · cases hf : SortedMap.find model.key acc.1 with
        | none =>
          rw [hf] at hx
          nomatch hx
        | some models =>
          rw [hf] at hx
          exact (hu _ (SortedMap.mem_of_find hf)).2 x hx
      · rw [mem_singleton.1 hx]
        unfold CModel.new at hnew
        simp only [Option.bind_eq_bind, Option.bind_eq_some_iff] at hnew
        obtain ⟨⟨typeName, rest⟩, -, type, -, ⟨name, rest'⟩, -, hnew⟩ := hnew
        split at hnew
        · rw [← Option.some.inj hnew]
        · nomatch hnew
    · exact hu entry hentry

/-- The models of a run have no checks until they are loaded. -/
theorem unchecked_loadModels (gSetup : Bool) : Unchecked (loadModels readers gSetup m).1 := by
  have hempty : Unchecked [] := nofun
  unfold loadModels
  cases m.files m.cvcModelFilename with
  | none => exact hempty
  | some lines =>
    have hall : ∀ (lines : List Text) (acc : CModelListMap × Bool), Unchecked acc.1 →
        Unchecked (lines.foldl (addModel readers) acc).1 := by
      intro lines
      induction lines with
      | nil => exact fun acc hu => hu
      | cons line lines ih => exact fun acc hu => ih _ (hu.addModel line)
    exact hall _ _ hempty

/-- The key of a check is the key of some models. -/
theorem modelCheck_key {key : Text} {check : CModelCheck}
    (hok : modelCheck readers models line = .ok (some (key, check))) : ∃ entry ∈ models, entry.1 = key := by
  unfold modelCheck at hok
  split at hok
  · nomatch hok
  obtain ⟨⟨name, rest⟩, -, hok⟩ := bind_eq_ok.1 hok
  cases hfind : findModelList models name with
  | none =>
    simp only [hfind] at hok
    nomatch hok
  | some k =>
    simp only [hfind] at hok
    obtain ⟨c, -, hok⟩ := bind_eq_ok.1 hok
    obtain ⟨_, -, hpair⟩ := Option.map_eq_some_iff.1 (ok.inj hok)
    obtain ⟨hk, -⟩ := Prod.mk.inj hpair
    obtain ⟨entry, he, rfl⟩ := Option.map_eq_some_iff.1 hfind
    exact ⟨entry, mem_of_find?_eq_some he, hk⟩

/-- The models of a run with the checks of its model check file, last line first. -/
def ModelChecksOf (readers : Readers) (m : Mode) (models models' : CModelListMap) : Prop :=
  ∃ lines checks, m.optionalLines m.cvcModelCheckFile = some lines ∧ lines.mapM (modelCheck readers models) = .ok checks ∧
    models' = withChecks checks models

theorem loadModelChecks_ok {models' : CModelListMap} (hok : loadModelChecks readers m models = .ok models') :
    ModelChecksOf readers m models models' := by
  obtain ⟨lines, hlines, hok⟩ := exists_optionalLines hok rfl
  rw [foldlM_push fun models check => funext fun line => by unfold modelCheck; rw [findModelList_pushModelCheck]] at hok
  obtain ⟨checks, hchecks, hok⟩ := bind_eq_ok.1 hok
  obtain rfl := ok.inj hok
  exact ⟨lines, checks, hlines, hchecks, foldl_pushModelCheck checks models⟩

/-- Models without checks are those of the run exactly when no line of its file is a check of one of them. -/
theorem modelChecksOf_self_iff (hu : Unchecked models) :
    ModelChecksOf readers m models models ↔ ∃ lines, m.optionalLines m.cvcModelCheckFile = some lines ∧
      ∀ line ∈ lines, modelCheck readers models line = .ok none := by
  constructor
  · rintro ⟨lines, checks, hlines, hchecks, heq⟩
    refine ⟨lines, hlines, fun line hline => ?_⟩
    obtain ⟨check, hmem, hcheck⟩ := exists_of_mapM hchecks hline
    match check with
    | none => exact hcheck
    | some (key, check) =>
      -- the models of the key would have the check
      obtain ⟨entry, hentry, rfl⟩ := modelCheck_key hcheck
      obtain ⟨model, hmodel⟩ := exists_mem_of_ne_nil _ (hu entry hentry).1
      have hin : check ∈ checksFor checks entry.1 := mem_filterMap.2 ⟨_, hmem, if_pos rfl⟩
      have hself := map_inj_left.1 (heq.symm.trans (map_id _).symm) entry hentry
      have hself := map_inj_left.1 ((Prod.mk.inj hself).2.trans (map_id _).symm) model hmodel
      have hlist : (checksFor checks entry.1).reverse ++ model.checkList = model.checkList := congrArg CModel.checkList hself
      rw [(hu entry hentry).2 model hmodel, append_nil, reverse_eq_nil_iff] at hlist
      rw [hlist] at hin
      nomatch hin
  · rintro ⟨lines, hlines, hall⟩
    refine ⟨lines, lines.map fun _ => none, hlines, mapM_ok hall, ?_⟩
    have hnone : ∀ key, checksFor (lines.map fun _ => none) key = [] := by
      simp [checksFor]
    unfold withChecks
    simp only [hnone, reverse_nil]
    simp

/-! ## Runs -/

/-- A run goes on to its netlist: the process is interactive, or the models and powers are in order. -/
def GoesOn (readers : Readers) (options : Options) (m : Mode) (powerFileStatus : ReturnCode) : Prop :=
  options.gInteractive = true ∨ (loadModels readers options.gSetup m).2 = .ok ∧ powerFileStatus = .ok

/-- What a run does: nothing without its lock; or it loads the models and powers, and goes on with the database there is or with a
new one, whose checks it loads. -/
theorem verifyCircuit_cases (hok : verifyCircuit readers options s m = .ok (s', inOrder)) :
    (m.lockReport = false ∧ s' = s ∧ inOrder = false) ∨ (m.lockReport = true ∧ ∃ instancePowers status,
      loadPower readers options.gSetup m (loadModels readers options.gSetup m).1 s.cvcInstancePowerPtrList =
        .ok (instancePowers, status) ∧ (inOrder = true → (loadModels readers options.gSetup m).2 = .ok ∧ status = .ok) ∧
      ((GoesOn readers options m status → s.isSameDatabase m = true) ∧ s' = { s with
          cvcModelListMap := (loadModels readers options.gSetup m).1
          cvcInstancePowerPtrList := instancePowers } ∨
        GoesOn readers options m status ∧ s.isSameDatabase m = false ∧ ∃ inverters opposites models,
          NetChecksOf m inverters opposites ∧
          ModelChecksOf readers m (loadModels readers options.gSetup m).1 models ∧
          s' = {
            cvcInstancePowerPtrList := instancePowers
            cvcModelListMap := models
            inverterInputOutputCheckList := inverters ++ s.inverterInputOutputCheckList
            oppositeLogicList := opposites ++ s.oppositeLogicList
            cvcLastTopBlock := m.cvcTopBlock
            cvcLastNetlistFilename := m.cvcNetlistFilename
            cvcLastSOI := m.cvcSOI })) := by
  unfold verifyCircuit at hok
  cases hlock : m.lockReport with
  | false =>
    rw [if_pos hlock] at hok
    obtain ⟨rfl, rfl⟩ := Prod.mk.inj (ok.inj hok)
    exact .inl ⟨rfl, rfl, rfl⟩
  | true =>
    rw [if_neg (by rw [hlock]; nofun)] at hok
    unfold GoesOn
    generalize loadModels readers options.gSetup m = loaded at hok ⊢
    obtain ⟨models0, modelFileStatus⟩ := loaded
    obtain ⟨⟨instancePowers, status⟩, hpower, hok⟩ := bind_eq_ok.1 hok
    dsimp only at hok
    refine .inr ⟨rfl, instancePowers, status, hpower, ?_⟩
    split at hok
    · next hskip =>
      obtain ⟨rfl, rfl⟩ := Prod.mk.inj (ok.inj hok)
      refine ⟨nofun, .inl ⟨?_, rfl⟩⟩
      rintro (hint | hin)
      · nomatch hint.symm.trans hskip.2
      · exact absurd hin hskip.1
    next hgoes =>
    split at hok
    · next hsame =>
      obtain ⟨rfl, rfl⟩ := Prod.mk.inj (ok.inj hok)
      exact ⟨fun h => of_decide_eq_true h, .inl ⟨fun _ => hsame, rfl⟩⟩
    next hsame =>
    obtain ⟨s1, hnets, hok⟩ := bind_eq_ok.1 hok
    obtain ⟨models, hmodels, hok⟩ := bind_eq_ok.1 hok
    obtain ⟨rfl, rfl⟩ := Prod.mk.inj (ok.inj hok)
    obtain ⟨inverters, opposites, hchecks, rfl⟩ := loadNetChecks_ok hnets
    refine ⟨fun h => of_decide_eq_true h, .inr ⟨?_, Bool.eq_false_iff.2 hsame, inverters, opposites, models, hchecks,
      loadModelChecks_ok hmodels, rfl⟩⟩
    by_cases hin : modelFileStatus = .ok ∧ status = .ok
    · exact .inr hin
    · exact .inl (Bool.eq_true_of_not_eq_false fun hint => hgoes ⟨hin, hint⟩)

/-- A run with its lock adds one instance power for every instance line of its power file. -/
theorem length_verifyCircuit (hok : verifyCircuit readers options s m = .ok (s', inOrder)) : s'.cvcInstancePowerPtrList.length =
      s.cvcInstancePowerPtrList.length + if m.lockReport then m.instanceLines.length else 0 := by
  rcases verifyCircuit_cases hok with ⟨hlock, rfl, -⟩ | ⟨hlock, l, status, hpower, -, ⟨-, rfl⟩ | ⟨-, -, i, o, models, -, -, rfl⟩⟩
  · rw [hlock]
    rfl
  all_goals
    rw [hlock]
    exact length_loadPower hpower

/-- There are no instance powers after some runs exactly when none of them had an instance line. -/
theorem instancePowers_eq_nil_iff {modes : List Mode} (hok : verifyCircuitForAllModes readers options s modes = .ok s')
    (hs : s.cvcInstancePowerPtrList = []) :
    s'.cvcInstancePowerPtrList = [] ↔ ∀ e ∈ modes, e.lockReport = true → e.instanceLines = [] := by
  have hlen : s'.cvcInstancePowerPtrList.length = s.cvcInstancePowerPtrList.length +
      (modes.map fun e => if e.lockReport then e.instanceLines.length else 0).sum := by
    clear hs
    induction modes generalizing s with
    | nil =>
      obtain rfl := ok.inj hok
      rfl
    | cons e modes ih =>
      unfold verifyCircuitForAllModes at hok
      obtain ⟨s1, hs1, hok⟩ := bind_eq_ok.1 hok
      obtain ⟨⟨s2, inOrder⟩, hrun, hs2⟩ := bind_eq_ok.1 hs1
      obtain rfl := ok.inj hs2
      rw [ih hok, length_verifyCircuit hrun, map_cons, sum_cons, Nat.add_assoc]
  rw [← length_eq_zero_iff, hlen, hs, length_nil, Nat.zero_add, List.sum_eq_zero_iff_forall_eq_nat]
  constructor
  · intro hall e he hlock
    have := hall _ (mem_map_of_mem he)
    rw [if_pos hlock] at this
    exact length_eq_zero_iff.1 this
  · intro hall n hn
    obtain ⟨e, he, rfl⟩ := mem_map.1 hn
    split
    · next hlock => rw [hall e he hlock, length_nil]
    · rfl

/-! ## The databases of a process -/

/-- The parameters that a database is reused for. -/
def Mode.database (m : Mode) : Text × Text × Bool := (m.cvcTopBlock, m.cvcNetlistFilename, m.cvcSOI)

/-- The net checks of the net check file of a run. -/
def Mode.netChecks (m : Mode) : Option (List (Option NetCheck)) :=
  (m.optionalLines m.cvcNetCheckFile).bind fun lines => (lines.mapM netCheck).toOption

/-- The run takes its lock and goes on by its own files. -/
def Mode.isRun (readers : Readers) (options : Options) (m : Mode) : Bool :=
  m.lockReport && (options.gInteractive || ((loadModels readers options.gSetup m).2 == .ok &&
    ((loadPower readers options.gSetup m (loadModels readers options.gSetup m).1 []).toOption.map Prod.snd == some .ok)))

/-- The runs that read a netlist, after a database. -/
def newDatabases (readers : Readers) (options : Options) (last : Text × Text × Bool) : List Mode → List Mode
  | [] => []
  | m :: modes =>
    if m.isRun readers options && m.database != last then m :: newDatabases readers options m.database modes
    else newDatabases readers options last modes

/-- The database after some runs. -/
def lastDatabase (readers : Readers) (options : Options) (last : Text × Text × Bool) (modes : List Mode) : Text × Text × Bool :=
  (newDatabases readers options last modes).foldl (fun _ m => m.database) last

/-- The net checks of the files of the runs that read a netlist. -/
def loadedChecks (readers : Readers) (options : Options) (last : Text × Text × Bool) (modes : List Mode) :
    List (Option NetCheck) :=
  (newDatabases readers options last modes).flatMap fun m => m.netChecks.getD []

theorem netChecksOf_iff {inverters : List Text} {opposites : List (Text × Text)} : NetChecksOf m inverters opposites ↔
    ∃ checks, m.netChecks = some checks ∧ inverters = (inverterNets checks).reverse ∧
      opposites = (oppositeNets checks).reverse := by
  unfold NetChecksOf Mode.netChecks
  constructor
  · rintro ⟨lines, checks, hlines, hchecks, hi, ho⟩
    exact ⟨checks, by rw [hlines, Option.bind_some, hchecks]; rfl, hi, ho⟩
  · rintro ⟨checks, hchecks, hi, ho⟩
    obtain ⟨lines, hlines, hok⟩ := Option.bind_eq_some_iff.1 hchecks
    exact ⟨lines, checks, hlines, eq_ok_of_toOption hok, hi, ho⟩

/-- The lists of a process whose runs had no instance lines: the net checks that were loaded, last one first, and the database. -/
structure Loaded (checks : List (Option NetCheck)) (last : Text × Text × Bool) (s : ModeState) : Prop where
  instancePowers : s.cvcInstancePowerPtrList = []
  inverters : s.inverterInputOutputCheckList = (inverterNets checks).reverse
  opposites : s.oppositeLogicList = (oppositeNets checks).reverse
  database : (s.cvcLastTopBlock, s.cvcLastNetlistFilename, s.cvcLastSOI) = last

variable {last : Text × Text × Bool} {loaded : List (Option NetCheck)}

theorem Loaded.isSameDatabase_iff (hs : Loaded loaded last s) : s.isSameDatabase m = true ↔ m.database = last := by
  rw [← hs.database, @eq_comm _ m.database]
  simp [ModeState.isSameDatabase, Mode.database, and_assoc]

/-- One run: the checks of its file come to those before it exactly when it reads a netlist. -/
theorem Loaded.verifyCircuit (hs : Loaded loaded last s) (hok : verifyCircuit readers options s m = .ok (s', inOrder))
    (hlines : m.lockReport = true → m.instanceLines = []) :
    if m.isRun readers options && m.database != last then Loaded (loaded ++ m.netChecks.getD []) m.database s'
      else Loaded loaded last s' := by
  have hlen := length_verifyCircuit hok
  have hnil : s'.cvcInstancePowerPtrList = [] := by
    rw [← length_eq_zero_iff, hlen, hs.instancePowers]
    split
    · next hlock => rw [hlines hlock]; rfl
    · rfl
  rcases verifyCircuit_cases hok with ⟨hlock, rfl, -⟩ | ⟨hlock, l, status, hpower, -, hcase⟩
  · rw [if_neg (by simp [Mode.isRun, hlock])]
    exact hs
  have hrun : m.isRun readers options = true ↔ GoesOn readers options m status := by
    rw [hs.instancePowers] at hpower
    simp [Mode.isRun, hlock, hpower, GoesOn, Except.toOption]
  rcases hcase with ⟨hsame, rfl⟩ | ⟨hgoes, hsame, inverters, opposites, models, hnets, -, rfl⟩
  · rw [if_neg]
    · exact ⟨hnil, hs.inverters, hs.opposites, hs.database⟩
    · rw [Bool.and_eq_true, hrun, bne_iff_ne, Ne, ← hs.isSameDatabase_iff]
      exact fun ⟨hgoes, hne⟩ => hne (hsame hgoes)
  · rw [if_pos]
    · obtain ⟨checks, hchecks, rfl, rfl⟩ := netChecksOf_iff.1 hnets
      refine ⟨hnil, ?_, ?_, rfl⟩
      · simp [hchecks, hs.inverters, inverterNets]
      · simp [hchecks, hs.opposites, oppositeNets]
    · rw [Bool.and_eq_true, hrun, bne_iff_ne, Ne, ← hs.isSameDatabase_iff, hsame]
      exact ⟨hgoes, Bool.false_ne_true⟩

/-- All runs of a process. -/
theorem Loaded.verifyCircuitForAllModes {modes : List Mode} (hs : Loaded loaded last s)
    (hok : verifyCircuitForAllModes readers options s modes = .ok s')
    (hlines : ∀ e ∈ modes, e.lockReport = true → e.instanceLines = []) :
    Loaded (loaded ++ loadedChecks readers options last modes) (lastDatabase readers options last modes) s' := by
  induction modes generalizing s loaded last with
  | nil =>
    obtain rfl := ok.inj hok
    simpa [loadedChecks, lastDatabase, newDatabases] using hs
  | cons e modes ih =>
    unfold Cvc.verifyCircuitForAllModes at hok
    obtain ⟨s1, hs1, hok⟩ := bind_eq_ok.1 hok
    obtain ⟨⟨s2, inOrder⟩, hrun, hs2⟩ := bind_eq_ok.1 hs1
    obtain rfl := ok.inj hs2
    obtain ⟨he, htail⟩ := forall_mem_cons.1 hlines
    have hstep := hs.verifyCircuit hrun he
    unfold loadedChecks lastDatabase newDatabases
    split at hstep
    · next hnew =>
      rw [if_pos hnew, flatMap_cons, foldl_cons, ← append_assoc]
      exact ih hstep hok htail
    · next hold =>
      rw [if_neg hold]
      exact ih hstep hok htail

end Cvc
