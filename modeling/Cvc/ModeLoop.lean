import Mathlib.Data.Char
import Mathlib.Data.List.Lex
import Cvc.Lib.SortedMap
import Cvc.Types

/-!
# The loop over the modes

`CCvcDb::VerifyCircuitForAllModes` makes one run for each parameter file of the command line, in one process. This is the part of
a run that loads the model, power and check files (`CCvcDb_main.cc`, `CCvcParameters.cc`, `CModel.cc`, `LoadNetChecks` and
`LoadModelChecks` of `CCvcDb_init.cc`), with the lists that stay in the process between the runs.

A text is the list of its characters and a position in it the rest of the text from there on; a search that finds nothing leaves
the empty rest, and `substr` from there throws `std::out_of_range`. The messages of the report and log files are left out, and so
are the commands of an interactive run that read the model and power files again (`InteractiveCvc`). The definitions of powers and
the parameters of a model are read by constructors whose results no function here reads: they are given by `Readers`, which say
what the constructors accept.
-/

namespace Cvc

/-- The text up to the first blank. -/
def firstWord (s : Text) : Text := s.takeWhile (!isBlank ·)

/-- The next word of a text and the rest after it. -/
def nextWord (rest : Text) : Except Failure (Text × Text) :=
  match rest.dropWhile isBlank with
  | [] => .error .outOfRange
  | word => .ok (word.takeWhile (!isBlank ·), word.dropWhile (!isBlank ·))

/-- `returnCode_t`. -/
inductive ReturnCode where
  | ok
  | skip
  | fail
  deriving DecidableEq, Repr

/-- `gModelTypeStringMap`. -/
def gModelTypeStringMap : List (String × ModelType) :=
  [("M", .mosfet), ("MN", .nmos), ("LDDN", .lddn), ("MP", .pmos), ("LDDP", .lddp), ("R", .resistor), ("RESISTOR", .resistor),
    ("C", .capacitor), ("CAPACITOR", .capacitor), ("D", .diode), ("DIODE", .diode), ("switch_on", .switchOn),
    ("switch_off", .switchOff), ("fuse_on", .fuseOn), ("fuse_off", .fuseOff), ("Q", .bipolar), ("BIPOLAR", .bipolar),
    ("BOX", .box)]

/-- `gBaseModelTypePrefixMap`. -/
def gBaseModelTypePrefixMap : ModelType → Text
  | .mosfet | .nmos | .pmos | .lddn | .lddp => ['M']
  | .resistor => ['R']
  | .capacitor => ['C']
  | .diode => ['D']
  | .switchOn | .switchOff | .fuseOn | .fuseOff => []
  | .bipolar => ['Q']
  | .box => ['X']

/-- `CModelCheck`, without the numbers read from its texts. -/
structure CModelCheck where
  check : Text
  parameter : Text
  isVoltage : Bool
  minInclusiveText : Text
  minExclusiveText : Text
  maxInclusiveText : Text
  maxExclusiveText : Text
  deriving DecidableEq, Repr

/-- `CModelCheck::CModelCheck`. -/
def CModelCheck.new (theCheck theParameter theInclusiveMin theExclusiveMin theInclusiveMax theExclusiveMax : Text) :
    CModelCheck where
  check := theCheck
  parameter := theParameter
  isVoltage := theParameter.head? == some 'V'
  minInclusiveText := theInclusiveMin
  minExclusiveText := theExclusiveMin
  maxInclusiveText := theInclusiveMax
  maxExclusiveText := theExclusiveMax

/-- `CModel`: its base type, name and definition, and the checks of its devices. -/
structure CModel where
  baseType : Text
  name : Text
  definition : Text
  checkList : List CModelCheck := []
  deriving DecidableEq, Repr

/-- `CModelListMap`: the models of every key in the order of the keys. -/
abbrev CModelListMap := List (Text × List CModel)

/-- `CInstancePower`. -/
structure CInstancePower where
  instanceName : Text
  powerFile : Text
  powerList : List Text := []
  deriving DecidableEq, Repr

/-- `CInstancePower::CInstancePower`. -/
def CInstancePower.new (theDefinition : Text) : Except Failure CInstancePower := do
  let rest := (trim theDefinition).dropWhile (!isBlank ·)
  let (instanceName, rest) ← nextWord rest
  let (powerFile, _) ← nextWord rest
  pure { instanceName, powerFile }

/-- What the constructors accept whose results are not read here: the parameters of a model after its name
(`CModel::CModel`), the definitions of powers, macros and families of a power file (`EPowerError` for one of its lines), and the
value of a model check (`CModelCheck::SetValue`, which throws `std::out_of_range` for an unknown suffix). -/
structure Readers where
  modelParameters : Text → Bool
  powerError : CModelListMap → List Text → Bool
  checkValue : Text → Bool

/-- The parameters of a run that the loaders read, as its parameter file sets them, the files it finds, and whether the lock of
its report can be taken. -/
structure Mode where
  cvcTopBlock : Text := []
  cvcNetlistFilename : Text := []
  cvcSOI : Bool := false
  cvcModelFilename : Text := []
  cvcPowerFilename : Text := []
  cvcNetCheckFile : Text := []
  cvcModelCheckFile : Text := []
  files : Text → Option (List Text)
  lockReport : Bool := true

/-- What stays in the process from one run to the next. -/
structure ModeState where
  cvcInstancePowerPtrList : List CInstancePower := []
  cvcModelListMap : CModelListMap := []
  inverterInputOutputCheckList : List Text := []
  oppositeLogicList : List (Text × Text) := []
  cvcLastTopBlock : Text := []
  cvcLastNetlistFilename : Text := []
  cvcLastSOI : Bool := false
  deriving DecidableEq, Repr

/-! ## Models -/

variable (readers : Readers)

/-- `CModel::CModel`; nothing, if it throws. -/
def CModel.new (theParameterString : Text) : Option CModel := do
  let (typeName, rest) ← (nextWord theParameterString).toOption
  let type ← gModelTypeStringMap.lookup (String.ofList typeName)
  let (name, rest) ← (nextWord rest).toOption
  if readers.modelParameters rest then
    let words := (rest.splitOnP isBlank).filter (· ≠ [])
    pure {
      baseType := gBaseModelTypePrefixMap type
      name := name
      definition := List.intercalate [' '] (typeName :: name :: words) }
  else none

/-- The key of a model in the map. -/
def CModel.key (model : CModel) : Text := model.baseType ++ ' ' :: model.name

/-- `CModelListMap::AddModel`; the flag is `hasError`. -/
def addModel (acc : CModelListMap × Bool) (theParameterString : Text) : CModelListMap × Bool :=
  match CModel.new readers theParameterString with
  | none => (acc.1, true)
  | some model => (SortedMap.put model.key ((SortedMap.find model.key acc.1).getD [] ++ [model]) acc.1, acc.2)

/-- A line that a file of definitions has for its readers only. -/
def isSkipped (myInput : Text) : Bool := myInput.head? == some '#' || myInput.all isSpace

/-- `CCvcParameters::LoadModels`. -/
def loadModels (gSetup : Bool) (m : Mode) : CModelListMap × ReturnCode :=
  match m.files m.cvcModelFilename with
  | none => ([], if gSetup then .ok else .fail)
  | some lines =>
    let (models, hasError) := (lines.filter (!isSkipped ·)).foldl (addModel readers) ([], false)
    (models, if hasError then .skip else .ok)

/-! ## Powers -/

/-- A line of the power file that gives an instance its own power file. -/
def isInstance (myInput : Text) : Bool := firstWord myInput == "#instance".toList

/-- The loop of `CCvcParameters::LoadPower` over the instances, old and new. -/
def readInstancePowers (files : Text → Option (List Text)) : List CInstancePower → List CInstancePower × ReturnCode
  | [] => ([], .ok)
  | instancePower :: rest =>
    match files instancePower.powerFile with
    | none => (instancePower :: rest, .fail)
    | some lines =>
      let powers := (lines.filter (!isSkipped ·)).map trim
      let (rest, status) := readInstancePowers files rest
      ({ instancePower with powerList := instancePower.powerList ++ powers } :: rest, status)

/-- `CCvcParameters::LoadPower`. -/
def loadPower (gSetup : Bool) (m : Mode) (models : CModelListMap) (cvcInstancePowerPtrList : List CInstancePower) :
    Except Failure (List CInstancePower × ReturnCode) :=
  match m.files m.cvcPowerFilename with
  | none => pure (cvcInstancePowerPtrList, if gSetup then .ok else .fail)
  | some lines => do
    let new ← (lines.filter isInstance).mapM CInstancePower.new
    let (instancePowers, status) := readInstancePowers m.files (cvcInstancePowerPtrList ++ new)
    pure (instancePowers, if status = .fail then .fail else if readers.powerError models lines then .skip else .ok)

/-! ## Checks -/

/-- A check of nets. -/
inductive NetCheck where
  | inverterInputOutput (netName : Text)
  | oppositeLogic (netName opposite : Text)
  deriving DecidableEq, Repr

/-- The name of a net beside another one. -/
def besideNet (netName other : Text) : Text :=
  match netName.reverse.dropWhile (· ≠ '/') with
  | [] => other
  | hierarchy => hierarchy.reverse ++ other

/-- The loop body of `CCvcDb::LoadNetChecks`: the check of a line, if it has one. -/
def netCheck (myInput : Text) : Except Failure (Option NetCheck) :=
  if myInput.head? = some '#' then pure none
  else do
    let (myNetName, rest) ← nextWord myInput
    let (myOperation, rest) ← nextWord rest
    if myOperation = "inverter_input=output".toList then pure (some (.inverterInputOutput myNetName))
    else if myOperation = "opposite_logic".toList then do
      let (myOpposite, _) ← nextWord rest
      pure (some (.oppositeLogic myNetName (besideNet myNetName myOpposite)))
    else pure none

/-- `push_front` of a check. -/
def ModeState.pushNetCheck (s : ModeState) : Option NetCheck → ModeState
  | none => s
  | some (.inverterInputOutput netName) => { s with inverterInputOutputCheckList := netName :: s.inverterInputOutputCheckList }
  | some (.oppositeLogic netName opposite) => { s with oppositeLogicList := (netName, opposite) :: s.oppositeLogicList }

/-- `CCvcDb::LoadNetChecks`. -/
def loadNetChecks (m : Mode) (s : ModeState) : Except Failure ModeState :=
  if m.cvcNetCheckFile = [] then pure s
  else
    match m.files m.cvcNetCheckFile with
    | none => throw (.eFatalError ("Could not open level shifter file: '" ++ String.ofList m.cvcNetCheckFile ++ "'"))
    | some lines => lines.foldlM (fun s line => do pure (s.pushNetCheck (← netCheck line))) s

/-- `CModelListMap::FindModelList`: the key of the first list of models with a name. -/
def findModelList (models : CModelListMap) (theModelName : Text) : Option Text :=
  (models.find? fun entry => entry.1.drop 2 == theModelName).map Prod.fst

/-- One of the characters of `"=<>"`. -/
def isRelation (c : Char) : Bool := c == '=' || c == '<' || c == '>'

/-- The loop body of `CCvcDb::LoadModelChecks` after the name of the model: the check, if it is one that is known. -/
def checkAfterName (rest : Text) : Except Failure (Option CModelCheck) := do
  let (myCheck, _) ← nextWord rest
  let rest := rest.dropWhile isBlank
  let myParameter := rest.takeWhile fun c => !(isBlank c || isRelation c)
  let rest := (rest.dropWhile fun c => !(isBlank c || isRelation c)).dropWhile (!isRelation ·)
  if rest = [] then throw .outOfRange
  let myOperation := rest.takeWhile isRelation
  let rest := rest.dropWhile isRelation
  if rest = [] then throw .outOfRange
  let myValue := rest.takeWhile (!isBlank ·)
  if myParameter = ['V', 'b'] then
    if myOperation ≠ ['='] then pure none
    else if readers.checkValue myValue then pure (some (.new myCheck ['V', 'b'] myValue [] myValue []))
    else throw .outOfRange
  else pure none

/-- The loop body of `CCvcDb::LoadModelChecks`: the check of a line and the key of the models it is for, if there are some. -/
def modelCheck (models : CModelListMap) (myInput : Text) : Except Failure (Option (Text × CModelCheck)) :=
  if myInput.head? = some '#' then pure none
  else do
    let (myModelName, rest) ← nextWord myInput
    match findModelList models myModelName with
    | none => pure none
    | some key => do
      let check ← checkAfterName readers rest
      pure (check.map fun check => (key, check))

/-- `push_front` of a check to the models of a key. -/
def pushModelCheck (models : CModelListMap) : Option (Text × CModelCheck) → CModelListMap
  | none => models
  | some (key, check) => models.map fun entry =>
    if entry.1 = key then (entry.1, entry.2.map fun model => { model with checkList := check :: model.checkList }) else entry

/-- `CCvcDb::LoadModelChecks`. -/
def loadModelChecks (m : Mode) (models : CModelListMap) : Except Failure CModelListMap :=
  if m.cvcModelCheckFile = [] then pure models
  else
    match m.files m.cvcModelCheckFile with
    | none => throw (.eFatalError ("Could not open model check file: '" ++ String.ofList m.cvcModelCheckFile ++ "'"))
    | some lines => lines.foldlM (fun models line => do pure (pushModelCheck models (← modelCheck readers models line))) models

/-! ## Runs -/

/-- `CCvcParameters::IsSameDatabase`. -/
def ModeState.isSameDatabase (s : ModeState) (m : Mode) : Bool :=
  s.cvcLastTopBlock = m.cvcTopBlock && s.cvcLastNetlistFilename = m.cvcNetlistFilename && s.cvcLastSOI == m.cvcSOI

/-- `CCvcParameters::SaveDatabaseParameters`. -/
def ModeState.saveDatabaseParameters (s : ModeState) (m : Mode) : ModeState :=
  { s with
    cvcLastTopBlock := m.cvcTopBlock
    cvcLastNetlistFilename := m.cvcNetlistFilename
    cvcLastSOI := m.cvcSOI }

/-- The options of the process. -/
structure Options where
  gSetup : Bool
  gInteractive : Bool

/-- A run of `CCvcDb::VerifyCircuitForAllModes` up to the first stage, for a netlist that can be read: the state, and whether the
models and powers are in order, so that the run goes on to its checks. -/
def verifyCircuit (options : Options) (s : ModeState) (m : Mode) : Except Failure (ModeState × Bool) :=
  if m.lockReport = false then pure (s, false)
  else do
    let (models, modelFileStatus) := loadModels readers options.gSetup m
    let (instancePowers, powerFileStatus) ← loadPower readers options.gSetup m models s.cvcInstancePowerPtrList
    let s := { s with cvcModelListMap := models, cvcInstancePowerPtrList := instancePowers }
    let inOrder := modelFileStatus = .ok ∧ powerFileStatus = .ok
    if ¬ inOrder ∧ options.gInteractive = false then pure (s, false)
    else if s.isSameDatabase m then pure (s, inOrder)
    else do
      let s ← loadNetChecks m (s.saveDatabaseParameters m)
      let models ← loadModelChecks readers m s.cvcModelListMap
      pure ({ s with cvcModelListMap := models }, inOrder)

/-- The runs of a list of modes. -/
def verifyCircuitForAllModes (options : Options) (s : ModeState) (modes : List Mode) : Except Failure ModeState :=
  modes.foldlM (fun s m => do pure (← verifyCircuit readers options s m).1) s

end Cvc
