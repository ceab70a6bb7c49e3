import Cvc.Theorems.VirtualNetCache
import Cvc.Theorems.MFactor
import Cvc.Theorems.ModeIndependence
import Cvc.Theorems.ErrorLimit
import Cvc.Theorems.ExpressionValue
import Cvc.Theorems.OverVoltageDuality
import Cvc.Theorems.GateSourceRange
import Cvc.Theorems.SourceBulkDuality
import Cvc.Theorems.Inverters
import Cvc.Theorems.EquivalentNets
import Cvc.Theorems.DeviceLists
import Cvc.Theorems.MinMaxTermination
import Cvc.Theorems.MinMaxScheduler
import Cvc.Theorems.OppositeLogic
import Cvc.Theorems.InstancePath
import Cvc.Theorems.CircuitList
import Cvc.Theorems.NameLookup
import Cvc.Theorems.InstanceInputs
import Cvc.Theorems.ModePower
import Cvc.Theorems.ExpectedLevels
import Cvc.Theorems.ModelChecks
import Cvc.Theorems.Reroute
import Cvc.Theorems.ResistanceOverflow
import Cvc.Theorems.ActivationDuality
import Cvc.Theorems.KeyDuality
import Cvc.Theorems.UpdateArray
import Cvc.Theorems.FlatCounts
import Cvc.Theorems.Linking
import Cvc.Theorems.ParallelLookup
import Cvc.Theorems.Parsing
import Cvc.Theorems.InverterInput
import Cvc.Theorems.ScrcParent
import Cvc.Theorems.AnalogNets
import Cvc.Theorems.LeakPath
import Cvc.Theorems.PathTests
import Cvc.Theorems.SubcircuitLine
import Cvc.Theorems.RelatedPower
import Cvc.Theorems.EventTime
import Cvc.Theorems.AlwaysOn
import Cvc.Theorems.Condition
