import Cvc.Connection
import Cvc.ErrorCount

/-!
# Overvoltage checks

`FindVbgError`, `FindVbsError`, `FindVdsError` and `FindVgsError` of `CCvcDb_error.cc`: an error when the voltages of two
terminals are further apart than a limit, or, if leak voltages are checked, when the leak voltages are ("logic ok"); a leak
voltage with no valid counterpart is compared with zero. A check returns the arguments of `PrintOverVoltageError`, if it calls it.
-/

namespace Cvc

/-- What the overvoltage checks read besides the limit and the device. -/
structure OverVoltageEnv where
  nets : PowerNets
  cvcOvervoltageErrorThreshold : Int := 0
  cvcLeakOvervoltage : Bool := true

/-- The kind and the explanation of an overvoltage error. -/
structure OverVoltageError where
  theErrorIndex : CvcError
  theExplanation : String
  deriving DecidableEq, Repr

/-- The voltage difference is over the limit. -/
def exceeds (theParameter difference : Int) : Bool := decide ((difference.natAbs : Int) > theParameter)

variable (env : OverVoltageEnv) (theParameter : Int) (c : CFullConnection) (theDisplayParameter : String)

/-- Two valid voltages are too far apart. -/
def Reading.apart (a b : Reading) : Bool := a.valid && b.valid && exceeds theParameter (a.voltage - b.voltage)

/-- A valid voltage is too far from zero, and none of those it would be compared with is valid. -/
def Reading.alone (a : Reading) (others : List Reading) : Bool :=
  a.valid && others.all (!·.valid) && exceeds theParameter a.voltage

/-- The minimum of one of two terminals is too far from the maximum of the other one. -/
def Readings.apart (a b : Readings) : Bool := a.min.apart theParameter b.max || a.max.apart theParameter b.min

/-- The same of the leak voltages. -/
def Readings.leakApart (a b : Readings) : Bool := a.minLeak.apart theParameter b.maxLeak || a.maxLeak.apart theParameter b.minLeak

/-- A leak voltage of a terminal is too far from zero, with no opposite one of the other terminals. -/
def Readings.leakAlone (a : Readings) (others : List Readings) : Bool :=
  a.minLeak.alone theParameter (others.map (·.maxLeak)) || a.maxLeak.alone theParameter (others.map (·.minLeak))

namespace OverVoltageEnv

/-- `theParameter += cvcParameters.cvcOvervoltageErrorThreshold`. -/
def limit : Int := int16 (theParameter + env.cvcOvervoltageErrorThreshold)

/-- The readings of a terminal. -/
def readings (t : Terminal) : Readings := t.setMinMaxLeakVoltagesAndFlags env.nets

/-- The error of a check: of the voltages, or else of the leak voltages. -/
def overVoltageError (error : CvcError) (heading theDisplayParameter : String) (plain leaks : Bool) : Option OverVoltageError :=
  if plain then some ⟨error, heading ++ theDisplayParameter⟩
  else if !env.cvcLeakOvervoltage then none
  else if leaks then some ⟨error, heading ++ " (logic ok)" ++ theDisplayParameter⟩
  else none

/-- The gate and the bulk compared in their leak voltages. The last test reads `validMinGate`, not `validMinGateLeak`. -/
def vbgLeakError (p : Int) (gate bulk : Readings) : Bool :=
  gate.leakApart p bulk || gate.leakAlone p [bulk] || bulk.minLeak.alone p [gate.maxLeak] || bulk.maxLeak.alone p [gate.min]

/-- `CCvcDb::FindVbgError`. -/
def findVbgError : Option OverVoltageError :=
  let p := env.limit theParameter
  env.overVoltageError .overvoltageVbg "Overvoltage Error:Gate vs Bulk:" theDisplayParameter
    ((env.readings c.gate).apart p (env.readings c.bulk))
    (vbgLeakError p (env.readings c.gate) (env.readings c.bulk))

/-- The source and the drain compared with the bulk in their voltages. -/
def vbsError (p : Int) (source drain bulk : Readings) : Bool := source.apart p bulk || drain.apart p bulk

/-- The source and the drain compared with the bulk in their leak voltages. -/
def vbsLeakError (p : Int) (source drain bulk : Readings) : Bool :=
  source.leakApart p bulk || drain.leakApart p bulk || bulk.leakAlone p [source, drain] || source.leakAlone p [bulk] ||
    drain.leakAlone p [bulk]

/-- `CCvcDb::FindVbsError`. -/
def findVbsError : Option OverVoltageError :=
  let p := env.limit theParameter
  env.overVoltageError .overvoltageVbs "Overvoltage Error:Source/Drain vs Bulk:" theDisplayParameter
    (vbsError p (env.readings c.source) (env.readings c.drain) (env.readings c.bulk))
    (vbsLeakError p (env.readings c.source) (env.readings c.drain) (env.readings c.bulk))

/-- The source and the drain compared in their leak voltages. -/
def vdsLeakError (p : Int) (source drain : Readings) : Bool :=
  source.leakApart p drain || source.leakAlone p [drain] || drain.leakAlone p [source]

/-- For pumping capacitors only the min-min and max-max differences are checked. These are taken of the voltages as they are, also
when they are not known. -/
def pumpsWithin (p : Int) (source drain : Terminal) : Bool :=
  !exceeds p (source.minVoltage - drain.minVoltage) && !exceeds p (source.maxVoltage - drain.maxVoltage)

/-- `CCvcDb::FindVdsError`. -/
def findVdsError : Option OverVoltageError :=
  let p := env.limit theParameter
  let plain := (env.readings c.source).apart p (env.readings c.drain)
  if plain && c.isPumpCapacitor && pumpsWithin p c.source c.drain then none
  else
    env.overVoltageError .overvoltageVds "Overvoltage Error:Source vs Drain:" theDisplayParameter plain
      (vdsLeakError p (env.readings c.source) (env.readings c.drain))

/-- The gate compared with the source and the drain in their voltages. -/
def vgsError (p : Int) (gate source drain : Readings) : Bool := gate.apart p source || gate.apart p drain

/-- The gate compared with the source and the drain in their leak voltages. -/
def vgsLeakError (p : Int) (gate source drain : Readings) : Bool :=
  gate.leakApart p source || gate.leakApart p drain || gate.leakAlone p [source, drain] || source.leakAlone p [gate] ||
    drain.leakAlone p [gate]

/-- `CCvcDb::FindVgsError`. -/
def findVgsError : Option OverVoltageError :=
  let p := env.limit theParameter
  env.overVoltageError .overvoltageVgs "Overvoltage Error:Gate vs Source/Drain:" theDisplayParameter
    (vgsError p (env.readings c.gate) (env.readings c.source) (env.readings c.drain))
    (vgsLeakError p (env.readings c.gate) (env.readings c.source) (env.readings c.drain))

end OverVoltageEnv
end Cvc
