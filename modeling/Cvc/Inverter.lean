import Cvc.Types

/-!
# Inverters

`SetInverters` of `CCvcDb.cc` and `IsTransferGate` of `CConnection.cc`. `inverterNet_v` has for each net the input of the inverter
that drives it. The first pass gives each net a polarity, `highLow_v`, from that of its input; the second one replaces the input
of each net by the start of its chain of inverters. Both are recursive, and remember every 1024th net to find loops. The depth of
the recursion is limited here; the code has no limit.
-/

namespace Cvc

/-- `inverterNet_v` and the nets that are their own equivalents: only these have inputs, and the inputs are nets. -/
structure InverterNets where
  netCount : Nat
  isMaster : Nat → Bool
  inverterNet : Nat → Nat
  master : ∀ n, inverterNet n ≠ unknownNet → isMaster n = true
  lt_netCount : ∀ n, inverterNet n ≠ unknownNet → n < netCount ∧ inverterNet n < netCount

/-- `CCvcDb::SetInverterHighLow`. -/
def setInverterHighLow (inverterNet : Nat → Nat) : Nat → Nat → List Nat → Nat → (Nat → Bool) → Except Failure (Nat → Bool)
  | depth, theNetId, theInverterNets, theLoopCount, highLow =>
    if inverterNet theNetId = unknownNet then pure highLow
    else if theNetId ∈ theInverterNets then pure highLow
    else
      match depth with
      | 0 => .error .endless
      | depth + 1 => do
        let theInverterNets := if theLoopCount % 1024 = 0 then theNetId :: theInverterNets else theInverterNets
        let myInputId := inverterNet theNetId
        let highLow ← setInverterHighLow inverterNet depth myInputId theInverterNets (theLoopCount + 1) highLow
        pure (Function.update highLow theNetId (!highLow myInputId))

/-- `CCvcDb::SetInverterInput`. -/
def setInverterInput : Nat → Nat → List Nat → Nat → (Nat → Nat) → Except Failure (Nat × (Nat → Nat))
  | depth, theNetId, theInverterNets, theLoopCount, inverterNet =>
    if inverterNet theNetId = unknownNet then pure (theNetId, inverterNet)
    else if theNetId ∈ theInverterNets then pure (theNetId, inverterNet)
    else
      match depth with
      | 0 => .error .endless
      | depth + 1 => do
        let theInverterNets := if theLoopCount % 1024 = 0 then theNetId :: theInverterNets else theInverterNets
        let (myInput, inverterNet) ←
          setInverterInput depth (inverterNet theNetId) theInverterNets (theLoopCount + 1) inverterNet
        pure (myInput, Function.update inverterNet theNetId myInput)

namespace InverterNets

/-- One round of the first loop of `CCvcDb::SetInverters`. -/
def setHighLow (nets : InverterNets) (depth : Nat) (highLow : Nat → Bool) (net : Nat) : Except Failure (Nat → Bool) :=
  if !nets.isMaster net then pure highLow
  else if nets.inverterNet net = unknownNet then pure highLow
  else do
    let myInputId := nets.inverterNet net
    let highLow ← setInverterHighLow nets.inverterNet depth myInputId [] 0 highLow
    pure (Function.update highLow net (!highLow myInputId))

/-- One round of the second loop of `CCvcDb::SetInverters`. -/
def setInput (nets : InverterNets) (depth : Nat) (inverterNet : Nat → Nat) (net : Nat) : Except Failure (Nat → Nat) :=
  if !nets.isMaster net then pure inverterNet
  else if inverterNet net = unknownNet then pure inverterNet
  else do
    let (myInput, inverterNet) ← setInverterInput depth (inverterNet net) [] 0 inverterNet
    pure (Function.update inverterNet net myInput)

/-- `CCvcDb::SetInverters`: `inverterNet_v` and `highLow_v` afterwards. -/
def setInverters (nets : InverterNets) (depth : Nat) (highLow : Nat → Bool) : Except Failure ((Nat → Nat) × (Nat → Bool)) := do
  let highLow ← (List.range nets.netCount).foldlM (nets.setHighLow depth) highLow
  let inverterNet ← (List.range nets.netCount).foldlM (nets.setInput depth) nets.inverterNet
  pure (inverterNet, highLow)

end InverterNets

/-- `myOrigin` of `CFullConnection::IsTransferGate`: the sign and the start of the chain of a gate net. -/
def origin (inverterNet : Nat → Nat) (highLow : Nat → Bool) (gateNet : Nat) : String :=
  if inverterNet gateNet = unknownNet then "+" ++ toString gateNet
  else (if highLow gateNet then "+" else "-") ++ toString (inverterNet gateNet)

/-- `myInvertedOrigin` of `CFullConnection::IsTransferGate`. -/
def invertedOrigin (inverterNet : Nat → Nat) (highLow : Nat → Bool) (gateNet : Nat) : String :=
  if inverterNet gateNet = unknownNet then "-" ++ toString gateNet
  else (if highLow gateNet then "-" else "+") ++ toString (inverterNet gateNet)

/-- `CFullConnection::IsTransferGate`, of the gate nets of the two devices. -/
def isTransferGate (inverterNet : Nat → Nat) (highLow : Nat → Bool) (nmosGateNet pmosGateNet : Nat) : Bool :=
  origin inverterNet highLow pmosGateNet == invertedOrigin inverterNet highLow nmosGateNet

end Cvc
