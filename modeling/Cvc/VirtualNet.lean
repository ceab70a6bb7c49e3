import Cvc.Types

/-!
# Virtual nets

`CVirtualNet.cc`: a table of links from net to net, each with the resistance of the device it goes through. A net that links to
itself is a final net. Every net also caches the final net and the resistance its chain of links leads to, with the time at
which the cache was written (`lastUpdate_v`); the table carries the time of the last link set (`lastUpdate`), and a cache older
than that is recomputed by the next read.

A table is a function of the net with its size, `lastUpdate_v` likewise (`ClearUpdateArray` empties it, so its size is a
number of its own). A failed `assert` is `none`.
-/

namespace Cvc

/-- `AddResistance` (`utility.h`): the sum, cut at the largest resistance. -/
def addResistance (theBase theIncrement : Nat) : Nat :=
  if theBase + theIncrement > maxResistance then maxResistance else theBase + theIncrement

/-- `CVirtualNet`: the link of a net and the cached end of its chain. -/
structure CVirtualNet where
  nextNetId : Nat := unknownNet
  resistance : Nat := 0
  finalNetId : Nat := unknownNet
  finalResistance : Nat := 0
  deriving DecidableEq, Repr

/-- `CVirtualNetVector`: the nets, and the times their caches were written. There are fewer nets than the mark for an unknown
one. -/
structure CVirtualNetVector where
  size : Nat
  size_le : size ≤ unknownNet
  net : Nat → CVirtualNet
  lastUpdate : Int
  lastUpdateSize : Nat
  lastUpdateV : Nat → Int

variable (v : CVirtualNetVector)

namespace CVirtualNetVector

/-- The link of each net. -/
def next (n : Nat) : Nat := (v.net n).nextNetId

/-- The resistance of the link of each net. -/
def linkResistance (n : Nat) : Nat := (v.net n).resistance

/-- `IsTerminal`. -/
def isTerminal (theNetId : Nat) : Bool := theNetId == v.next theNetId

/-- The most links a walk takes: the `assert` of the loop ends the program at the next one. -/
def maxLinkCount : Nat := 5020

/-- The loop of `operator()` and of `Set`: follow the links from a net, adding up the resistances, and add the resistance of the
final net. The loop counts its links and stops the program (`assert`) when it takes more than `theLinksLeft`. -/
def walkLinks (v : CVirtualNetVector) : Nat → Nat → Nat → Option (Nat × Nat)
  | theLinksLeft, theFinalNetId, theFinalResistance =>
    if theFinalNetId = v.next theFinalNetId then
      some (theFinalNetId, addResistance theFinalResistance (v.linkResistance theFinalNetId))
    else
      match theLinksLeft with
      | 0 => none
      | theLinksLeft + 1 =>
        walkLinks v theLinksLeft (v.next theFinalNetId) (addResistance theFinalResistance (v.linkResistance theFinalNetId))

/-- Write the cached end of a net and the time it was found. -/
def storeFinal (n f : Nat) (r : Nat) (t : Int) : CVirtualNetVector :=
  { v with
    net := Function.update v.net n { v.net n with finalNetId := f, finalResistance := r }
    lastUpdateV := Function.update v.lastUpdateV n t }

/-- Write the link of a net. -/
def link (n theNextNet : Nat) (theResistance : Nat) : CVirtualNetVector :=
  { v with net := Function.update v.net n { v.net n with nextNetId := theNextNet, resistance := theResistance } }

/-- The test at the top of `Set`: the next net already leads back to this one. -/
def linksBack (n theNextNet : Nat) : Bool := v.next theNextNet == n && theNextNet != n

/-- `CVirtualNetVector::Set`. -/
def set (theNetId theNextNet : Nat) (theResistance : Nat) (theTime : Int) : Option CVirtualNetVector :=
  if v.linksBack theNetId theNextNet then some v
  else
    let v' := v.link theNetId theNextNet theResistance
    if v'.next theNetId = unknownNet then
      some { v'.storeFinal theNetId unknownNet infiniteResistance theTime with lastUpdate := theTime }
    else do
      let (myFinalNetId, myFinalResistance) ← v'.walkLinks maxLinkCount theNetId 0
      some { v'.storeFinal theNetId myFinalNetId myFinalResistance theTime with lastUpdate := theTime }

/-- `++lastUpdate`. -/
def advance : CVirtualNetVector := { v with lastUpdate := v.lastUpdate + 1 }

/-- `Set` with a time of its own: the time is advanced before the call. -/
def setLater (theNetId theNextNet : Nat) (theResistance : Nat) : Option CVirtualNetVector :=
  v.advance.set theNetId theNextNet theResistance v.advance.lastUpdate

/-- The table in which every net links to itself with no resistance, as `ResetMinSimMaxAndQueues` sets it, with the update array
allocated; there are no more nets than ids. -/
def selfLinked (size : Nat) : CVirtualNetVector where
  size := min size unknownNet
  size_le := Nat.min_le_right ..
  net n := { nextNetId := n, resistance := 0, finalNetId := n, finalResistance := 0 }
  lastUpdate := 0
  lastUpdateSize := min size unknownNet
  lastUpdateV _ := 0

end CVirtualNetVector

namespace CVirtualNet

/-- `CVirtualNet::operator()`: the virtual net of `theNetId`, with the end of its chain brought up to date, and the table with
the cache it leaves. -/
def operatorCall (theNetId : Nat) : Option (CVirtualNet × CVirtualNetVector) :=
  if theNetId = unknownNet then
    some (⟨unknownNet, infiniteResistance, unknownNet, infiniteResistance⟩, v)
  else do
    let ((f, r), v') ←
      if v.lastUpdateSize > 0 ∧ v.lastUpdateV theNetId < v.lastUpdate then do
        let (f, r) ← v.walkLinks CVirtualNetVector.maxLinkCount theNetId 0
        pure ((f, r), v.storeFinal theNetId f r v.lastUpdate)
      else
        pure (((v.net theNetId).finalNetId, (v.net theNetId).finalResistance), v)
    -- `assert(finalResistance < MAX_RESISTANCE)`
    if r < maxResistance then some (⟨v.next theNetId, v.linkResistance theNetId, f, r⟩, v') else none

end CVirtualNet
end Cvc
