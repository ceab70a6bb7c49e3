import Cvc.Power

/-!
# Relations of powers

`IsRelatedPower` does not depend on which of the two powers is asked: the alias of either may name the other, and each of the
cases of friends and enemies in `IsRelative` is the exchange of another one.
-/

namespace Cvc

namespace CPower

-- a case of the friends and enemies of one power is the exchange of that of the other
theorem isRelative_comm (power theTestPower : CPower) (theDefault theIsHiZRelative : Bool) :
    power.isRelative theTestPower theDefault theIsHiZRelative = theTestPower.isRelative power theDefault theIsHiZRelative := by
  unfold isRelative
  rw [Bool.or_comm power.type.hizBit, Bool.and_comm power.relativeSet.isEmpty]
  generalize power.namesRelative theTestPower = myRelation
  generalize theTestPower.namesRelative power = myTestRelation
  cases power.family.isEmpty <;> cases power.relativeFriendly <;> cases theTestPower.family.isEmpty <;>
    cases theTestPower.relativeFriendly <;> cases myRelation <;> cases myTestRelation <;> rfl

end CPower

namespace PowerNets

variable (nets : PowerNets)

theorem isRelatedBase_comm (theDefault theIsHiZRelative : Bool) (power theTestPower : Option Nat) :
    nets.isRelatedBase theDefault theIsHiZRelative power theTestPower =
      nets.isRelatedBase theDefault theIsHiZRelative theTestPower power := by
  cases power with
  | none => cases theTestPower <;> rfl
  | some p =>
    cases theTestPower with
    | none => rfl
    | some q =>
      unfold isRelatedBase
      simp only [(nets.power p).isRelative_comm (nets.power q)]
      congr 1
      rw [Bool.eq_iff_iff]
      grind

/-- The two powers may be exchanged with their vectors of virtual nets: both calls return the same answer, or neither returns. -/
theorem isRelatedPower_comm (limit p q : Nat) (theNet theTestNet : CalculatedBit) (theDefault theIsHiZRelative : Bool) :
    (nets.isRelatedPower limit p (some q) theNet theTestNet theDefault theIsHiZRelative).toOption =
      (nets.isRelatedPower limit q (some p) theTestNet theNet theDefault theIsHiZRelative).toOption := by
  unfold isRelatedPower
  dsimp only
  cases nets.getBasePower limit theNet p with
  | error => cases nets.getBasePower limit theTestNet q <;> rfl
  | ok power =>
    cases nets.getBasePower limit theTestNet q with
    | error => rfl
    | ok testPower => exact congrArg Except.toOption (nets.isRelatedBase_comm theDefault theIsHiZRelative power testPower)

end PowerNets
end Cvc
