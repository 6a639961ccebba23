/-!
Powers as numbers of digit strings: how many there are of a length in a base.
-/

namespace BrokerTenancy

/-- How many values `bits` binary digits have. -/
def twoPower (bits : Nat) : Nat := Nat.pow 2 bits

/-- How many values `digits` decimal digits have. -/
def tenPower (digits : Nat) : Nat := Nat.pow 10 digits

/-- How many values `width` bytes have. -/
def bytePower (width : Nat) : Nat := Nat.pow 256 width

theorem byte_power_zero : bytePower 0 = 1 := rfl

theorem byte_power_succ (width : Nat) : bytePower (width + 1) = 256 * bytePower width :=
  Nat.mul_comm _ _

end BrokerTenancy
