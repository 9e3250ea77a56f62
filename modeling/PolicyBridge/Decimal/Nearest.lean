import PolicyBridge.Decimal.Shortest

namespace PolicyBridge.Decimal

/-- The power `e` with `2 ^ 52 ≤ n / (d * 2 ^ e) < 2 ^ 53`, but never below the subnormals' own. -/
def binaryPower (n d : Nat) : Int :=
  let guess : Int := (n.log2 : Int) - d.log2 - 52
  let small := n * Nat.pow 2 (-guess).toNat < d * Nat.pow 2 52 * Nat.pow 2 guess.toNat
  max (if small then guess - 1 else guess) (-1074)

def roundedQuotient (n d : Nat) : Nat :=
  let q := n / d
  let r := n % d
  if d < 2 * r ∨ (d = 2 * r ∧ q % 2 = 1) then q + 1 else q

def toBits (mantissa : Nat) (power : Int) : UInt64 :=
  if mantissa < 0x10000000000000 then UInt64.ofNat mantissa
  else if 971 < power ∨ (971 = power ∧ 0x20000000000000 ≤ mantissa) then 0x7ff0000000000000
  else UInt64.ofNat ((power + 1075).toNat * 0x10000000000000 + (mantissa - 0x10000000000000))

def nearestQuotient (n d : Nat) : Float :=
  let e := binaryPower n d
  Float.ofBits (toBits (roundedQuotient (n * Nat.pow 2 (-e).toNat) (d * Nat.pow 2 e.toNat)) e)

def nearest (x : Scaled) : Float :=
  let magnitude : Int := (digitCount x.digits : Int) + x.power
  if x.digits = 0 ∨ magnitude < -400 then 0
  else if 400 < magnitude then Float.ofBits 0x7ff0000000000000
  else nearestQuotient (x.digits * Nat.pow 10 x.power.toNat) (Nat.pow 10 (-x.power).toNat)

end PolicyBridge.Decimal
