/-!
The fewest decimal digits that name a finite binary64 number: the first of the grids, from the
power of ten above it downwards, that has a point rounding to the number, and of two such points
the nearer.
-/

namespace PolicyBridge.Decimal

structure Scaled where
  digits : Nat
  power : Int
deriving DecidableEq

/-- A positive number `mantissa * 2 ^ power`; `tight` when the gap below it is half the gap above. -/
structure Binary where
  mantissa : Nat
  power : Int
  tight : Bool

def Binary.ofBits (bits : UInt64) : Binary :=
  let e := ((bits >>> 52) &&& 0x7ff).toNat
  let f := (bits &&& 0xfffffffffffff).toNat
  if e = 0 then ⟨f, -1074, false⟩ else ⟨0x10000000000000 + f, (e : Int) - 1075, f = 0 && 1 < e⟩

/-- Numerators over one denominator: the number, and the ends of the interval that rounds to it. -/
structure Interval where
  lower : Nat
  value : Nat
  upper : Nat
  denominator : Nat
  closed : Bool

def Binary.interval (b : Binary) : Interval :=
  let up := b.power.toNat
  let down := (-b.power).toNat
  let quarter := Nat.pow 2 up
  ⟨(4 * b.mantissa - (if b.tight then 1 else 2)) * quarter, 4 * b.mantissa * quarter,
    (4 * b.mantissa + 2) * quarter, 4 * Nat.pow 2 down, b.mantissa % 2 = 0⟩

def digitCount (n : Nat) : Nat := (Nat.toDigits 10 n).length

def magnitude (n d : Nat) : Int :=
  if d ≤ n then (digitCount (n / d) : Int) - 1
  else
    let c := digitCount (d / n)
    if d ≤ n * Nat.pow 10 (c - 1) then -((c : Int) - 1) else -(c : Int)

def Interval.holds (i : Interval) (n d : Nat) : Bool :=
  let low := i.lower * d
  let high := i.upper * d
  let x := n * i.denominator
  if i.closed then low ≤ x && x ≤ high else low < x && x < high

def Interval.onGrid (i : Interval) (power : Int) : Option Scaled :=
  let up := Nat.pow 10 power.toNat
  let down := Nat.pow 10 (-power).toNat
  let below := i.value * down / (i.denominator * up)
  let error := i.value * down - below * (i.denominator * up)
  let nearBelow := 2 * error < i.denominator * up ||
    (2 * error = i.denominator * up && below % 2 = 0)
  let low := i.holds (below * up) down
  let high := i.holds ((below + 1) * up) down
  if low && (nearBelow || !high) then some ⟨below, power⟩
  else if high then some ⟨below + 1, power⟩
  else none

def Interval.shortest (i : Interval) : Scaled :=
  let m := magnitude i.value i.denominator
  ((List.range 18).findSome? fun (k : Nat) => i.onGrid (m + 1 - k)).getD ⟨i.value / i.denominator, 0⟩

def shortest (x : Float) : Scaled :=
  let b := Binary.ofBits x.toBits
  if b.mantissa = 0 then ⟨0, 0⟩ else b.interval.shortest

end PolicyBridge.Decimal
