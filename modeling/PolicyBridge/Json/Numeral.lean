import PolicyBridge.Decimal.Shortest
/-!
Number literals of JSON text and the numbers they name. A literal is syntax; a literal without
fraction and exponent names a 64-bit integer where it fits one, any other names a float.
-/

namespace PolicyBridge.Json

structure Numeral where
  negative : Bool
  whole : Nat
  fraction : List (Fin 10)
  exponent : Option Int
deriving DecidableEq

inductive Number where
  | natural (n : UInt64)
  | negative (i : Int64)
  | real (x : Float)

namespace Numeral

def digit? (c : Char) : Option (Fin 10) :=
  if h : '0' ≤ c ∧ c ≤ '9' then
    some ⟨c.toNat - 48, by
      have h1 : (48 : Nat) ≤ c.toNat := h.1
      have h2 : c.toNat ≤ 57 := h.2
      omega⟩
  else none

def digitChar (d : Fin 10) : Char := Char.ofNat (48 + d.val)

def splitDigits : List Char → List (Fin 10) × List Char
  | [] => ([], [])
  | c :: r =>
    match digit? c with
    | some d => let (ds, rest) := splitDigits r; (d :: ds, rest)
    | none => ([], c :: r)

def ofDigits (ds : List (Fin 10)) : Nat := ds.foldl (fun n d => 10 * n + d.val) 0

def toDigits (n : Nat) : List (Fin 10) := (Nat.toDigits 10 n).filterMap digit?

def splitSign : List Char → Bool × List Char
  | '-' :: r => (true, r)
  | r => (false, r)

def splitFraction : List Char → Option (List (Fin 10) × List Char)
  | '.' :: r =>
    match splitDigits r with
    | ([], _) => none
    | (ds, rest) => some (ds, rest)
  | r => some ([], r)

def exponentOf (negative : Bool) (r : List Char) : Option Int :=
  match splitDigits r with
  | ([], _) => none
  | (ds, []) => some (if negative then -(ofDigits ds : Int) else ofDigits ds)
  | _ => none

def splitExponent : List Char → Option (Option Int)
  | [] => some none
  | e :: r =>
    if e = 'e' ∨ e = 'E' then
      match r with
      | '+' :: r => some <$> exponentOf false r
      | '-' :: r => some <$> exponentOf true r
      | r => some <$> exponentOf false r
    else none

def ofChars? (cs : List Char) : Option Numeral := do
  let (negative, cs) := splitSign cs
  let (whole, cs) := splitDigits cs
  let whole ← match whole with
    | [] => none
    | [d] => some d.val
    | d :: ds => if d = 0 then none else some (ofDigits (d :: ds))
  let (fraction, cs) ← splitFraction cs
  let exponent ← splitExponent cs
  some ⟨negative, whole, fraction, exponent⟩

def fractionChars : List (Fin 10) → List Char
  | [] => []
  | ds => '.' :: ds.map digitChar

def exponentChars : Option Int → List Char
  | none => []
  | some (.ofNat n) => 'e' :: '+' :: Nat.toDigits 10 n
  | some (.negSucc n) => 'e' :: '-' :: Nat.toDigits 10 (n + 1)

def chars (n : Numeral) : List Char :=
  (if n.negative then ['-'] else []) ++
    Nat.toDigits 10 n.whole ++ fractionChars n.fraction ++ exponentChars n.exponent

def ofNat (n : Nat) : Numeral := ⟨false, n, [], none⟩

def ofInt (i : Int) : Numeral := ⟨i < 0, i.natAbs, [], none⟩

def powerOfTen (k : Nat) : Float := Float.ofScientific 1 false k

/-- The product of `x` and `10 ^ power`, by one rounded product or quotient for each 308 powers;
`none` where the result is no finite number. -/
def scale (x : Float) (power : Int) : Option Float :=
  if h : power < -308 then
    if x == 0 then some x else scale (x / powerOfTen 308) (power + 308)
  else if power < 0 then some (x / powerOfTen (-power).toNat)
  else if power ≤ 308 then
    let y := x * powerOfTen power.toNat
    if y.isInf then none else some y
  else if x == 0 then some x
  else none
termination_by (-power).toNat

def significand (start : Nat) : List (Fin 10) → Nat × List (Fin 10)
  | [] => (start, [])
  | d :: ds =>
    if 10 * start + d.val < UInt64.size then significand (10 * start + d.val) ds
    else (start, d :: ds)

def largestExponent : Int := 2147483647

/-- The float a literal names, rounded through a 64-bit significand: digits beyond it are dropped,
whole ones being counted in the power of ten. -/
def magnitude? (n : Numeral) : Option Float :=
  let (head, dropped) := significand 0 (toDigits n.whole)
  let (digits, rest) := significand head n.fraction
  let power : Int := dropped.length - (n.fraction.length - rest.length : Nat)
  let exponent := n.exponent.getD 0
  if largestExponent < exponent then if digits = 0 then some 0 else none
  else if exponent < -largestExponent then some 0
  else scale (UInt64.ofNat digits).toFloat (power + exponent)

def toFloat? (n : Numeral) : Option Float :=
  n.magnitude?.map fun x => if n.negative then -x else x

def isInteger (n : Numeral) : Bool := n.fraction.isEmpty && n.exponent.isNone

def value? (n : Numeral) : Option Number :=
  if n.isInteger && !n.negative && n.whole < UInt64.size then some (.natural (UInt64.ofNat n.whole))
  else if n.isInteger && n.negative && 0 < n.whole && n.whole ≤ UInt64.size / 2 then
    some (.negative (Int64.ofInt (-n.whole)))
  else n.toFloat?.map .real

def ofScaled (negative : Bool) (s : Decimal.Scaled) : Numeral :=
  let digits := toDigits s.digits
  let point : Int := digits.length + s.power
  if s.digits = 0 then ⟨negative, 0, [0], none⟩
  else if -5 < point ∧ point ≤ 16 then
    if 0 ≤ s.power then ⟨negative, s.digits * Nat.pow 10 s.power.toNat, [0], none⟩
    else if 0 < point then
      ⟨negative, ofDigits (digits.take point.toNat), digits.drop point.toNat, none⟩
    else ⟨negative, 0, List.replicate (-point).toNat 0 ++ digits, none⟩
  else ⟨negative, ofDigits (digits.take 1), digits.drop 1, some (point - 1)⟩

def ofFloat (x : Float) : Numeral := ofScaled (x.toBits >>> 63 == 1) (Decimal.shortest x)

def ofNumber : Number → Numeral
  | .natural n => ofNat n.toNat
  | .negative i => ofInt i.toInt
  | .real x => ofFloat x

end Numeral

end PolicyBridge.Json
