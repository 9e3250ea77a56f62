import PolicyBridge.Decimal.Nearest
import PolicyBridge.Json.Numeral
/-!
Numbers as free text. Floats have an optional sign, digits with or without a fraction on either side of the
point, and an exponent; or the name of a number that is not finite.
-/

namespace PolicyBridge.Decimal

open Json.Numeral (splitDigits ofDigits splitExponent)

def splitSign : List Char → Bool × List Char
  | '-' :: r => (true, r)
  | '+' :: r => (false, r)
  | r => (false, r)

def dropPlus : List Char → List Char
  | '+' :: r => r
  | r => r

def digits? (cs : List Char) : Option Nat :=
  match splitDigits cs with
  | ([], _) => none
  | (ds, []) => some (ofDigits ds)
  | _ => none

def natural? (cs : List Char) : Option Nat := digits? (dropPlus cs)

def named? (cs : List Char) : Option Float :=
  let s := (String.ofList cs).toLower
  if s = "inf" ∨ s = "infinity" then some (Float.ofBits 0x7ff0000000000000)
  else if s = "nan" then some (Float.ofBits 0x7ff8000000000000)
  else none

def pointDigits : List Char → List (Fin 10) × List Char
  | '.' :: r => splitDigits r
  | r => ([], r)

def scaled? (cs : List Char) : Option Scaled := do
  let (whole, r) := splitDigits cs
  let (fraction, r) := pointDigits r
  let digits := whole ++ fraction
  if digits.isEmpty then none
  let exponent ← splitExponent r
  some ⟨ofDigits digits, exponent.getD 0 - fraction.length⟩

def parse? (s : String) : Option Float :=
  let (negative, cs) := splitSign s.toList
  ((named? cs).or ((scaled? cs).map nearest)).map fun x => if negative then -x else x

def scaledText (x : Scaled) : String :=
  let digits := Nat.toDigits 10 x.digits
  let point : Int := digits.length + x.power
  String.ofList (if 0 ≤ x.power then
      if x.digits = 0 then ['0'] else digits ++ List.replicate x.power.toNat '0'
    else if 0 < point then digits.take point.toNat ++ '.' :: digits.drop point.toNat
    else '0' :: '.' :: List.replicate (-point).toNat '0' ++ digits)

def text (x : Float) : String :=
  if x.isNaN then "NaN"
  else
    (if x.toBits >>> 63 == 1 then "-" else "") ++
      (if x.isInf then "inf" else scaledText (shortest x))

end PolicyBridge.Decimal
