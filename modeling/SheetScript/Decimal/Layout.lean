import SheetScript.Decimal.Shortest

namespace SheetScript.Decimal

structure Layout where
  positionalFrom : Int
  positionalBelow : Int
  exponentDigits : Nat

def padded (width n : Nat) : String :=
  let digits := Nat.toDigits 10 n
  String.ofList (List.replicate (width - digits.length) '0' ++ digits)

def zeroes (n : Nat) : List Char := List.replicate n '0'

def Scientific.positional (x : Scientific) : String :=
  let digits := Nat.toDigits 10 x.coefficient
  let whole := digits.length + x.exponent
  String.ofList <|
    if 0 ≤ x.exponent then digits ++ zeroes x.exponent.toNat ++ ['.', '0']
    else if 0 < whole then digits.take whole.toNat ++ '.' :: digits.drop whole.toNat
    else ['0', '.'] ++ zeroes (-whole).toNat ++ digits

def Layout.withExponent (l : Layout) (x : Scientific) : String :=
  let digits := Nat.toDigits 10 x.coefficient
  let exponent := x.exponent + digits.length - 1
  let coefficient :=
    if digits.length ≤ 1 then digits else digits.take 1 ++ '.' :: digits.drop 1
  String.ofList coefficient ++ (if exponent < 0 then "e-" else "e+")
    ++ padded l.exponentDigits exponent.natAbs

def Layout.write (l : Layout) (x : Scientific) : String :=
  let exponent := x.exponent + (Nat.toDigits 10 x.coefficient).length - 1
  if l.positionalFrom ≤ exponent ∧ exponent < l.positionalBelow then x.positional
  else l.withExponent x

def Layout.text (l : Layout) (x : Float) : String :=
  if x.isNaN then "nan"
  else
    let bits := x.toBits
    let sign := if Nat.pow 2 63 ≤ bits.toNat then "-" else ""
    if x.isInf then sign ++ "inf"
    else if bits.toNat % Nat.pow 2 63 = 0 then sign ++ "0.0"
    else sign ++ l.write (Binary.ofBits bits).shortest

end SheetScript.Decimal
