/-!
The shortest decimal of a double: among the decimals that round to it, one on the coarsest grid
`10 ^ g`, and of two neighbours on that grid the nearer.
-/

namespace SheetScript.Decimal

/-- The positive double `mantissa * 2 ^ exponent`. It is `lowest` when the doubles below it lie
twice as dense as those above. -/
structure Binary where
  mantissa : Nat
  exponent : Int
  lowest : Bool

def Binary.ofBits (bits : UInt64) : Binary :=
  let magnitude := bits.toNat % Nat.pow 2 63
  let fraction := magnitude % Nat.pow 2 52
  match magnitude / Nat.pow 2 52 with
  | 0 => ⟨fraction, -1074, false⟩
  | e + 1 => ⟨Nat.pow 2 52 + fraction, (e : Int) - 1074, fraction = 0 && e ≠ 0⟩

/-- The reals from `lo / den` to `hi / den` round to `value / den`; the ends do when `closed`. -/
structure Interval where
  lo : Nat
  value : Nat
  hi : Nat
  den : Nat
  closed : Bool

def Binary.interval (x : Binary) : Interval :=
  let up := Nat.pow 2 (x.exponent - 2).toNat
  { lo := (4 * x.mantissa - if x.lowest then 1 else 2) * up
    value := 4 * x.mantissa * up
    hi := (4 * x.mantissa + 2) * up
    den := Nat.pow 2 (2 - x.exponent).toNat
    closed := x.mantissa % 2 = 0 }

/-- The multiple of `10 ^ g` inside the interval that is nearest to its value; a tie goes to the
even multiple. -/
def Interval.nearest? (i : Interval) (g : Int) : Option Nat :=
  let unit := i.den * Nat.pow 10 g.toNat
  let scale := Nat.pow 10 (-g).toNat
  let d := i.value * scale / unit
  let within (a b : Nat) : Bool := if i.closed then a ≤ b else a < b
  match within (i.lo * scale) (d * unit), within ((d + 1) * unit) (i.hi * scale) with
  | false, false => none
  | true, false => some d
  | false, true => some (d + 1)
  | true, true =>
    match compare (2 * (i.value * scale - d * unit)) unit with
    | .lt => some d
    | .gt => some (d + 1)
    | .eq => some (if d % 2 = 0 then d else d + 1)

structure Scientific where
  coefficient : Nat
  exponent : Int
deriving DecidableEq

def Interval.search (i : Interval) : (grids : Nat) → (g : Int) → Scientific
  | 0, g => ⟨0, g⟩
  | grids + 1, g =>
    match i.nearest? g with
    | some d => ⟨d, g⟩
    | none => i.search grids (g - 1)

/-- No grid finer than `10 ^ -325` is ever needed. -/
def Binary.shortest (x : Binary) : Scientific :=
  let top := (Nat.toDigits 10 (x.interval.hi / x.interval.den)).length
  x.interval.search (top + 326) top

end SheetScript.Decimal
