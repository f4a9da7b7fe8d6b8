import SheetScript.Decimal.Layout

namespace SheetScript.Literal

/-- A number with a point is positional from a ten-thousandth up to sixteen digits before the point;
an exponent has at least two digits. -/
def layout : Decimal.Layout := ⟨-4, 16, 2⟩

def ofFloat (x : Float) : String := layout.text x

def ofNat (n : Nat) : String := String.ofList (Nat.toDigits 10 n)

def maxDigits : Nat := 4300

def overlong (digits : Nat) : String :=
  "Exceeds the limit (" ++ ofNat maxDigits ++ " digits) for integer string conversion: value has "
    ++ ofNat digits ++ " digits; use sys.set_int_max_str_digits() to increase the limit"

def ofInt : Int → String
  | .ofNat n => ofNat n
  | .negSucc n => "-" ++ ofNat (n + 1)

def ofBool : Bool → String
  | true => "True"
  | false => "False"

end SheetScript.Literal
