import QueryFrame.Number.Shortest

/-!
# Floating-point numbers as text

Writing: the digits are the fewest that read back. Numbers from one ten-thousandth up to ten
quadrillion, and zero, are written with a point and at least one place. Other numbers are written
with the point behind the first digit and an exponent without a plus sign, and there a place that
holds nothing is left out.

Reading: a sign, digits, places and an exponent, or one of the names of the values that are no
numbers. The value is the nearest one of the format.
-/

namespace QueryFrame.Number.Float64

/-- The sign bit. -/
def isNegative (x : Float) : Bool :=
  x.toBits >>> 63 = 1

/-- The bits of the exponent. -/
def exponentBits (x : Float) : Nat :=
  ((x.toBits >>> 52) &&& 0x7FF).toNat

/-- The bits behind the point of the mantissa. -/
def fractionBits (x : Float) : Nat :=
  (x.toBits &&& 0xFFFFFFFFFFFFF).toNat

/-- Whether the value is a number, and not one of the infinities or none at all. -/
def isFinite (x : Float) : Bool :=
  exponentBits x ≠ 0x7FF

/-- The size of a number. Below the smallest exponent the leading bit is not implied. -/
def magnitude (x : Float) : Binary :=
  if exponentBits x = 0 then ⟨fractionBits x, -1074, false⟩
  else
    ⟨0x10000000000000 + fractionBits x, (exponentBits x : Int) - 1075,
      fractionBits x = 0 && 1 < exponentBits x⟩

/-- The places of a number behind its point, at least one. -/
def places : List Char → List Char
  | [] => ['0']
  | digits => digits

/-- A decimal with a point. `exponent` is the power of ten of the leading digit. -/
def positional (digits : List Char) (exponent : Int) : List Char :=
  if exponent < 0 then
    '0' :: '.' :: (List.replicate (-exponent - 1).toNat '0' ++ digits)
  else
    let whole := exponent.toNat + 1
    digits.take whole ++ List.replicate (whole - digits.length) '0' ++
      '.' :: places (digits.drop whole)

/-- A decimal with an exponent. -/
def scientific (digits : List Char) (exponent : Int) : List Char :=
  let point := if digits.length = 1 then [] else ['.']
  digits.take 1 ++ point ++ digits.drop 1 ++ 'e' :: Decimal.signed exponent

/-- The size of a number as text. -/
def magnitudeText (x : Binary) : List Char :=
  if x.mantissa = 0 then ['0', '.', '0']
  else
    let shortest := x.shortest
    let digits := Decimal.digits shortest.digits
    let exponent := shortest.exponent + digits.length - 1
    if -5 < exponent ∧ exponent < 16 then positional digits exponent
    else scientific digits exponent

/-- A floating-point value as text. -/
def text (x : Float) : String :=
  let sign := if isNegative x then "-" else ""
  if isFinite x then sign ++ String.ofList (magnitudeText (magnitude x))
  else if fractionBits x = 0 then sign ++ "inf"
  else "NaN"

/-- The number `digits * 10 ^ exponent`, rounded to the nearest one of the format. So far out that
the format has no such numbers, the size alone decides. -/
def nearest (digits : Nat) (exponent : Int) : Float :=
  let size := (Decimal.digits digits).length + exponent
  if digits = 0 ∨ size < -400 then 0.0
  else if 400 < size then Float.ofBits 0x7FF0000000000000
  else Float.ofScientific digits (exponent < 0) exponent.natAbs

/-- Digits with a sign, and what follows them. -/
def readSigned : List Char → Option (Int × List Char)
  | '-' :: cs => (Decimal.readDigits cs).map fun (digits, rest) => (-(Decimal.value digits : Int), rest)
  | '+' :: cs => (Decimal.readDigits cs).map fun (digits, rest) => (Decimal.value digits, rest)
  | cs => (Decimal.readDigits cs).map fun (digits, rest) => (Decimal.value digits, rest)

/-- A number without its sign. -/
def readMagnitude (cs : List Char) : Option Float := do
  let (whole, rest) ← Decimal.readDigits cs
  let (places, rest) ← match rest with
    | '.' :: rest => Decimal.readDigits rest
    | rest => some ([], rest)
  let (exponent, rest) ← match rest with
    | 'e' :: rest | 'E' :: rest => readSigned rest
    | rest => some (0, rest)
  if rest.isEmpty then
    some (nearest (Decimal.value (whole ++ places)) (exponent - places.length))
  else none

/-- The value that a text names. -/
def ofText? (text : String) : Option Float :=
  if text = "NaN" then some (Float.ofBits 0x7FF8000000000000)
  else if text = "inf" then some (Float.ofBits 0x7FF0000000000000)
  else if text = "-inf" then some (Float.ofBits 0xFFF0000000000000)
  else match text.toList with
    | '-' :: cs => (readMagnitude cs).map fun x => -x
    | cs => readMagnitude cs

end QueryFrame.Number.Float64
