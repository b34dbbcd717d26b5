/-!
# Binary fractions

A real of a document is held in 53 binary digits with a power of two. A decimal is rounded to the
nearest such number, and to the one with an even last digit if it lies between two. The other way
a real is written with the fewest decimal digits that lead back to it.
-/

namespace SuiteOutline.Document

/-- A real: a significand below 2^53 times a power of two, an infinity, or no number. -/
inductive Real where
  | finite (negative : Bool) (significand : Nat) (power : Int)
  | infinite (negative : Bool)
  | notANumber
  deriving DecidableEq

namespace Real

/-- The quotient of two numbers, rounded to the nearest integer and to the even one of two. -/
def divideEven (dividend divisor : Nat) : Nat :=
  let quotient := dividend / divisor
  let twice := 2 * (dividend % divisor)
  if twice < divisor then quotient
  else if divisor < twice then quotient + 1
  else quotient + quotient % 2

def scale (base : Nat) (fraction : Nat × Nat) (power : Int) : Nat × Nat :=
  if 0 ≤ power then (fraction.1 * Nat.pow base power.toNat, fraction.2)
  else (fraction.1, fraction.2 * Nat.pow base (-power).toNat)

/-- The significand and power of the real nearest to a positive fraction, if it is not beyond all
of them. -/
def ofFraction? (fraction : Nat × Nat) : Option (Nat × Int) :=
  let estimate : Int := (Nat.log2 fraction.1 : Int) - (Nat.log2 fraction.2 : Int) - 52
  let scaled := scale 2 fraction (-estimate)
  let power := if scaled.1 < scaled.2 * Nat.pow 2 52 then estimate - 1 else estimate
  let power := max power (-1074)
  let scaled := scale 2 fraction (-power)
  let rounded := divideEven scaled.1 scaled.2
  let (significand, power) :=
    if rounded == Nat.pow 2 53 then (Nat.pow 2 52, power + 1) else (rounded, power)
  if 971 < power then none else some (significand, power)

/-- The significand and power of the real nearest to `digits` times ten to a power. Decimals that
are beyond all reals, or nearer to zero than to any other real, are told by their size. -/
def ofDecimal? (digits : Nat) (power : Int) : Option (Nat × Int) :=
  if digits == 0 then some (0, 0)
  else
    let size := (Nat.log2 digits : Int) * 30103 / 100000 + power
    if 400 < size then none
    else if size < -400 then some (0, 0)
    else ofFraction? (scale 10 (digits, 1) power)

/-- Equality as reals: zero has no sign, and what is no number equals itself. -/
def same : Real → Real → Bool
  | .finite negative significand power, .finite otherNegative otherSignificand otherPower =>
      (significand == 0 && otherSignificand == 0)
        || (negative == otherNegative && significand == otherSignificand && power == otherPower)
  | .infinite negative, .infinite otherNegative => negative == otherNegative
  | .notANumber, .notANumber => true
  | _, _ => false

/-! ## Writing reals -/

/-- A decimal that leads back to a real, among the two with a power of ten that lie around it; the
nearer one, and of two equally near ones the even one. -/
def decimalWith? (significand : Nat) (power : Int) (tens : Int) : Option (Nat × Int) :=
  let value := scale 10 (scale 2 (significand, 1) power) (-tens)
  let below := value.1 / value.2
  let nearest := divideEven value.1 value.2
  let farther := if nearest == below then below + 1 else below
  let leadsBack := fun digits => ofDecimal? digits tens == some (significand, power)
  if leadsBack nearest then some (nearest, tens)
  else if leadsBack farther then some (farther, tens)
  else none

/-- The place of the leading decimal digit of a positive real: ten to this power is not above it,
and ten times that is. -/
def leadingPlace (significand : Nat) (power : Int) : Int :=
  let fraction := scale 2 (significand, 1) power
  let estimate : Int := ((Nat.log2 significand : Int) + power) * 30103 / 100000
  let reaches := fun place =>
    let scaled := scale 10 fraction (-place)
    decide (scaled.2 ≤ scaled.1)
  if reaches (estimate + 1) then estimate + 1
  else if reaches estimate then estimate
  else estimate - 1

/-- The first decimal that leads back, among those with the given number of digits after the
leading one, then with one more, and so on. -/
def shortestFrom (significand : Nat) (power place : Int) : Nat → Nat → Nat × Int
  | 0, _ => (0, 0)
  | count + 1, further =>
      match decimalWith? significand power (place - further) with
      | some decimal => decimal
      | none => shortestFrom significand power place count (further + 1)

def trimZeros : Nat → Nat × Int → Nat × Int
  | 0, decimal => decimal
  | count + 1, (digits, tens) =>
      if digits != 0 && digits % 10 == 0 then trimZeros count (digits / 10, tens + 1)
      else (digits, tens)

/-- The decimal with the fewest digits that leads back to a positive real; seventeen always do. -/
def shortest (significand : Nat) (power : Int) : Nat × Int :=
  trimZeros 17 (shortestFrom significand power (leadingPlace significand power) 17 0)

def zeros (count : Int) : String :=
  String.ofList (List.replicate count.toNat '0')

def positional (digits : List Char) (tens : Int) : String :=
  let point := (digits.length : Int) + tens
  if 0 ≤ tens then String.ofList digits ++ zeros tens ++ ".0"
  else if 0 < point then
    String.ofList (digits.take point.toNat) ++ "." ++ String.ofList (digits.drop point.toNat)
  else "0." ++ zeros (-point) ++ String.ofList digits

def scientific (digits : List Char) (tens : Int) : String :=
  let fraction := digits.drop 1
  String.ofList (digits.take 1) ++ (if fraction.isEmpty then "" else "." ++ String.ofList fraction)
    ++ "e" ++ toString ((digits.length : Int) + tens - 1)

def signText (negative : Bool) : String :=
  if negative then "-" else ""

def plainText : Real → String
  | .infinite negative => signText negative ++ "inf"
  | .notANumber => "NaN"
  | .finite negative significand power =>
      if significand == 0 then signText negative ++ "0.0"
      else
        let (digits, tens) := shortest significand power
        signText negative ++ positional (Nat.toDigits 10 digits) tens

/-- The real as a document writes it: with a power of ten if the point would stand far outside the
digits. -/
def text : Real → String
  | .infinite negative => signText negative ++ ".inf"
  | .notANumber => ".nan"
  | .finite negative significand power =>
      if significand == 0 then signText negative ++ "0.0"
      else
        let (digits, tens) := shortest significand power
        let written := Nat.toDigits 10 digits
        let point := (written.length : Int) + tens
        signText negative
          ++ (if -5 < point && point ≤ 16 then positional written tens
              else scientific written tens)

end Real

end SuiteOutline.Document
