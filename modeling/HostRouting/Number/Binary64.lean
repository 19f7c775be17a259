import HostRouting.Number.Numeral

/-!
# Binary64 numbers

The floating-point numbers of a document, as exact data: a sign and a whole number times a power
of two.  Reading a decimal rounds the exact value once, to the nearest number of the format and to
the even one of two that are equally near.
-/

namespace HostRouting

/-- The size of a finite number, `mantissa * 2 ^ exponent`, in the one form that the format has
for it: 53 bits as long as the exponent allows. -/
structure Magnitude where
  mantissa : Nat
  exponent : Int
  canonical : mantissa < Nat.pow 2 53 ∧ -1074 ≤ exponent ∧ exponent ≤ 971 ∧
    (Nat.pow 2 52 ≤ mantissa ∨ exponent = -1074)
  deriving DecidableEq

inductive Binary64 where
  | nan
  | infinity (negative : Bool)
  | finite (negative : Bool) (magnitude : Magnitude)
  deriving DecidableEq

namespace Magnitude

def zero : Magnitude :=
  ⟨0, -1074, by decide⟩

def ofParts? (mantissa : Nat) (exponent : Int) : Option Magnitude :=
  if canonical : mantissa < Nat.pow 2 53 ∧ -1074 ≤ exponent ∧ exponent ≤ 971 ∧
      (Nat.pow 2 52 ≤ mantissa ∨ exponent = -1074) then
    some ⟨mantissa, exponent, canonical⟩
  else
    none

/-- The whole number nearest to a quotient; of two equally near ones the even one. -/
def nearestEven (numerator denominator : Nat) : Nat :=
  let quotient := numerator / denominator
  let remainder := numerator % denominator
  if 2 * remainder < denominator then quotient
  else if denominator < 2 * remainder then quotient + 1
  else if quotient % 2 = 0 then quotient
  else quotient + 1

/-- A quotient divided by a power of two, again as numerator and denominator. -/
def scaled (numerator denominator : Nat) (exponent : Int) : Nat × Nat :=
  if 0 ≤ exponent then (numerator, denominator * Nat.pow 2 exponent.toNat)
  else (numerator * Nat.pow 2 (-exponent).toNat, denominator)

/-- The exponent of the largest power of two that is not above a positive quotient. -/
def leadingExponent (numerator denominator : Nat) : Int :=
  let estimate : Int := (numerator.log2 : Int) - (denominator.log2 : Int)
  let (above, below) := scaled numerator denominator estimate
  if below ≤ above then estimate else estimate - 1

/-- The size nearest to a positive quotient, or nothing if it is too large for the format. -/
def ofQuotient? (numerator denominator : Nat) : Option Magnitude :=
  let exponent := max (leadingExponent numerator denominator - 52) (-1074)
  let (above, below) := scaled numerator denominator exponent
  let mantissa := nearestEven above below
  if mantissa = Nat.pow 2 53 then ofParts? (Nat.pow 2 52) (exponent + 1)
  else ofParts? mantissa exponent

/-- The size nearest to `number * 10 ^ exponent`, or nothing if it is too large for the format.
Powers of ten are only computed once the number of places shows that they matter. -/
def ofDecimal? (number : Nat) (exponent : Int) : Option Magnitude :=
  let places : Int := (Decimal.digits number).length
  if number = 0 then some zero
  else if 310 ≤ places + exponent then none
  else if places + exponent ≤ -324 then some zero
  else if 0 ≤ exponent then ofQuotient? (number * Nat.pow 10 exponent.toNat) 1
  else ofQuotient? number (Nat.pow 10 (-exponent).toNat)

def whole? (magnitude : Magnitude) : Option Nat :=
  let divisor := Nat.pow 2 (-magnitude.exponent).toNat
  if 0 ≤ magnitude.exponent then some (magnitude.mantissa * Nat.pow 2 magnitude.exponent.toNat)
  else if magnitude.mantissa % divisor = 0 then some (magnitude.mantissa / divisor)
  else none

end Magnitude

namespace Binary64

/-- The number nearest to `± number * 10 ^ exponent`.  Of the decimals that are too large for the
format, the negative ones become negative infinity and the positive ones have no number. -/
def ofDecimal? (negative : Bool) (number : Nat) (exponent : Int) : Option Binary64 :=
  match Magnitude.ofDecimal? number exponent with
  | some magnitude => some (.finite negative magnitude)
  | none => if negative then some (.infinity true) else none

def whole? : Binary64 → Option Int
  | .nan => none
  | .infinity _ => none
  | .finite negative magnitude =>
      magnitude.whole?.map fun size => if negative then -(size : Int) else (size : Int)

/-- A number without fraction as a signed 64-bit number; beyond the range, its nearer end. -/
def toSigned64? (number : Binary64) : Option Int64 :=
  number.whole?.map Signed64.clamp

end Binary64

end HostRouting
