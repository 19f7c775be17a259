import HostRouting.Number.Binary64

/-!
# The shortest decimal text of a binary64 number

A finite number is written with the fewest decimal digits that read back as the same number.
Where several rows of that many digits do, the nearest to the number is taken, and the larger one
of two that are equally near.  The digits are always written out in positional form.

Everything is computed on whole numbers: a size and the two ends of the interval of values that
read back as it are multiples of one common decimal unit, `10 ^ (-places)`.
-/

namespace HostRouting

/-- The values that read back as one number, as multiples of a decimal unit.  The ends belong to
the interval exactly if the mantissa of the number is even. -/
structure ReadBack where
  low : Nat
  center : Nat
  high : Nat
  closed : Bool

namespace ReadBack

/-- Whether a value reads back as the number. -/
def holds (interval : ReadBack) (value : Nat) : Bool :=
  if interval.closed then interval.low ≤ value && value ≤ interval.high
  else interval.low < value && value < interval.high

/-- Of the two multiples of a step around the number, the one to write: it reads back, and it is
the nearer one if both do. -/
def multiple? (interval : ReadBack) (step : Nat) : Option Nat :=
  let below := interval.center / step * step
  let above := below + step
  match interval.holds below, interval.holds above with
  | true, true =>
      if interval.center - below < above - interval.center then some below else some above
  | true, false => some below
  | false, true => some above
  | false, false => none

/-- The value to write, if multiples of `10 ^ zeros` and of all smaller powers of ten are
allowed: the one that ends in the most zeros. -/
def shortest (interval : ReadBack) : Nat → Nat
  | 0 => interval.center
  | zeros + 1 =>
      match interval.multiple? (Nat.pow 10 (zeros + 1)) with
      | some value => value
      | none => interval.shortest zeros

end ReadBack

namespace Magnitude

/-- The number of decimal places with which a size and the ends of its interval are exact. -/
def places (magnitude : Magnitude) : Nat :=
  (2 - magnitude.exponent).toNat

/-- The interval of values that read back as a size.  Below a power of two the neighbour is half
as far away, except where the format has no smaller exponent. -/
def readBack (magnitude : Magnitude) : ReadBack :=
  let quarter := if magnitude.exponent < 2 then Nat.pow 5 magnitude.places
    else Nat.pow 2 (magnitude.exponent - 2).toNat
  let lower := if magnitude.mantissa = Nat.pow 2 52 ∧ magnitude.exponent ≠ -1074 then 1 else 2
  { low := (4 * magnitude.mantissa - lower) * quarter
    center := 4 * magnitude.mantissa * quarter
    high := (4 * magnitude.mantissa + 2) * quarter
    closed := magnitude.mantissa % 2 = 0 }

/-- A multiple of `10 ^ (-places)` in positional form, without zeros at the end of the fraction. -/
def positional (places value : Nat) : List Char :=
  let whole := Decimal.digits (value / Nat.pow 10 places)
  let fraction := Decimal.padded places (value % Nat.pow 10 places)
  match (fraction.reverse.dropWhile (· == '0')).reverse with
  | [] => whole
  | kept => whole ++ '.' :: kept

def text (magnitude : Magnitude) : List Char :=
  if magnitude.mantissa = 0 then ['0']
  else
    let interval := magnitude.readBack
    let digits := (Decimal.digits interval.center).length
    positional magnitude.places (interval.shortest (digits - 1))

end Magnitude

namespace Binary64

def text : Binary64 → String
  | .nan => "NaN"
  | .infinity false => "inf"
  | .infinity true => "-inf"
  | .finite false magnitude => String.ofList magnitude.text
  | .finite true magnitude => String.ofList ('-' :: magnitude.text)

end Binary64

end HostRouting
