import HostRouting.Text

/-!
# Numerals

Digits of all bases up to sixteen, with letters of either case for ten and more; natural numbers
written with the ten ASCII digits, and read back from them; and the numbers that 64 bits hold with
a sign.

Every whole number of a configuration is one of the last.  A number from outside their range is
either refused (`Signed64.ofInt?`) or moved to the nearer end of the range (`Signed64.clamp`).
-/

namespace HostRouting

namespace Digit

def value? (digit : Char) : Option Nat :=
  if '0' ≤ digit ∧ digit ≤ '9' then some (digit.toNat - '0'.toNat)
  else if 'a' ≤ digit ∧ digit ≤ 'f' then some (digit.toNat - 'a'.toNat + 10)
  else if 'A' ≤ digit ∧ digit ≤ 'F' then some (digit.toNat - 'A'.toNat + 10)
  else none

def inBase? (base : Nat) (digit : Char) : Option Nat :=
  (value? digit).filter (· < base)

def number (base : Nat) (values : List Nat) : Nat :=
  values.foldl (base * · + ·) 0

/-- The digit with a value below sixteen, a small letter for ten and more. -/
def character (value : Nat) : Char :=
  if value < 10 then Char.ofNat ('0'.toNat + value) else Char.ofNat ('a'.toNat + value - 10)

end Digit

/-! ## Decimal rows of digits -/

namespace Decimal

def digits (number : Nat) : List Char :=
  Nat.toDigits 10 number

/-- The decimal digits of a number, filled up with zeros on the left to the given width. -/
def padded (width number : Nat) : List Char :=
  List.replicate (width - (digits number).length) '0' ++ digits number

def value (row : List Char) : Nat :=
  Nat.ofDigitChars 10 row 0

def natural? (row : List Char) : Option Nat :=
  if row ≠ [] ∧ row.all Char.isDigit then some (value row) else none

/-- The number that a row of digits denotes after at most one sign. -/
def integer? : List Char → Option Int
  | '-' :: row => (natural? row).map fun number => -(number : Int)
  | '+' :: row => (natural? row).map fun number => (number : Int)
  | row => (natural? row).map fun number => (number : Int)

theorem value_digits (number : Nat) : value (digits number) = number :=
  Nat.ofDigitChars_toDigits (by decide) (by decide)

end Decimal

/-! ## Signed 64-bit numbers -/

namespace Signed64

def InRange (number : Int) : Prop :=
  Int64.minValue.toInt ≤ number ∧ number ≤ Int64.maxValue.toInt

instance (number : Int) : Decidable (InRange number) :=
  inferInstanceAs
    (Decidable (Int64.minValue.toInt ≤ number ∧ number ≤ Int64.maxValue.toInt))

def ofInt? (number : Int) : Option Int64 :=
  if InRange number then some (Int64.ofInt number) else none

def clamp (number : Int) : Int64 :=
  if InRange number then Int64.ofInt number
  else if number < 0 then Int64.minValue
  else Int64.maxValue

/-- Reads a number from text: blanks at both ends are passed over, and there remain at most one
sign and at least one decimal digit. -/
def ofText? (text : String) : Option Int64 :=
  (Decimal.integer? (Text.trimmed text.toList)).bind ofInt?

def text (number : Int64) : String :=
  match number.toInt with
  | .ofNat magnitude => String.ofList (Decimal.digits magnitude)
  | .negSucc magnitude => String.ofList ('-' :: Decimal.digits (magnitude + 1))

/-- The text of a number is the one that the core has for it. -/
theorem text_eq_repr (number : Int64) : text number = number.toInt.repr := by
  rw [text]
  cases number.toInt with
  | ofNat magnitude => rfl
  | negSucc magnitude => exact @String.ofList_append ['-'] (Decimal.digits (magnitude + 1))

end Signed64

end HostRouting
