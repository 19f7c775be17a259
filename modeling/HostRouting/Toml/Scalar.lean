import HostRouting.Toml.Datetime.Reading
import HostRouting.Toml.Quoted
import HostRouting.Toml.Value

/-!
# Values written as words

Numbers, dates, times and the two truth values are words: rows of letters, digits and the signs
`+ - . : _`.  No word is of two kinds, so each kind is read on its own.
-/

namespace HostRouting.Toml

def isWordCharacter (character : Char) : Bool :=
  character.isAlphanum || character == '+' || character == '-' || character == '.' ||
    character == ':' || character == '_'

namespace Word

/-- A row of digits of a base in which single underscores may stand between digits: the values of
the digits. -/
def grouped (base : Nat) : List Char → Option (List Nat)
  | [] => none
  | [last] => (Digit.inBase? base last).map fun value => [value]
  | first :: '_' :: rest => do
      let value ← Digit.inBase? base first
      let values ← grouped base rest
      some (value :: values)
  | first :: rest => do
      let value ← Digit.inBase? base first
      let values ← grouped base rest
      some (value :: values)

def natural? (base : Nat) (row : List Char) : Option Int :=
  (grouped base row).map fun values => (Digit.number base values : Int)

/-- A decimal row of digits that does not start with a needless zero. -/
def decimal (row : List Char) : Option (List Nat) := do
  let values ← grouped 10 row
  if values.length = 1 ∨ values.head? ≠ some 0 then some values else none

/-- Whether a word has a minus sign, and the word without its sign. -/
def sign : List Char → Bool × List Char
  | '-' :: rest => (true, rest)
  | '+' :: rest => (false, rest)
  | word => (false, word)

def signed (negative : Bool) (size : Int) : Int :=
  if negative then -size else size

/-- An exact whole number: decimal with an optional sign, or unsigned in base 16, 8 or 2. -/
def integer? : List Char → Option Int
  | '0' :: 'x' :: row => natural? 16 row
  | '0' :: 'o' :: row => natural? 8 row
  | '0' :: 'b' :: row => natural? 2 row
  | word =>
      let (negative, row) := sign word
      (decimal row).map fun values => signed negative (Digit.number 10 values)

def isGroupedDigit (character : Char) : Bool :=
  character.isDigit || character == '_'

def fraction? : List Char → Option (List Nat × List Char)
  | '.' :: rest =>
      let (row, after) := takeRun isGroupedDigit rest
      (grouped 10 row).map fun values => (values, after)
  | word => some ([], word)

/-- The power of ten after the letter for it, which is zero if the word ends before. -/
def power? : List Char → Option Int
  | [] => some 0
  | letter :: rest =>
      if letter = 'e' ∨ letter = 'E' then
        let (negative, row) := sign rest
        (natural? 10 row).map (signed negative)
      else none

/-- A floating-point number: a decimal with a fraction, a power of ten or both, or one of the
names for what is no finite number. -/
def float? (word : List Char) : Option Binary64 :=
  let (negative, body) := sign word
  if body = ['i', 'n', 'f'] then some (.infinity negative)
  else if body = ['n', 'a', 'n'] then some .nan
  else do
    let (row, rest) := takeRun isGroupedDigit body
    let whole ← decimal row
    let (fraction, after) ← fraction? rest
    let power ← power? after
    if rest = [] then none
    else
      Binary64.ofDecimal? negative (Digit.number 10 (whole ++ fraction)) (power - fraction.length)

def value? (word : List Char) : Option Value :=
  if word = ['t', 'r', 'u', 'e'] then some (.boolean true)
  else if word = ['f', 'a', 'l', 's', 'e'] then some (.boolean false)
  else
    ((integer? word).bind Signed64.ofInt?).map Value.integer
      |>.or ((float? word).map Value.float)
      |>.or ((Datetime.ofText? Datetime.bareSeparators word).map Value.datetime)

end Word

/-- Reads a value that is a word.  One blank may stand for the letter between a date and a
time. -/
def readWord : Reader Value := fun text =>
  let (word, rest) := takeRun isWordCharacter text
  let alone := (Word.value? word).map fun value => (value, rest)
  match Datetime.date? word, rest with
  | some _, ' ' :: more =>
      let (time, after) := takeRun isWordCharacter more
      if time = [] then alone
      else (Word.value? (word ++ 'T' :: time)).map fun value => (value, after)
  | _, _ => alone

end HostRouting.Toml
