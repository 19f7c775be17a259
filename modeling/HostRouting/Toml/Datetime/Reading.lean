import HostRouting.Number.Numeral
import HostRouting.Toml.Datetime
import HostRouting.Toml.Lexeme

/-!
# Reading dates and times

Dates and times have one shape wherever they stand, that of RFC 3339, and have to be ones of the
calendar and the clock.  What stands between a date and a time depends on the place: a blank is a
separator only where it does not end the text that is read.
-/

namespace HostRouting.Toml.Datetime

/-- What may stand between the date and the time of a bare word. -/
def bareSeparators : List Char := ['T', 't']

/-- What may stand between a date and a time that are quoted together. -/
def quotedSeparators : List Char := ['T', 't', ' ']

def readFixed (count : Nat) : Reader Nat := fun text => do
  let digits ← (text.take count).mapM (Digit.inBase? 10)
  if digits.length = count then some (Digit.number 10 digits, text.drop count) else none

def readDate : Reader Date := fun text => do
  let (year, text) ← readFixed 4 text
  let (month, text) ← readFixed 2 (← expect '-' text)
  let (day, text) ← readFixed 2 (← expect '-' text)
  let date : Date := ⟨year, month, day⟩
  if date.isValid then some (date, text) else none

/-- The fraction of a second, of which nine digits count. -/
def readNanosecond : Reader Nat
  | '.' :: rest => do
      let (row, after) := takeRun Char.isDigit rest
      let digits ← row.mapM (Digit.inBase? 10)
      if digits = [] then none
      else some (Digit.number 10 ((digits ++ List.replicate 9 0).take 9), after)
  | text => some (0, text)

def readTime : Reader Time := fun text => do
  let (hour, text) ← readFixed 2 text
  let (minute, text) ← readFixed 2 (← expect ':' text)
  let (second, text) ← readFixed 2 (← expect ':' text)
  let (nanosecond, text) ← readNanosecond text
  let time : Time := ⟨hour, minute, second, nanosecond⟩
  if time.isValid then some (time, text) else none

/-- How many minutes an offset amounts to, without its sign.  It is a time of day as well. -/
def distance? (text : List Char) : Option Nat := do
  let (hours, rest) ← readFixed 2 text
  let (minutes, rest) ← readFixed 2 (← expect ':' rest)
  if rest = [] ∧ hours ≤ 23 ∧ minutes ≤ 59 then some (60 * hours + minutes) else none

def offset? : List Char → Option Offset
  | ['Z'] => some .utc
  | ['z'] => some .utc
  | '+' :: rest => (distance? rest).map fun distance => .minutes distance
  | '-' :: rest => (distance? rest).map fun distance => .minutes (-(distance : Int))
  | _ => none

def date? (text : List Char) : Option Date := do
  let (date, rest) ← readDate text
  if rest = [] then some date else none

/-- A date, a time, or both with a separator between them and an optional offset. -/
def ofText? (separators : List Char) (text : List Char) : Option Datetime :=
  match readDate text with
  | some (date, []) => some (.localDate date)
  | some (date, separator :: rest) => do
      let (time, after) ← readTime rest
      if separator ∉ separators then none
      else if after = [] then some (.localDateTime date time)
      else (offset? after).map (.offsetDateTime date time)
  | none => do
      let (time, rest) ← readTime text
      if rest = [] then some (.localTime time) else none

end HostRouting.Toml.Datetime
