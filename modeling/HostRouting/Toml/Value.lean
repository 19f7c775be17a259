import HostRouting.Number.Shortest
import HostRouting.Toml.Datetime

/-!
# Document values

A document is a table.  A table lists its entries in the order in which the text begins them, and
no key occurs in it twice.
-/

namespace HostRouting.Toml

inductive Value where
  | string (content : String)
  | integer (number : Int64)
  | float (number : Binary64)
  | boolean (flag : Bool)
  | datetime (moment : Datetime)
  | array (items : List Value)
  | table (entries : List (String × Value))

/-- A table: its entries in document order. -/
abbrev Table := List (String × Value)

namespace Value

def string? : Value → Option String
  | .string content => some content
  | _ => none

def array? : Value → Option (List Value)
  | .array items => some items
  | _ => none

def table? : Value → Option Table
  | .table entries => some entries
  | _ => none

/-- A value as a whole number: an integer, a float without fraction, or a string that holds a
decimal number. -/
def integer? : Value → Option Int64
  | .integer number => some number
  | .float number => number.toSigned64?
  | .string content => Signed64.ofText? content
  | _ => none

/-- The text of a value that is not made of others. -/
def scalarText? : Value → Option String
  | .string content => some content
  | .integer number => some (Signed64.text number)
  | .float number => some number.text
  | .boolean true => some "true"
  | .boolean false => some "false"
  | .datetime moment => some moment.text
  | .array _ => none
  | .table _ => none

theorem scalarText?_eq_some_iff {value : Value} {text : String} :
    value.scalarText? = some text ↔
      value = .string text ∨
      (∃ number, value = .integer number ∧ text = number.toInt.repr) ∨
      (∃ number, value = .float number ∧ text = number.text) ∨
      (value = .boolean true ∧ text = "true") ∨ (value = .boolean false ∧ text = "false") ∨
      ∃ moment, value = .datetime moment ∧ text = moment.text := by
  cases value with
  | integer number => simp [scalarText?, Signed64.text_eq_repr, eq_comm]
  | boolean flag => cases flag <;> simp [scalarText?, eq_comm]
  | _ => simp [scalarText?, eq_comm]

end Value

end HostRouting.Toml
