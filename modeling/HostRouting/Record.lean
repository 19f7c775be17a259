import HostRouting.Audited
import HostRouting.Toml.Document

/-!
# Records

A record is a table of a document together with a label that says where it stands.  Its fields are
read by name and with the type that is expected of them; a field that is absent or of another type
is a failure that names the label and the field.

The first record is that of a whole document.  Files are read elsewhere; what is needed here is the
content of a file, or the fault in reading it.
-/

namespace HostRouting

open Toml (Table Value)

structure Record where
  label : String
  table : Table

namespace Record

def root (document : Table) : Record :=
  ⟨"config", document⟩

def get? (record : Record) (field : String) : Option Value :=
  record.table.lookup field

def missing (record : Record) (field : String) : Failure :=
  .missingField record.label field

def read (record : Record) (field : String) {α : Type} (as? : Value → Option α) :
    Except Failure α :=
  match (record.get? field).bind as? with
  | some content => .ok content
  | none => .error (record.missing field)

def string (record : Record) (field : String) : Except Failure String :=
  record.read field Value.string?

/-- A field that holds a whole number, in one of the three ways to write one. -/
def integer (record : Record) (field : String) : Except Failure Int64 :=
  record.read field Value.integer?

/-- A value as a flag: a truth value, or a number, which counts as true unless it is zero. -/
def flag? : Value → Option Bool
  | .boolean flag => some flag
  | value => value.integer?.map fun number => number != 0

def flag (record : Record) (field : String) : Except Failure Bool :=
  record.read field flag?

def array (record : Record) (field : String) : Except Failure (List Value) :=
  record.read field Value.array?

def subtable (record : Record) (field : String) : Except Failure Record :=
  (record.read field Value.table?).map fun table => ⟨record.label ++ " " ++ field, table⟩

/-- How an item of an array is called; items are counted from one. -/
def itemName (field : String) (position : Nat) : String :=
  field ++ "[" ++ String.ofList (Decimal.digits (position + 1)) ++ "]"

/-- An item of an array as a record, or the failure that it is no table. -/
def item (record : Record) (field : String) (position : Nat) (value : Value) :
    Except Failure Record :=
  match value.table? with
  | some table => .ok ⟨record.label ++ " " ++ itemName field position, table⟩
  | none => .error (record.missing (itemName field position))

def records (record : Record) (field : String) : Except Failure (List (Except Failure Record)) :=
  (record.array field).map fun items => items.mapIdx (record.item field)

def ofFile {σ : Type} (path : String) (content : Except FileFault String) :
    Audited σ Record := do
  let text ← .ofExcept (content.mapError Failure.unreadable)
  match Toml.document? text with
  | none => .ofExcept (.error .malformed)
  | some document =>
      Audited.emit (.documentRead path)
      return .root document

end Record

end HostRouting
