import HostRouting.Toml.Assembly
import HostRouting.Toml.Scalar

/-!
# Documents

Reading a TOML 1.0 document.  A text that breaks a rule of the format is refused as a whole.

A date may also be written as a table whose first key is a reserved name, the tag, and holds the
text of the date.  A value of a document that is such a table is the date; what else the table
holds does not matter.  The document itself is always a table, whatever its first key.
-/

namespace HostRouting.Toml

/-! ## Tagged dates -/

/-- The name under which a table holds the text of a date. -/
def dateTag : String := "$__toml_private_datetime"

/-- What a table holds under the tag, if that is its first key. -/
def Table.tagged? : Table → Option Value
  | [] => none
  | (key, content) :: _ => if key = dateTag then some content else none

def Value.taggedDate? (content : Value) : Option Datetime :=
  content.string?.bind fun text => Datetime.ofText? Datetime.quotedSeparators text.toList

mutual

/-- The value with the dates in it in place of the tables that stand for them.  A table with the
tag but without the text of a date is refused. -/
def Value.untagged? : Value → Option Value
  | .array items => (Value.untaggedItems? items).map .array
  | .table entries =>
      match Table.tagged? entries with
      | some content => content.taggedDate?.map .datetime
      | none => (Table.untagged? entries).map .table
  | value => some value

def Value.untaggedItems? : List Value → Option (List Value)
  | [] => some []
  | item :: items => do
      let item ← item.untagged?
      let items ← Value.untaggedItems? items
      some (item :: items)

def Table.untagged? : List (String × Value) → Option Table
  | [] => some []
  | (key, value) :: entries => do
      let value ← value.untagged?
      let entries ← Table.untagged? entries
      some ((key, value) :: entries)

end

/-! ## Reading -/

/-- Arrays and inline tables stand in one another at most this deep. -/
def maxNesting : Nat := 79

/-- The items of an array, whose opening bracket or last comma has been read.  There are fewer of
them than given. -/
def readItems (item : Reader Value) : Nat → Reader (List Value)
  | 0, _ => none
  | count + 1, text =>
      match skipFiller text with
      | ']' :: rest => some ([], rest)
      | start => do
          let (value, rest) ← item start
          match skipFiller rest with
          | ']' :: after => some ([value], after)
          | ',' :: more =>
              let (values, after) ← readItems item count more
              some (value :: values, after)
          | _ => none

def readEntry (item : Reader Value) : Reader (Key × Value) := fun text => do
  let (key, rest) ← Key.read text
  let (value, rest) ← item (skipSpaces (← expect '=' rest))
  some ((key, value), skipSpaces rest)

/-- The entries of an inline table up to its closing brace: at least one, and at most as many as
given. -/
def readEntries (item : Reader Value) : Nat → Reader (List (Key × Value))
  | 0, _ => none
  | count + 1, text => do
      let (entry, rest) ← readEntry item text
      match rest with
      | '\x7D' :: after => some ([entry], after)
      | ',' :: more =>
          let (entries, after) ← readEntries item count more
          some (entry :: entries, after)
      | _ => none

/-- The entries of an inline table, whose opening brace has been read. -/
def readInline (item : Reader Value) (limit : Nat) : Reader (List (Key × Value)) := fun text =>
  match skipSpaces text with
  | '\x7D' :: rest => some ([], rest)
  | rest => readEntries item limit rest

/-- A value in which arrays and inline tables are nested at most as deep as given.  Each of them
has fewer members than the limit, for which the length of the document will do. -/
def readValue (limit : Nat) : Nat → Reader Value
  | _, [] => none
  | depth, character :: rest =>
      match Quotation.ofMark? character with
      | some kind =>
          (kind.content rest).map fun (content, after) =>
            (.string (String.ofList content), after)
      | none =>
          match depth, character with
          | depth + 1, '[' =>
              (readItems (readValue limit depth) limit rest).map fun (items, after) =>
                (.array items, after)
          | depth + 1, '\x7B' => do
              let (entries, after) ← readInline (readValue limit depth) limit rest
              let table ← Table.ofEntries? entries
              some (.table table, after)
          | _, _ => readWord (character :: rest)

def readStatement (limit : Nat) : Reader Statement
  | '[' :: '[' :: rest => do
      let (key, rest) ← Key.read rest
      some (.element key, ← expect ']' (← expect ']' rest))
  | '[' :: rest => do
      let (key, rest) ← Key.read rest
      some (.header key, ← expect ']' rest)
  | text => do
      let ((key, value), rest) ← readEntry (readValue limit maxNesting) text
      some (.entry key value, rest)

/-- The lines of a document that say something, of which there are at most as many as given. -/
def readStatements (limit : Nat) : Nat → List Char → Option (List Statement)
  | 0, text => if skipFiller text = [] then some [] else none
  | count + 1, text =>
      match skipFiller text with
      | [] => some []
      | start => do
          let (statement, rest) ← readStatement limit start
          let statements ← readStatements limit count (← finishLine rest)
          some (statement :: statements)

/-- The document that a text holds.  A byte order mark at its start is passed over.  Nothing in a
document can have more members than the document has characters. -/
def document? (text : String) : Option Table :=
  let characters := match text.toList with
    | '\uFEFF' :: rest => rest
    | characters => characters
  let limit := characters.length
  ((readStatements limit limit characters).bind Table.ofStatements?).bind Table.untagged?

end HostRouting.Toml
