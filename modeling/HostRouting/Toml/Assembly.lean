import HostRouting.Toml.Key
import HostRouting.Toml.Value

/-!
# Assembling tables

The lines of a document and the entries of an inline table say, one after another, what a table
holds.  Assembling them keeps, for each table, how it came to be, because that decides what may
still be added to it:

* a table with a header of its own is complete but for its own lines and its subtables,
* a table that only stands above another one in a header may still get a header of its own,
* a table that a dotted key has made may be extended by further dotted keys.

An entry keeps the place that its key was given when it was new.  Only a table that was implied and
then gets its own header moves: it stands where a table with that header would be new.
-/

namespace HostRouting.Toml

inductive Origin where
  | header
  | implied
  | dotted
  deriving DecidableEq

/-- What a key of an unfinished table stands for: a value, a table, or an array of tables, of
which only the last can still change. -/
inductive Item where
  | value (content : Value)
  | table (origin : Origin) (entries : List (String × Item))
  | tables (finished : List Value) (last : List (String × Item))

abbrev Items := List (String × Item)

mutual

def Item.toValue : Item → Value
  | .value content => content
  | .table _ entries => .table (Items.toTable entries)
  | .tables finished last => .array (finished ++ [.table (Items.toTable last)])

def Items.toTable : List (String × Item) → Table
  | [] => []
  | (key, item) :: rest => (key, item.toValue) :: Items.toTable rest

end

namespace Items

/-- Changes what a key stands for, or adds the key at the end. -/
def alter (key : String) (change : Option Item → Option Item) : Items → Option Items
  | [] => (change none).map fun item => [(key, item)]
  | (other, item) :: rest =>
      if other = key then (change (some item)).map fun item => (key, item) :: rest
      else (alter key change rest).map ((other, item) :: ·)

/-- Changes the table that headers reach through a row of names.  Names without entry become
implied tables; an array of tables is entered at its last table. -/
def inside (change : Items → Option Items) : List String → Items → Option Items
  | [], items => change items
  | name :: names, items =>
      items.alter name fun
        | none => (inside change names []).map (.table .implied)
        | some (.table origin inner) => (inside change names inner).map (.table origin)
        | some (.tables finished last) => (inside change names last).map (.tables finished)
        | some (.value _) => none

def without (key : String) (items : Items) : Items :=
  items.filter fun item => item.1 != key

/-- Starts the table of a header as the last of its items.  Its key is new, or only implied so
far; in the latter case the table keeps what it holds. -/
def openTable (name : String) (items : Items) : Option Items :=
  match items.lookup name with
  | none => some (items ++ [(name, .table .header [])])
  | some (.table .implied inner) => some (items.without name ++ [(name, .table .header inner)])
  | some _ => none

/-- Starts the next table of an array of tables, or the array with its first table. -/
def openElement (name : String) (items : Items) : Option Items :=
  items.alter name fun
    | none => some (.tables [] [])
    | some (.tables finished last) => some (.tables (finished ++ [.table (toTable last)]) [])
    | some _ => none

/-- Adds an entry.  Its key must be new, and the table right above it must be the one in which
the key is written, or else one that dotted keys have made; above that, implied tables and arrays
of tables may be passed through as well. -/
def addEntry (name : String) (content : Value) : List String → Items → Option Items
  | [], items =>
      items.alter name fun
        | none => some (.value content)
        | some _ => none
  | parent :: parents, items =>
      items.alter parent fun
        | none => (addEntry name content parents []).map (.table .dotted)
        | some (.table .dotted inner) =>
            (addEntry name content parents inner).map (.table .dotted)
        | some (.table .implied inner) =>
            if parents = [] then none
            else (addEntry name content parents inner).map (.table .implied)
        | some (.tables finished last) =>
            if parents = [] then none
            else (addEntry name content parents last).map (.tables finished)
        | some (.table .header _) => none
        | some (.value _) => none

end Items

/-- The table that a list of keyed values describes, as in an inline table. -/
def Table.ofEntries? (entries : List (Key × Value)) : Option Table :=
  (entries.foldlM (fun items entry =>
    Items.addEntry entry.1.name entry.2 entry.1.parents items) []).map Items.toTable

/-- A line of a document that says something. -/
inductive Statement where
  | header (key : Key)
  | element (key : Key)
  | entry (key : Key) (content : Value)

/-- A document up to some line: its items, and the names that lead to the table to which entries
are now added. -/
structure Draft where
  items : Items
  current : List String

def Draft.add (draft : Draft) : Statement → Option Draft
  | .header key =>
      (draft.items.inside (Items.openTable key.name) key.parents).map fun items =>
        ⟨items, key.names⟩
  | .element key =>
      (draft.items.inside (Items.openElement key.name) key.parents).map fun items =>
        ⟨items, key.names⟩
  | .entry key content =>
      (draft.items.inside (Items.addEntry key.name content key.parents) draft.current).map
        fun items => ⟨items, draft.current⟩

def Table.ofStatements? (statements : List Statement) : Option Table :=
  (statements.foldlM Draft.add ⟨[], []⟩).map fun draft => Items.toTable draft.items

end HostRouting.Toml
