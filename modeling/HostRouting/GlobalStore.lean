import HostRouting.Audited
import HostRouting.Record
import HostRouting.SearchTree
import HostRouting.Text

/-!
# Settings and media types

Two maps hold for the whole process: settings by key, and media types by file extension.  Both are
filled from a table of the document and are write-once: a key that has a value keeps it, and giving
it another one fails.

Extensions are stored back to front.  A path that is read back to front then starts with the
extensions that it ends in, and the longest of them is the longest stored prefix.
-/

namespace HostRouting

open Toml (Value)

def GlobalMap.storedKey (map : GlobalMap) (key : String) : List UInt8 :=
  match map with
  | .settings => Utf8.bytes key
  | .mimeTypes => Utf8.bytes (String.ofList key.toList.reverse)

structure GlobalStore (map : GlobalMap) where
  tree : SearchTree String := {}

namespace GlobalStore

variable {map : GlobalMap}

def get? (store : GlobalStore map) (key : String) : Option String :=
  store.tree.find? (map.storedKey key)

/-- Gives a key its value; a key that has one is refused. -/
def add (key value : String) (store : GlobalStore map) : Except Failure (GlobalStore map) :=
  if store.tree.contains (map.storedKey key) then .error (.duplicateKey map key)
  else .ok ⟨(store.tree.insert (map.storedKey key) value).2⟩

def size (store : GlobalStore map) : Nat :=
  store.tree.size

def isEmpty (store : GlobalStore map) : Bool :=
  store.tree.isEmpty

def addEntry (record : Record) (entry : String × Value) : Audited (GlobalStore map) Unit :=
  match entry.2.scalarText? with
  | some text => .update (add entry.1 text)
  | none => .ofExcept (.error (record.missing entry.1))

/-- Adds all entries of the table of the document that belongs to the map, and returns how many
there are.  Entries before one that fails stay. -/
def load (root : Record) : Audited (GlobalStore map) Nat := do
  let record ← .ofExcept (root.subtable map.name)
  let count ← Audited.countEach (addEntry record) record.table
  Audited.emit (.mapLoaded map count)
  return count

end GlobalStore

abbrev Settings := GlobalStore .settings

abbrev MimeTypes := GlobalStore .mimeTypes

/-- The number that a setting holds.  An absent setting has the default value, and so has one that
holds no number, which is reported. -/
def Settings.integer (key : String) (default : Int64) : Audited Settings Int64 := do
  let settings ← Audited.get
  match settings.get? key with
  | none => return default
  | some text =>
      match Signed64.ofText? text with
      | some number => return number
      | none =>
          Audited.emit (.settingNotInteger key text default)
          return default

/-- The media type for a path: that of the longest known extension in which the path ends. -/
def MimeTypes.lookup? (mimeTypes : MimeTypes) (path : String) : Option String :=
  mimeTypes.tree.longestPrefix? (GlobalMap.mimeTypes.storedKey path)

def MimeTypes.lookupOr (mimeTypes : MimeTypes) (path default : String) : String :=
  (mimeTypes.lookup? path).getD default

structure Globals where
  settings : Settings := {}
  mimeTypes : MimeTypes := {}

/-- Fills both maps from a document, the settings first. -/
def Globals.load (root : Record) : Audited Globals Unit := do
  let _ ← Audited.within Globals.settings
    (fun settings globals => { globals with settings }) (GlobalStore.load root)
  let _ ← Audited.within Globals.mimeTypes
    (fun mimeTypes globals => { globals with mimeTypes }) (GlobalStore.load root)

end HostRouting
