import HostRouting.Toml.Quoted

/-!
# Keys

A key is a row of names with points between them: the tables to pass through and the name of the
entry itself.
-/

namespace HostRouting.Toml

/-- Where an entry or a table stands, seen from the table in which the key is written. -/
structure Key where
  parents : List String
  name : String
  deriving DecidableEq

namespace Key

def maxNames : Nat := 79

def names (key : Key) : List String :=
  key.parents ++ [key.name]

/-- The key with one more name at its front. -/
def below (parent : String) (key : Key) : Key :=
  ⟨parent :: key.parents, key.name⟩

def isBare (character : Char) : Bool :=
  character.isAlphanum || character == '-' || character == '_'

/-- One name: quoted on one line, or a row of bare characters. -/
def readName : Reader String
  | [] => none
  | character :: rest =>
      match Quotation.ofMark? character with
      | some kind => (kind.line rest).map fun (name, after) => (String.ofList name, after)
      | none =>
          let (name, after) := takeRun isBare (character :: rest)
          if name = [] then none else some (String.ofList name, after)

/-- Names with points between them, at most as many as given; blanks may stand around each. -/
def readNames : Nat → Reader Key
  | 0, _ => none
  | count + 1, text => do
      let (name, rest) ← readName (skipSpaces text)
      match skipSpaces rest with
      | '.' :: more =>
          let (key, after) ← readNames count more
          some (key.below name, after)
      | after => some (⟨[], name⟩, after)

def read : Reader Key :=
  readNames maxNames

end Key

end HostRouting.Toml
