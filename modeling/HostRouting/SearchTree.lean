/-!
# Ternary search trees

A map from byte strings to values.  A branch splits on one byte: a key whose next byte is smaller
or larger goes on in the low or the high subtree with the same byte, and a key with this very byte
goes on in the equal subtree with its next byte.  The value of a key is kept at the branch of its
last byte.

The empty key has no last byte, so its value has a place of its own.
-/

namespace HostRouting

/-- A subtree, for what remains of keys with at least one byte. -/
inductive SearchTree.Node (α : Type) where
  | leaf
  | branch (split : UInt8) (value : Option α) (low equal high : SearchTree.Node α)

/-- A map from byte strings to values. -/
structure SearchTree (α : Type) where
  root : SearchTree.Node α := .leaf
  atEmptyKey : Option α := none
  size : Nat := 0

namespace SearchTree

variable {α : Type}

namespace Node

/-- The subtree that holds a single key, given by its first byte and the others. -/
def single (byte : UInt8) (value : α) : List UInt8 → Node α
  | [] => .branch byte (some value) .leaf .leaf .leaf
  | next :: rest => .branch byte none .leaf (single next value rest) .leaf

def insert (value : α) : Node α → UInt8 → List UInt8 → Option α × Node α
  | .leaf, byte, rest => (none, single byte value rest)
  | .branch split here low equal high, byte, rest =>
      if byte < split then
        let (old, low) := insert value low byte rest
        (old, .branch split here low equal high)
      else if split < byte then
        let (old, high) := insert value high byte rest
        (old, .branch split here low equal high)
      else
        match rest with
        | [] => (here, .branch split (some value) low equal high)
        | next :: rest =>
            let (old, equal) := insert value equal next rest
            (old, .branch split here low equal high)

def find? : Node α → UInt8 → List UInt8 → Option α
  | .leaf, _, _ => none
  | .branch split here low equal high, byte, rest =>
      if byte < split then find? low byte rest
      else if split < byte then find? high byte rest
      else
        match rest with
        | [] => here
        | next :: rest => find? equal next rest

/-- The value of the longest stored prefix of a key, or the best one found before. -/
def longestPrefix? (best : Option α) : Node α → UInt8 → List UInt8 → Option α
  | .leaf, _, _ => best
  | .branch split here low equal high, byte, rest =>
      if byte < split then longestPrefix? best low byte rest
      else if split < byte then longestPrefix? best high byte rest
      else
        match rest with
        | [] => here.or best
        | next :: rest => longestPrefix? (here.or best) equal next rest

end Node

def insert (tree : SearchTree α) (key : List UInt8) (value : α) : Option α × SearchTree α :=
  let grown (old : Option α) := if old.isNone then tree.size + 1 else tree.size
  match key with
  | [] => (tree.atEmptyKey,
      { tree with atEmptyKey := some value, size := grown tree.atEmptyKey })
  | byte :: rest =>
      let (old, root) := tree.root.insert value byte rest
      (old, { tree with root := root, size := grown old })

def find? (tree : SearchTree α) : List UInt8 → Option α
  | [] => tree.atEmptyKey
  | byte :: rest => tree.root.find? byte rest

/-- The value of the longest stored key that is a prefix of the given one. -/
def longestPrefix? (tree : SearchTree α) : List UInt8 → Option α
  | [] => tree.atEmptyKey
  | byte :: rest => tree.root.longestPrefix? tree.atEmptyKey byte rest

def contains (tree : SearchTree α) (key : List UInt8) : Bool :=
  (tree.find? key).isSome

def isEmpty (tree : SearchTree α) : Bool :=
  tree.size == 0

end SearchTree

end HostRouting
