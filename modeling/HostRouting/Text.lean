/-!
# Texts

Three things that the core does not have for texts.  What reads a part of a text takes it from the
front and returns the rest.  Blank characters are those with the Unicode property White_Space; they
may stand around a number that is written as text.

Keys of search trees, and the order of the routes of a host, are those of the UTF-8 bytes of a
text.  Both read a text through `Utf8.bytes`, so that they agree on what it is made of.  Positions
in a text may be counted in bytes as well; those inside a character cut nothing off.
-/

namespace HostRouting

/-- Takes something from the front of a text, if it is there, and returns it with the rest. -/
abbrev Reader (α : Type) := List Char → Option (α × List Char)

/-! ## Blank characters -/

namespace Text

def isBlank (character : Char) : Bool :=
  let code := character.toNat
  (0x09 ≤ code && code ≤ 0x0D) || code == 0x20 || code == 0x85 || code == 0xA0 ||
    code == 0x1680 || (0x2000 ≤ code && code ≤ 0x200A) || code == 0x2028 || code == 0x2029 ||
    code == 0x202F || code == 0x205F || code == 0x3000

def trimmed (text : List Char) : List Char :=
  ((text.dropWhile isBlank).reverse.dropWhile isBlank).reverse

end Text

/-! ## The UTF-8 form -/

namespace Utf8

def bytes (text : String) : List UInt8 :=
  text.toList.flatMap String.utf8EncodeChar

/-- One text comes before another when its bytes do, compared from the left. -/
def Precedes (left right : String) : Prop :=
  bytes left < bytes right

instance (left right : String) : Decidable (Precedes left right) :=
  inferInstanceAs (Decidable (bytes left < bytes right))

def size : List Char → Nat
  | [] => 0
  | character :: rest => character.utf8Size + size rest

/-- What follows the first so many bytes of a text, unless they end inside a character. -/
def drop? : Nat → List Char → Option (List Char)
  | 0, text => some text
  | _ + 1, [] => none
  | count + 1, character :: rest =>
      if character.utf8Size ≤ count + 1 then drop? (count + 1 - character.utf8Size) rest else none

/-- The first so many bytes of a text, unless they end inside a character. -/
def take? : Nat → List Char → Option (List Char)
  | 0, _ => some []
  | _ + 1, [] => none
  | count + 1, character :: rest =>
      if character.utf8Size ≤ count + 1 then
        (take? (count + 1 - character.utf8Size) rest).map (character :: ·)
      else none

/-- What stands between two byte positions of a text, unless one of them is inside a character. -/
def slice? (start stop : Nat) (text : List Char) : Option (List Char) :=
  (drop? start text).bind (take? (stop - start))

/-- The text that some bytes are the UTF-8 form of, if they are one. -/
def text? (content : List UInt8) : Option String :=
  String.fromUTF8? ⟨content.toArray⟩

end Utf8

end HostRouting
