import HostRouting.Json
import HostRouting.Text

/-!
# Reading JSON text

The text of a JSON value as the format has it: blanks between tokens, strings with their escapes,
and commas between the members of arrays and objects.  Fractions, exponents, numbers of more than 64
bits and `null` have no value here and are refused, like whatever breaks a rule of the format.

How values are laid out when they are written plays no part in this.
-/

namespace HostRouting.Json

def isSpace (character : Char) : Bool :=
  character = ' ' || character = '\t' || character = '\n' || character = '\r'

def skipSpaces (text : List Char) : List Char :=
  text.dropWhile isSpace

/-! ## Strings -/

/-- A part of a string: a character, or a unit of UTF-16 that is written as a number. -/
inductive Piece where
  | character (meant : Char)
  | unit (code : Nat)

/-- What a single letter after a backslash stands for. -/
def shortEscape? (letter : Char) : Option Char :=
  [('\x22', '\x22'), ('\\', '\\'), ('/', '/'), ('b', '\x08'), ('f', '\x0C'), ('n', '\n'),
    ('r', '\r'), ('t', '\t')].lookup letter

def readEscape : Reader Piece
  | [] => none
  | letter :: rest =>
      if letter = 'u' then do
        let digits ← (rest.take 4).mapM (Digit.inBase? 16)
        if digits.length = 4 then some (.unit (Digit.number 16 digits), rest.drop 4) else none
      else (shortEscape? letter).map fun meant => (.character meant, rest)

/-- One part of a string.  Control characters only stand in it as escapes. -/
def readPiece : Reader Piece
  | [] => none
  | character :: rest =>
      if character = '\\' then readEscape rest
      else if character.toNat < 0x20 then none
      else some (.character character, rest)

/-- The parts of a string up to the closing mark.  There are fewer of them than given. -/
def readPieces : Nat → Reader (List Piece)
  | 0, _ => none
  | count + 1, text =>
      if text.head? = some '\x22' then some ([], text.tail)
      else do
        let (piece, rest) ← readPiece text
        let (pieces, after) ← readPieces count rest
        some (piece :: pieces, after)

def isHigh (code : Nat) : Bool :=
  0xD800 ≤ code && code < 0xDC00

def isLow (code : Nat) : Bool :=
  0xDC00 ≤ code && code < 0xE000

/-- The characters that parts of a string stand for, where the first half of a character may have
come before them.  A half that stands alone makes no character. -/
def joined? : Option Nat → List Piece → Option (List Char)
  | none, [] => some []
  | none, .character meant :: rest => (joined? none rest).map (meant :: ·)
  | none, .unit code :: rest =>
      if isHigh code then joined? (some code) rest
      else if isLow code then none
      else (joined? none rest).map (Char.ofNat code :: ·)
  | some high, .unit low :: rest =>
      if isLow low then
        let code := 0x10000 + (high - 0xD800) * 0x400 + (low - 0xDC00)
        (joined? none rest).map (Char.ofNat code :: ·)
      else none
  | some _, _ => none

/-- A string of fewer parts than given; its opening mark has been read. -/
def readString (limit : Nat) : Reader String := fun text => do
  let (pieces, rest) ← readPieces limit text
  let characters ← joined? none pieces
  some (String.ofList characters, rest)

/-! ## Numbers -/

def isNumeric (character : Char) : Bool :=
  character.isDigit || ['-', '+', '.', 'e', 'E'].contains character

/-- The number that a row of digits denotes; it does not start with a zero unless this is all. -/
def natural? (row : List Char) : Option Nat :=
  if row.head? = some '0' ∧ row ≠ ['0'] then none else Decimal.natural? row

/-- The whole number that a row of characters denotes, if 64 bits hold it. -/
def number? (row : List Char) : Option Int64 :=
  if row.head? = some '-' then (natural? row.tail).bind fun size => Signed64.ofInt? (-size)
  else (natural? row).bind fun size => Signed64.ofInt? size

def readNumber : Reader Json := fun text =>
  (number? (text.takeWhile isNumeric)).map fun number =>
    (.number number, text.dropWhile isNumeric)

/-! ## Values -/

def readWord (word : List Char) (value : Json) : Reader Json := fun text =>
  if word.isPrefixOf text then some (value, text.drop word.length) else none

section Members

variable {α : Type}

/-- Members with commas between them, up to a closing mark: at least one, and at most as many as
given. -/
def readRow (closing : Char) (member : Reader α) : Nat → Reader (List α)
  | 0, _ => none
  | count + 1, text => do
      let (first, rest) ← member text
      match skipSpaces rest with
      | [] => none
      | mark :: after =>
          if mark = ',' then do
            let (others, after) ← readRow closing member count after
            some (first :: others, after)
          else if mark = closing then some ([first], after)
          else none

def readMembers (closing : Char) (member : Reader α) (limit : Nat) : Reader (List α) := fun text =>
  match skipSpaces text with
  | [] => none
  | first :: rest =>
      if first = closing then some ([], rest) else readRow closing member limit text

end Members

def readField (limit : Nat) (value : Reader Json) : Reader (String × Json) := fun text =>
  match skipSpaces text with
  | [] => none
  | first :: rest =>
      if first = '\x22' then do
        let (name, rest) ← readString limit rest
        match skipSpaces rest with
        | [] => none
        | mark :: rest =>
            if mark = ':' then (value rest).map fun (value, after) => ((name, value), after)
            else none
      else none

/-- A value that is nested less deep than given.  Each string, array and object in it has fewer
parts than the limit, for which the length of the text will do. -/
def readValue (limit : Nat) : Nat → Reader Json
  | 0, _ => none
  | depth + 1, text =>
      match skipSpaces text with
      | [] => none
      | first :: rest =>
          if first = '\x22' then
            (readString limit rest).map fun (content, after) => (.string content, after)
          else if first = '[' then
            (readMembers ']' (readValue limit depth) limit rest).map fun (items, after) =>
              (.array items, after)
          else if first = '\x7B' then
            (readMembers '\x7D' (readField limit (readValue limit depth)) limit rest).map
              fun (fields, after) => (.object fields, after)
          else if first = 't' then readWord ['t', 'r', 'u', 'e'] (.boolean true) (first :: rest)
          else if first = 'f' then
            readWord ['f', 'a', 'l', 's', 'e'] (.boolean false) (first :: rest)
          else readNumber (first :: rest)

def ofText? (text : String) : Option Json := do
  let limit := text.toList.length
  let (value, rest) ← readValue limit limit text.toList
  if skipSpaces rest = [] then some value else none

/-- Blanks, short escapes and both halves of a character are read. -/
example :
    ofText? "[ \"\\/\\u00e9\\n\" ,\t\x7B\"\\uD83D\\uDE00\" : -12\x7D]\n" =
      some (.array [.string "/é\n", .object [("😀", .number (-12))]]) := by
  rfl

end HostRouting.Json
