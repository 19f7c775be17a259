import HostRouting.Number.Numeral

/-!
# JSON text

JSON values with ordered fields, and their text with each item and each field on a line of its
own, two blanks further in than what encloses it.
-/

namespace HostRouting

inductive Json where
  | string (content : String)
  | number (content : Int64)
  | boolean (flag : Bool)
  | array (items : List Json)
  | object (fields : List (String × Json))

namespace Json

/-- How a character is written in a string.  Quotation marks, backslashes and ASCII control
characters are escaped, the more frequent of them with a letter; all others stand for
themselves. -/
def escaped (character : Char) : List Char :=
  if character = '\x22' then ['\\', '\x22']
  else if character = '\\' then ['\\', '\\']
  else if character = '\x08' then ['\\', 'b']
  else if character = '\t' then ['\\', 't']
  else if character = '\n' then ['\\', 'n']
  else if character = '\x0C' then ['\\', 'f']
  else if character = '\r' then ['\\', 'r']
  else if character.toNat < 0x20 then
    ['\\', 'u', '0', '0', Digit.character (character.toNat / 16),
      Digit.character (character.toNat % 16)]
  else [character]

def quoted (content : String) : List Char :=
  '\x22' :: content.toList.flatMap escaped ++ ['\x22']

/-- The end of a line, and the blanks at the front of the next one. -/
def newLine (indent : Nat) : List Char :=
  '\n' :: List.replicate indent ' '

/-- The comma after a member that is not the last one. -/
def comma {α : Type} : List α → List Char
  | [] => []
  | _ :: _ => [',']

mutual

/-- The text of a value whose line is indented by some blanks. -/
def render (indent : Nat) : Json → List Char
  | .string content => quoted content
  | .number content => (Signed64.text content).toList
  | .boolean true => ['t', 'r', 'u', 'e']
  | .boolean false => ['f', 'a', 'l', 's', 'e']
  | .array [] => ['[', ']']
  | .array (first :: rest) =>
      '[' :: renderItems (indent + 2) (first :: rest) ++ newLine indent ++ [']']
  | .object [] => ['\x7B', '\x7D']
  | .object (first :: rest) =>
      '\x7B' :: renderFields (indent + 2) (first :: rest) ++ newLine indent ++ ['\x7D']

def renderItems (indent : Nat) : List Json → List Char
  | [] => []
  | item :: rest => newLine indent ++ render indent item ++ comma rest ++ renderItems indent rest

def renderFields (indent : Nat) : List (String × Json) → List Char
  | [] => []
  | (name, value) :: rest =>
      newLine indent ++ quoted name ++ ':' :: ' ' :: render indent value ++ comma rest ++
        renderFields indent rest

end

def text (value : Json) : String :=
  String.ofList (value.render 0)

end Json

end HostRouting
