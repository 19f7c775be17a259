import HostRouting.Text

/-!
# Characters, blanks and line ends

The smallest parts of a document.
-/

namespace HostRouting.Toml

/-- The characters that may stand in a comment, and in a string where they mean themselves:
the tabulator and everything that is not an ASCII control character. -/
def isPlain (character : Char) : Bool :=
  character == '\t' || (0x20 ≤ character.toNat && character.toNat ≤ 0x7E) ||
    0x80 ≤ character.toNat

def isSpace (character : Char) : Bool :=
  character == ' ' || character == '\t'

def skipSpaces (text : List Char) : List Char :=
  text.dropWhile isSpace

def expect (wanted : Char) : List Char → Option (List Char)
  | [] => none
  | character :: rest => if character = wanted then some rest else none

/-- Passes over what may end a line after its content: blanks and a comment, then a line end or
the end of the document. -/
def finishLine (text : List Char) : Option (List Char) :=
  let afterComment := match skipSpaces text with
    | '#' :: rest => rest.dropWhile isPlain
    | rest => rest
  match afterComment with
  | [] => some []
  | '\n' :: rest => some rest
  | '\r' :: '\n' :: rest => some rest
  | _ => none

/-- The text without the blanks, line ends and comments at its front. -/
def skipFiller : List Char → List Char
  | ' ' :: rest => skipFiller rest
  | '\t' :: rest => skipFiller rest
  | '\n' :: rest => skipFiller rest
  | '\r' :: '\n' :: rest => skipFiller rest
  | '#' :: rest => skipFiller (rest.dropWhile isPlain)
  | text => text
termination_by text => text.length
decreasing_by
  · exact Nat.lt_succ_self _
  · exact Nat.lt_succ_self _
  · exact Nat.lt_succ_self _
  · exact Nat.lt_add_of_pos_right Nat.two_pos
  · exact Nat.lt_succ_of_le (List.dropWhile_sublist isPlain).length_le

/-- Takes a run of characters of one class, which may be empty. -/
def takeRun (isMember : Char → Bool) (text : List Char) : List Char × List Char :=
  (text.takeWhile isMember, text.dropWhile isMember)

end HostRouting.Toml
