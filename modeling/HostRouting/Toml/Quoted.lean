import HostRouting.Number.Numeral
import HostRouting.Toml.Lexeme

/-!
# Quoted text

Strings stand between two marks on one line, or between two triples of marks on several lines.
Between double quotation marks a backslash starts an escape; between single ones every character
means itself.
-/

namespace HostRouting.Toml

inductive Quotation where
  | basic
  | literal
  deriving DecidableEq

namespace Quotation

def mark : Quotation → Char
  | .basic => '\x22'
  | .literal => '\x27'

def ofMark? (character : Char) : Option Quotation :=
  if character = basic.mark then some .basic
  else if character = literal.mark then some .literal
  else none

def shortEscape? (letter : Char) : Option Char :=
  match letter with
  | 'b' => some '\x08'
  | 't' => some '\t'
  | 'n' => some '\n'
  | 'f' => some '\x0C'
  | 'r' => some '\r'
  | '\x22' => some '\x22'
  | '\\' => some '\\'
  | _ => none

/-- The character with the number that is written in front of a text with `count` hexadecimal
digits, unless that number belongs to no character. -/
def numberedEscape (count : Nat) (text : List Char) : Option (Char × List Char) := do
  let digits ← (text.take count).mapM (Digit.inBase? 16)
  let code := Digit.number 16 digits
  if digits.length = count ∧ code.isValidChar then some (Char.ofNat code, text.drop count)
  else none

/-- The character that an escape stands for; its backslash has been read. -/
def escape : Reader Char
  | [] => none
  | letter :: rest =>
      if letter = 'u' then numberedEscape 4 rest
      else if letter = 'U' then numberedEscape 8 rest
      else (shortEscape? letter).map fun character => (character, rest)

theorem length_of_escape {text rest : List Char} {character : Char}
    (hescape : escape text = some (character, rest)) : rest.length < text.length := by
  cases text with
  | nil => simp [escape] at hescape
  | cons letter tail =>
      have hnumbered : ∀ count, numberedEscape count tail = some (character, rest) →
          rest.length < (letter :: tail).length := by
        intro count hcount
        simp only [numberedEscape, Option.bind_eq_bind, Option.bind_eq_some_iff,
          Option.ite_none_right_eq_some, Option.some.injEq, Prod.mk.injEq] at hcount
        obtain ⟨_, _, _, _, rfl⟩ := hcount
        simp only [List.length_drop, List.length_cons]
        omega
      simp only [escape] at hescape
      split at hescape
      · exact hnumbered 4 hescape
      · split at hescape
        · exact hnumbered 8 hescape
        · simp only [Option.map_eq_some_iff, Prod.mk.injEq] at hescape
          obtain ⟨_, _, _, rfl⟩ := hescape
          simp

def skipLines : List Char → List Char
  | '\n' :: rest => skipLines rest
  | '\r' :: '\n' :: rest => skipLines rest
  | character :: rest =>
      if isSpace character then skipLines rest else character :: rest
  | [] => []

/-- Passes over a line end that a backslash has made part of the writing only, with all blanks
and line ends around it. -/
def skipJoint (text : List Char) : Option (List Char) :=
  match skipSpaces text with
  | '\n' :: rest => some (skipLines rest)
  | '\r' :: '\n' :: rest => some (skipLines rest)
  | _ => none

theorem length_skipLines_le (text : List Char) : (skipLines text).length ≤ text.length := by
  fun_induction skipLines text <;> grind

theorem length_of_skipJoint {text rest : List Char} (hjoint : skipJoint text = some rest) :
    rest.length < text.length := by
  have hspaces : (skipSpaces text).length ≤ text.length :=
    (List.dropWhile_sublist isSpace).length_le
  unfold skipJoint at hjoint
  split at hjoint
  case h_1 tail hskip =>
    have := length_skipLines_le tail
    simp_all only [Option.some.injEq, List.length_cons]
    omega
  case h_2 tail hskip =>
    have := length_skipLines_le tail
    simp_all only [Option.some.injEq, List.length_cons]
    omega
  case h_3 => cases hjoint

def push (character : Char) (read : List Char × List Char) : List Char × List Char :=
  (character :: read.1, read.2)

def line (kind : Quotation) (text : List Char) : Option (List Char × List Char) :=
  match text with
  | [] => none
  | character :: rest =>
      if character = kind.mark then some ([], rest)
      else if character = '\\' ∧ kind = .basic then
        match _hescape : escape rest with
        | none => none
        | some (meant, after) => (line kind after).map (push meant)
      else if isPlain character then (line kind rest).map (push character)
      else none
termination_by text.length
decreasing_by
  · exact Nat.lt_succ_of_lt (length_of_escape _hescape)
  · exact Nat.lt_succ_self _

/-- What follows the first three marks of a closing row: up to two more of them belong to the
content. -/
def closing (kind : Quotation) (text : List Char) : List Char × List Char :=
  let extra := (text.take 2).takeWhile (· == kind.mark)
  (extra, text.drop extra.length)

/-- The content of quoted text on several lines, whose opening marks have been read. -/
def block (kind : Quotation) (text : List Char) : Option (List Char × List Char) :=
  match text with
  | [] => none
  | '\n' :: rest => (block kind rest).map (push '\n')
  | '\r' :: '\n' :: rest => (block kind rest).map (push '\n')
  | character :: rest =>
      if character = kind.mark ∧ rest.take 2 = [kind.mark, kind.mark] then
        some (closing kind (rest.drop 2))
      else if character = '\\' ∧ kind = .basic then
        match _hjoint : skipJoint rest with
        | some after => block kind after
        | none =>
            match _hescape : escape rest with
            | none => none
            | some (meant, after) => (block kind after).map (push meant)
      else if isPlain character then (block kind rest).map (push character)
      else none
termination_by text.length
decreasing_by
  · exact Nat.lt_succ_self _
  · exact Nat.lt_add_of_pos_right Nat.two_pos
  · exact Nat.lt_succ_of_lt (length_of_skipJoint _hjoint)
  · exact Nat.lt_succ_of_lt (length_of_escape _hescape)
  · exact Nat.lt_succ_self _

/-- A line end right after the opening marks is not part of the content. -/
def skipFirstLineEnd : List Char → List Char
  | '\n' :: rest => rest
  | '\r' :: '\n' :: rest => rest
  | text => text

/-- Quoted text of a kind whose opening mark has been read, on one line or on several. -/
def content (kind : Quotation) (text : List Char) : Option (List Char × List Char) :=
  if text.take 2 = [kind.mark, kind.mark] then block kind (skipFirstLineEnd (text.drop 2))
  else line kind text

end Quotation

end HostRouting.Toml
