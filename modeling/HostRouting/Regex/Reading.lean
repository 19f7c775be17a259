import HostRouting.Number.Numeral
import HostRouting.Regex.Expression
import HostRouting.Text
import HostRouting.Text.Letter

/-!
# Reading regular expressions

The written form of regular expressions that contain no closing brace.  Without it, braces can only
stand for themselves in a set, so that there are no counted repetitions and no classes by property.

Under an option of its own, blanks and comments may stand between the parts of an expression.  The
readers that have to know are told whether it is set.
-/

namespace HostRouting.Regex

/-- The text without the blanks and comments at its front. -/
def skipBlanks : List Char → List Char
  | [] => []
  | character :: rest =>
      if Text.isBlank character then skipBlanks rest
      else if character = '#' then skipBlanks (rest.dropWhile (· != '\n'))
      else character :: rest
termination_by text => text.length
decreasing_by
  · exact Nat.lt_succ_self _
  · exact Nat.lt_succ_of_le (List.dropWhile_sublist _).length_le

def skipIgnored (spaced : Bool) (text : List Char) : List Char :=
  if spaced then skipBlanks text else text

/-- The character behind the first one.  Blanks are passed over where they are ignored, and so is
the mark of a comment, but not the comment. -/
def peek (spaced : Bool) (text : List Char) : Option Char :=
  let rest := text.drop 1
  if spaced then
    let visible := match rest.dropWhile Text.isBlank with
      | '#' :: comment => comment.dropWhile Text.isBlank
      | visible => visible
    visible.head?.or rest.head?
  else rest.head?

def readHex (spaced : Bool) : Nat → Nat → Reader Nat
  | 0, number, text => some (number, text)
  | count + 1, number, text =>
      match skipIgnored spaced text with
      | [] => none
      | character :: rest =>
          match Digit.value? character with
          | some digit => readHex spaced count (16 * number + digit) rest
          | none => none

/-- A character given by so many hexadecimal digits; two of them are a byte. -/
def readCode (spaced : Bool) (count : Nat) : Reader Expression := fun text => do
  let (code, rest) ← readHex spaced count 0 text
  if code.isValidChar then some (.literal ⟨Char.ofNat code, count = 2⟩, rest) else none

/-- What a letter behind a backslash stands for, if it needs nothing more. -/
def escaped? : Char → Option Expression
  | 'a' => some (.literal { character := '\x07' })
  | 'f' => some (.literal { character := '\x0C' })
  | 't' => some (.literal { character := '\t' })
  | 'n' => some (.literal { character := '\n' })
  | 'r' => some (.literal { character := '\r' })
  | 'v' => some (.literal { character := '\x0B' })
  | 'd' | 's' | 'w' => some (.shorthand false)
  | 'D' | 'S' | 'W' => some (.shorthand true)
  | 'A' | 'z' => some .anchor
  | 'b' | 'B' | '<' | '>' => some .wordBoundary
  | character =>
      if character.toNat < 0x80 && !character.isAlphanum then some (.literal { character })
      else none

def readEscape (spaced : Bool) : Reader Expression
  | [] => none
  | 'x' :: rest => readCode spaced 2 rest
  | 'u' :: rest => readCode spaced 4 rest
  | 'U' :: rest => readCode spaced 8 rest
  | character :: rest => (escaped? character).map fun expression => (expression, rest)

/-! ## Sets -/

def classNames : List String :=
  ["alnum", "alpha", "ascii", "blank", "cntrl", "digit", "graph", "lower", "print", "punct",
    "space", "upper", "word", "xdigit"]

def readNegation : List Char → Bool × List Char
  | '^' :: rest => (true, rest)
  | text => (false, text)

/-- A class by its name, whose opening bracket has been read: whether it is negated. -/
def readNamed : Reader Bool
  | ':' :: rest =>
      let (negated, rest) := readNegation rest
      match rest.dropWhile (· != ':') with
      | ':' :: ']' :: after =>
          if classNames.contains (String.ofList (rest.takeWhile (· != ':'))) then
            some (negated, after)
          else none
      | _ => none
  | _ => none

def readMember (spaced : Bool) : Reader Expression
  | [] => none
  | '\\' :: rest => readEscape spaced rest
  | character :: rest => some (.literal { character }, rest)

def SetItem.ofExpression? : Expression → Option SetItem
  | .literal symbol => some (.literal symbol)
  | .shorthand negated => some (.shorthand negated)
  | _ => none

/-- The range from one character to another that is not before it. -/
def SetItem.range? : Expression → Expression → Option SetItem
  | .literal first, .literal last =>
      if first.character ≤ last.character then some (.range first last) else none
  | _, _ => none

/-- A member of a set or a range.  A hyphen makes no range in front of another hyphen or of the end
of the set. -/
def readItem (spaced : Bool) : Reader SetItem := fun text => do
  let (first, rest) ← readMember spaced text
  match skipIgnored spaced rest with
  | [] => none
  | '-' :: more =>
      let next := peek spaced ('-' :: more)
      if next = some ']' ∨ next = some '-' then
        let item ← SetItem.ofExpression? first
        some (item, '-' :: more)
      else
        let (last, rest) ← readMember spaced (skipIgnored spaced more)
        let range ← SetItem.range? first last
        some (range, rest)
  | rest =>
      let item ← SetItem.ofExpression? first
      some (item, rest)

/-- The content of a set that ends with some members, which may be the second part of an
operation. -/
def SetContent.ending (left : Option SetContent) (items : List SetItem) : SetContent :=
  match left with
  | none => .items items
  | some left => .operation left (.items items)

/-- The signs that, written twice, are operations on sets. -/
def setOperators : List Char := ['&', '-', '~']

/-- The content of a set up to its closing bracket: behind the left part of an operation and behind
some members.  At the start, hyphens stand for themselves, and so does a bracket that would leave
the set empty.  The content has fewer parts than given. -/
def readContent (spaced : Bool) :
    Nat → Bool → Option SetContent → List SetItem → Reader SetContent
  | 0, _, _, _, _ => none
  | fuel + 1, atStart, left, items, text =>
      match skipIgnored spaced text with
      | [] => none
      | character :: rest =>
          if atStart && character == '-' then
            readContent spaced fuel true left (.literal { character } :: items) rest
          else if atStart && items.isEmpty && character == ']' then
            readContent spaced fuel false left [.literal { character }] rest
          else if character == ']' then some (.ending left items, rest)
          else if setOperators.contains character && rest.head? == some character then
            readContent spaced fuel false (some (.ending left items)) [] (rest.drop 1)
          else if character == '[' then
            match readNamed rest with
            | some (negated, rest) =>
                readContent spaced fuel false left (.named negated :: items) rest
            | none =>
                let (negated, rest) := readNegation (skipIgnored spaced rest)
                match readContent spaced fuel true none [] rest with
                | some (content, rest) =>
                    readContent spaced fuel false left (.set negated content :: items) rest
                | none => none
          else
            match readItem spaced (character :: rest) with
            | some (item, rest) => readContent spaced fuel false left (item :: items) rest
            | none => none

def readSet (spaced : Bool) : Reader Expression := fun text =>
  let (negated, rest) := readNegation (skipIgnored spaced text)
  (readContent spaced (text.length + 1) true none [] rest).map fun (content, after) =>
    (.set negated content, after)

/-! ## Groups -/

/-- How far an expression has been read: what is left of it, whether blanks are ignored there, and
the names of the groups so far. -/
structure Position where
  text : List Char
  spaced : Bool := false
  groupNames : List (List Char) := []

/-- What an opening parenthesis begins: a change of options for the rest of the group around it, or
a group with options of its own. -/
inductive Opening where
  | options (options : Options)
  | group (options : Options)

def optionLetters : List Char := ['i', 'm', 's', 'U', 'u', 'R', 'x']

/-- Options up to a colon, for which the answer is true, or up to a closing parenthesis.  A hyphen,
which cannot be the last of them, switches off those behind it.  No option is given twice. -/
def readOptions (negated afterHyphen : Bool) (given : Options) : Reader (Options × Bool)
  | [] => none
  | ':' :: rest => if afterHyphen then none else some ((given, true), rest)
  | ')' :: rest => if afterHyphen then none else some ((given, false), rest)
  | '-' :: rest => if negated then none else readOptions true true given rest
  | letter :: rest =>
      if optionLetters.contains letter && (given.lookup letter).isNone then
        readOptions negated false (given ++ [(letter, !negated)]) rest
      else none

def isGroupName : List Char → Bool
  | [] => false
  | first :: rest =>
      (first == '_' || Text.isAlphabetic first) &&
        rest.all fun character =>
          ['_', '.', '[', ']'].contains character || Text.isAlphanumeric character

namespace Position

/-- A group with a name, which is its own and ends with an angle bracket. -/
def readNamedGroup (position : Position) (text : List Char) : Option (Opening × Position) :=
  let name := text.takeWhile (· != '>')
  match text.dropWhile (· != '>') with
  | _ :: rest =>
      if isGroupName name && !position.groupNames.contains name then
        some (.group [],
          { position with text := rest, groupNames := name :: position.groupNames })
      else none
  | [] => none

/-- What the parenthesis begins that stands in front of a text.  There is no looking ahead or
behind. -/
def readOpening (position : Position) (text : List Char) : Option (Opening × Position) :=
  match skipIgnored position.spaced text with
  | '?' :: 'P' :: '<' :: rest => position.readNamedGroup rest
  | '?' :: '<' :: '=' :: _ => none
  | '?' :: '<' :: '!' :: _ => none
  | '?' :: '<' :: rest => position.readNamedGroup rest
  | '?' :: rest => do
      let ((options, isGroup), rest) ← readOptions false false [] rest
      let spaced := (options.lookup 'x').getD position.spaced
      if isGroup then some (.group options, { position with text := rest, spaced })
      else if options = [] then none
      else some (.options options, { position with text := rest, spaced })
  | rest => some (.group [], { position with text := rest })

end Position

/-! ## Expressions -/

def readAtom (spaced : Bool) : Reader Expression
  | [] => none
  | '[' :: rest => readSet spaced rest
  | '\\' :: rest => readEscape spaced rest
  | '.' :: rest => some (.dot, rest)
  | '^' :: rest => some (.anchor, rest)
  | '$' :: rest => some (.anchor, rest)
  | character :: rest => some (.literal { character }, rest)

def repetitionSigns : List Char := ['?', '*', '+']

/-- The text behind the mark that makes a repetition lazy. -/
def skipLazyMark : List Char → List Char
  | '?' :: rest => rest
  | text => text

/-- What follows some branches and some parts of the next one, up to the end of the group or of the
text.  Branches and parts come last first.  There are fewer parts than given. -/
def readBranches :
    Nat → Position → List Expression → List Expression → Option (Expression × Position)
  | 0, _, _, _ => none
  | fuel + 1, position, branches, parts =>
      let branch := Expression.ofParts parts.reverse
      match skipIgnored position.spaced position.text with
      | [] => some (.ofBranches (branch :: branches).reverse, { position with text := [] })
      | ')' :: rest =>
          some (.ofBranches (branch :: branches).reverse, { position with text := ')' :: rest })
      | '|' :: rest => readBranches fuel { position with text := rest } (branch :: branches) []
      | '\x7B' :: _ => none
      | '(' :: rest =>
          match position.readOpening rest with
          | none => none
          | some (.options options, inside) =>
              readBranches fuel inside branches (.options options :: parts)
          | some (.group options, inside) =>
              match readBranches fuel inside [] [] with
              | some (inner, { text := ')' :: rest, spaced := _, groupNames }) =>
                  readBranches fuel { text := rest, spaced := position.spaced, groupNames }
                    branches (.group options inner :: parts)
              | _ => none
      | character :: rest =>
          if repetitionSigns.contains character then
            match parts with
            | [] => none
            | .options _ :: _ => none
            | last :: earlier =>
                readBranches fuel { position with text := skipLazyMark rest } branches
                  (.repetition last :: earlier)
          else
            match readAtom position.spaced (character :: rest) with
            | some (part, rest) =>
                readBranches fuel { position with text := rest } branches (part :: parts)
            | none => none

def Expression.ofText? (text : List Char) : Option Expression :=
  match readBranches (text.length + 1) { text } [] [] with
  | some (expression, { text := [], spaced := _, groupNames := _ }) => some expression
  | _ => none

end HostRouting.Regex
