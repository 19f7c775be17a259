import HostRouting.Event
import HostRouting.Number.Numeral
import HostRouting.Regex.Support
import HostRouting.Text

/-!
# Log directives

A directive sets how much an event must matter in order to be written.  It is a level alone, as in
`warn`, and then holds for all events, or it names the events that it is about: by a topic, as in
`topic=debug`, by the span in which they happen, as in `topic[span]`, by a field that they have,
as in `[{field}]=info`, or by several of these.  Without a level it is for all events that it is
about.

Blanks around a directive are passed over when its parts are looked for, but the parts are cut from
the directive as it was given, at the same positions in bytes.  So a directive with blanks in front
is about events that there are none of, or it is no directive, or a cut falls inside a character.
-/

namespace HostRouting

/-- How much an event must matter at least, or that none matters enough. -/
abbrev Threshold := Option Level

namespace Threshold

/-- Under this threshold every event is written. -/
def everything : Threshold := some .debug

/-- The thresholds by name.  A threshold may also be given by its position among them. -/
def named : List (String × Threshold) :=
  [("off", none), ("error", some .error), ("warn", some .warning), ("info", some .info),
    ("debug", some .debug), ("trace", everything)]

/-- The number that a row of decimal digits denotes after at most one plus sign. -/
def position? : List Char → Option Nat
  | '+' :: row => Decimal.natural? row
  | row => Decimal.natural? row

/-- Reads a threshold: its position, or its name in any case. -/
def ofText? (text : List Char) : Option Threshold :=
  match position? text with
  | some position => named[position]?.map Prod.snd
  | none => named.lookup (String.ofList (text.map Char.toLower))

/-- Reads the threshold behind the equals sign of a directive, which may be left out. -/
def ofLevel? (text : List Char) : Option Threshold :=
  if text = [] then some everything else ofText? text

end Threshold

/-- A field that events have, or that the span of an event has with some value. -/
structure FieldPattern where
  name : String
  value : Option String
  deriving DecidableEq

namespace FieldPattern

/-- Whether a text is a number without sign: decimal, with a power of ten if wanted, or a name for
what is no finite number. -/
def isNumber (text : List Char) : Bool :=
  let whole := text.takeWhile Char.isDigit
  let afterWhole := text.dropWhile Char.isDigit
  let (fraction, rest) := match afterWhole with
    | '.' :: rest => (rest.takeWhile Char.isDigit, rest.dropWhile Char.isDigit)
    | rest => ([], rest)
  let isPower := match rest with
    | [] => true
    | letter :: power =>
        (letter == 'e' || letter == 'E') &&
          (Decimal.integer? power).isSome
  let isDecimal := !(whole.isEmpty && fraction.isEmpty) && isPower
  isDecimal || ["inf", "infinity", "nan"].contains (String.ofList (text.map Char.toLower))

/-- Whether a field can have a value: a number with a plus sign or a usable regular expression,
which all other numbers and the truth values are. -/
def isValue (text : List Char) : Bool :=
  Regex.isUsable text ||
    match text with
    | '+' :: number => isNumber number
    | _ => false

/-- Reads a field, with its value between the first and the second equals sign. -/
def ofText? (text : List Char) : Option FieldPattern :=
  let name := String.ofList (text.takeWhile (· != '='))
  if text = [] then none
  else
    match text.dropWhile (· != '=') with
    | [] => some { name, value := none }
    | _ :: rest =>
        let value := rest.takeWhile (· != '=')
        if isValue value then some { name, value := some (String.ofList value) } else none

end FieldPattern

structure EventPattern where
  topic : Option String := none
  span : Option String := none
  field : Option FieldPattern := none
  deriving DecidableEq

/-- The events that a directive is about, and how much they must matter. -/
structure LogDirective where
  pattern : EventPattern := {}
  threshold : Threshold
  deriving DecidableEq

inductive DirectiveFault where
  | malformed
  | splitCharacter
  deriving DecidableEq

namespace LogDirective

def cut (directive : List Char) (start stop : Nat) : Except DirectiveFault String :=
  match Utf8.slice? start stop directive with
  | some part => .ok (String.ofList part)
  | none => .error .splitCharacter

/-- What there is, or else a malformed directive. -/
def required {α : Type} : Option α → Except DirectiveFault α
  | some value => .ok value
  | none => .error .malformed

/-- A directive for some events, of which there is left to read what follows a position: nothing or
the level. -/
def readLevel (directive : List Char) (pattern : EventPattern) (position : Nat) :
    List Char → Except DirectiveFault LogDirective
  | [] => .ok { pattern, threshold := .everything }
  | '=' :: _ =>
      match Utf8.drop? (position + 1) directive with
      | none => .error .splitCharacter
      | some level => do
          let threshold ← required (Threshold.ofLevel? level)
          return { pattern, threshold }
  | _ => .error .malformed

/-- A directive about some topic, of which there is left to read what follows a position inside of
its brackets: a span, a field in braces, or both. -/
def readBrackets (directive : List Char) (topic : Option String) (position : Nat)
    (text : List Char) : Except DirectiveFault LogDirective := do
  let isInside character := character != ']' && character != '\x7B'
  let stop := position + Utf8.size (text.takeWhile isInside)
  match text.dropWhile isInside with
  | ']' :: rest =>
      let span ← cut directive position stop
      readLevel directive { topic, span := some span } (stop + 1) rest
  | '\x7B' :: rest =>
      let span ← cut directive position stop
      let fieldStop := stop + 1 + Utf8.size (rest.takeWhile (· != '\x7D'))
      match rest.dropWhile (· != '\x7D') with
      | '\x7D' :: after =>
          let text ← cut directive (stop + 1) fieldStop
          let field ← required (FieldPattern.ofText? text.toList)
          let span := if span = "" then none else some span
          match after with
          | ']' :: rest =>
              readLevel directive { topic, span, field := some field } (fieldStop + 2) rest
          | _ => .error .malformed
      | _ => .error .malformed
  | _ => .error .malformed

/-- Whether a directive may start with a character instead of a bracket. -/
def isStart (character : Char) : Bool :=
  Text.isAlphanumeric character || ['-', ':', '_'].contains character

/-- Reads a directive.  A word that names a level is the level, any other word a topic. -/
def ofText (directive : List Char) : Except DirectiveFault LogDirective := do
  let text := Text.trimmed directive
  let isInside character := character != '=' && character != '['
  let position := Utf8.size (text.takeWhile isInside)
  match text.head?, text.dropWhile isInside with
  | none, _ => .error .malformed
  | some '[', _ => readBrackets directive none 1 (text.drop 1)
  | some first, rest =>
      if isStart first then
        match rest with
        | [] =>
            match Threshold.ofText? directive with
            | some threshold => return { threshold }
            | none =>
                let pattern := { topic := some (String.ofList directive) }
                return { pattern, threshold := .everything }
        | '[' :: rest =>
            let topic ← cut directive 0 position
            readBrackets directive (some topic) (position + 1) rest
        | rest =>
            let topic ← cut directive 0 position
            readLevel directive { topic := some topic } position rest
      else .error .malformed

end LogDirective

end HostRouting
