import HostRouting.Regex.Reading

/-!
# Regular expressions that can be used

A matcher without tables of Unicode properties can use an expression if it needs none of them, and
if what it matches is text.  Which of the two is in doubt depends on the options: a character is
taken either from Unicode or from ASCII, with its case or without.
-/

namespace HostRouting.Regex

structure Modes where
  ignoresCase : Bool := false
  unicode : Bool := true

namespace Modes

def under (modes : Modes) (options : Options) : Modes where
  ignoresCase := (options.lookup 'i').getD modes.ignoresCase
  unicode := (options.lookup 'u').getD modes.unicode

/-- Whether a character can be used outside a set.  The other case of a Unicode character is not
known, and a byte beyond ASCII is no text. -/
def supportsLiteral (modes : Modes) (literal : Literal) : Bool :=
  if modes.unicode then !modes.ignoresCase
  else !(literal.isByte && 0x80 ≤ literal.character.toNat)

/-- Whether a character can be used in a set.  A set of ASCII characters has no others. -/
def supportsMember (modes : Modes) (literal : Literal) : Bool :=
  if modes.unicode then !modes.ignoresCase else literal.character.toNat < 0x80

/-- Whether a class by name can be used.  What is not in a class of ASCII characters need not be
text. -/
def supportsNamed (modes : Modes) (negated : Bool) : Bool :=
  if modes.unicode then !modes.ignoresCase else !negated

/-- Whether a class by letter can be used.  In Unicode, it would take a table. -/
def supportsShorthand (modes : Modes) (negated : Bool) : Bool :=
  !modes.unicode && !negated

def supportsSet (modes : Modes) (negated : Bool) : Bool :=
  modes.unicode || !negated

end Modes

mutual

def SetItem.isSupported (modes : Modes) : SetItem → Bool
  | .literal symbol => modes.supportsMember symbol
  | .range first last => modes.supportsMember first && modes.supportsMember last
  | .named negated => modes.supportsNamed negated
  | .shorthand negated => modes.supportsShorthand negated
  | .set negated content => modes.supportsSet negated && content.isSupported modes

def SetContent.isSupported (modes : Modes) : SetContent → Bool
  | .items items => SetContent.areSupported modes items
  | .operation left right => left.isSupported modes && right.isSupported modes

def SetContent.areSupported (modes : Modes) : List SetItem → Bool
  | [] => true
  | item :: items => item.isSupported modes && SetContent.areSupported modes items

end

mutual

/-- The modes behind an expression that can be used under the modes in front of it.  Options hold up
to the end of the group around them.  The boundary of a word in Unicode would take a table. -/
def Expression.after? (modes : Modes) : Expression → Option Modes
  | .empty => some modes
  | .options changes => some (modes.under changes)
  | .literal symbol => if modes.supportsLiteral symbol then some modes else none
  | .dot => if modes.unicode then some modes else none
  | .anchor => some modes
  | .wordBoundary => if modes.unicode then none else some modes
  | .shorthand negated => if modes.supportsShorthand negated then some modes else none
  | .set negated content =>
      if modes.supportsSet negated && content.isSupported modes then some modes else none
  | .repetition inner => inner.after? modes
  | .group changes inner => (inner.after? (modes.under changes)).map fun _ => modes
  | .concatenation parts => Expression.afterAll? modes parts
  | .alternation branches => Expression.afterAll? modes branches

def Expression.afterAll? (modes : Modes) : List Expression → Option Modes
  | [] => some modes
  | part :: parts => (part.after? modes).bind fun modes => Expression.afterAll? modes parts

end

def maxDepth : Nat := 250

def isUsable (text : List Char) : Bool :=
  (Expression.ofText? text).any fun expression =>
    expression.depth ≤ maxDepth && (expression.after? {}).isSome

end HostRouting.Regex
