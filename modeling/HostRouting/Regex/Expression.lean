/-!
# Regular expressions

What a regular expression is made of, as far as it matters for whether it can be used: which
operations stand in one another, and which characters and classes of characters it names.
-/

namespace HostRouting.Regex

/-- A character that stands for itself.  With two hexadecimal digits it may be meant as a byte. -/
structure Literal where
  character : Char
  isByte : Bool := false
  deriving DecidableEq

/-- Options by their letters, switched on or off. -/
abbrev Options := List (Char × Bool)

mutual

/-- A member of a bracketed set: a character, a range of characters, a class with a name or with a
letter for it, or another set. -/
inductive SetItem where
  | literal (literal : Literal)
  | range (first last : Literal)
  | named (negated : Bool)
  | shorthand (negated : Bool)
  | set (negated : Bool) (content : SetContent)

/-- What is between the brackets of a set: members, or an operation on the contents of two sets. -/
inductive SetContent where
  | items (items : List SetItem)
  | operation (left right : SetContent)

end

inductive Expression where
  | empty
  | options (options : Options)
  | literal (literal : Literal)
  | dot
  | anchor
  | wordBoundary
  | shorthand (negated : Bool)
  | set (negated : Bool) (content : SetContent)
  | repetition (inner : Expression)
  | group (options : Options) (inner : Expression)
  | concatenation (parts : List Expression)
  | alternation (branches : List Expression)

namespace Expression

def ofParts : List Expression → Expression
  | [] => .empty
  | [part] => part
  | parts => .concatenation parts

def ofBranches : List Expression → Expression
  | [] => .empty
  | [branch] => branch
  | branches => .alternation branches

end Expression

mutual

def SetItem.depth : SetItem → Nat
  | .set _ content => 1 + content.depth
  | _ => 0

/-- How deep sets and operations are nested in a set.  Several members are one level. -/
def SetContent.depth : SetContent → Nat
  | .items [] => 0
  | .items [item] => item.depth
  | .items (item :: items) => 1 + max item.depth (SetContent.itemsDepth items)
  | .operation left right => 1 + max left.depth right.depth

def SetContent.itemsDepth : List SetItem → Nat
  | [] => 0
  | item :: items => max item.depth (SetContent.itemsDepth items)

end

mutual

def Expression.depth : Expression → Nat
  | .set _ content => 1 + content.depth
  | .repetition inner => 1 + inner.depth
  | .group _ inner => 1 + inner.depth
  | .concatenation parts => 1 + Expression.partsDepth parts
  | .alternation branches => 1 + Expression.partsDepth branches
  | _ => 0

def Expression.partsDepth : List Expression → Nat
  | [] => 0
  | part :: parts => max part.depth (Expression.partsDepth parts)

end

end HostRouting.Regex
