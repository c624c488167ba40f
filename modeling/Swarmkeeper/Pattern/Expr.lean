import Swarmkeeper.Unicode.CaseFolding
import Swarmkeeper.Unicode.Property
import Swarmkeeper.Unicode.Script

/-!
Search patterns as they are written: literals, classes, assertions, repetitions, groups and the flags
that change the meaning of what follows them.
-/

namespace Swarmkeeper.Pattern

/-- A character that stands for itself, however it is written. -/
structure Literal where
  char : Char
  /-- Written as a backslash, the letter x and exactly two digits: a byte where bytes are matched. -/
  twoDigits : Bool
deriving DecidableEq, Repr

/-- A character property as a pattern names it. -/
inductive PropertyName where
  | letter (c : Char)
  | named (name : List Char)
  /-- A name, a value, and whether the value is excluded. -/
  | valued (name value : List Char) (excluded : Bool)
deriving DecidableEq, Repr

/-- The classes with a letter of their own. -/
inductive Shorthand where
  | digit
  | space
  | word
deriving DecidableEq, Repr

/-- The operations between sets inside brackets. -/
inductive SetOperation where
  | intersection
  | difference
  | symmetricDifference
deriving DecidableEq, Repr

/-- What stands between brackets. -/
inductive ClassExpr where
  | empty
  | literal (l : Literal)
  | range (first last : Literal)
  /-- A class of ASCII characters by name. -/
  | ascii (negated : Bool) (name : List Char)
  | property (negated : Bool) (name : PropertyName)
  | shorthand (negated : Bool) (s : Shorthand)
  | bracket (negated : Bool) (inner : ClassExpr)
  | union (a b : ClassExpr)
  | operation (op : SetOperation) (a b : ClassExpr)
deriving DecidableEq, Repr

/-- The flags of a pattern. -/
inductive Flag where
  | ignoreCase
  | multiLine
  | dotMatchesNewLine
  | carriageReturns
  | swapGreed
  | unicode
  | ignoreSpace
deriving DecidableEq, Repr

/-- Conditions on a place in the text. -/
inductive Assertion where
  | lineStart
  | lineEnd
  | textStart
  | textEnd
  | wordBoundary
  | noWordBoundary
  | wordStart
  | wordEnd
  | wordStartHalf
  | wordEndHalf
deriving DecidableEq, Repr

/-- A pattern as it is written. -/
inductive Expr where
  | empty
  | literal (l : Literal)
  | dot
  | assertion (a : Assertion)
  | property (negated : Bool) (name : PropertyName)
  | shorthand (negated : Bool) (s : Shorthand)
  | bracket (negated : Bool) (inner : ClassExpr)
  /-- Flags that hold from here to the end of the group, each with its new value. -/
  | flags (changes : List (Flag × Bool))
  /-- A group that is numbered, or one with flags that hold inside it. -/
  | group (changes : Option (List (Flag × Bool))) (inner : Expr)
  | repetition (inner : Expr) (least : Nat) (most : Option Nat)
  | concat (a b : Expr)
  | alternation (a b : Expr)
deriving DecidableEq, Repr

namespace ClassExpr

/-- The depth of nesting, a union of several items counting once. -/
def depth : Bool → ClassExpr → Nat
  | _, bracket _ inner => inner.depth false + 1
  | inside, union a b => max (a.depth true) (b.depth true) + (if inside then 0 else 1)
  | _, operation _ a b => max (a.depth false) (b.depth false) + 1
  | _, _ => 0

end ClassExpr

/-- The kind of the expression around another. -/
inductive Around where
  | concat
  | alternation
  | other
deriving DecidableEq

namespace Expr

/-- The depth of nesting; neighbours in one sequence or one choice are on one level. -/
def depth : Around → Expr → Nat
  | _, bracket _ inner => inner.depth false + 1
  | _, group _ inner => inner.depth .other + 1
  | _, repetition inner _ _ => inner.depth .other + 1
  | around, concat a b =>
      max (a.depth .concat) (b.depth .concat) + (if around = .concat then 0 else 1)
  | around, alternation a b =>
      max (a.depth .alternation) (b.depth .alternation) + (if around = .alternation then 0 else 1)
  | _, _ => 0

/-- The sequence of several expressions. -/
def ofSequence : List Expr → Expr
  | [] => .empty
  | [e] => e
  | e :: es => .concat e (ofSequence es)

/-- The choice between several expressions. -/
def ofChoices : List Expr → Expr
  | [] => .empty
  | [e] => e
  | e :: es => .alternation e (ofChoices es)

end Expr

end Swarmkeeper.Pattern
