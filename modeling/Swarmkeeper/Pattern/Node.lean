import Swarmkeeper.Pattern.Expr
import Swarmkeeper.Pattern.Matcher
import Swarmkeeper.Unicode.Age
import Swarmkeeper.Unicode.Segmentation

/-!
What a pattern means. Flags have been applied: a node matches one byte of a set, one character of a
set, or nothing under a condition, and nodes are joined by sequence, choice and repetition. A pattern
for text may not match part of a character; one for bytes may.
-/

namespace Swarmkeeper.Pattern

open Swarmkeeper.Unicode

/-- Conditions on a place, with their reading of lines and words fixed. -/
inductive Condition where
  | textStart
  | textEnd
  /-- Lines end at a line feed, or also at a carriage return. -/
  | lineStart (carriageReturns : Bool)
  | lineEnd (carriageReturns : Bool)
  /-- A condition on words, of Unicode or of ASCII characters. -/
  | word (a : Assertion) (unicode : Bool)
deriving DecidableEq, Repr

/-- The meaning of a pattern. -/
inductive Node where
  | empty
  | byte (set : RangeSet)
  | char (set : RangeSet)
  | condition (c : Condition)
  | concat (a b : Node)
  | alternation (a b : Node)
  | repetition (inner : Node) (least : Nat) (most : Option Nat)
  /-- A group that is numbered; it matches what is inside. -/
  | capture (inner : Node)
deriving DecidableEq

/-- The values of the flags at one place of a pattern. -/
structure Flags where
  ignoreCase : Bool
  multiLine : Bool
  dotMatchesNewLine : Bool
  carriageReturns : Bool
  unicode : Bool
deriving DecidableEq, Repr

namespace Flags

/-- The flags at the start of a pattern. -/
def initial (s : Subject) : Flags := ⟨false, false, false, false, s = .text⟩

/-- The flags after a change. The order of greed and the reading of space do not matter here. -/
def set (f : Flags) : Flag × Bool → Flags
  | (.ignoreCase, b) => { f with ignoreCase := b }
  | (.multiLine, b) => { f with multiLine := b }
  | (.dotMatchesNewLine, b) => { f with dotMatchesNewLine := b }
  | (.carriageReturns, b) => { f with carriageReturns := b }
  | (.unicode, b) => { f with unicode := b }
  | (.swapGreed, _) | (.ignoreSpace, _) => f

/-- The flags after several changes. -/
def setAll (f : Flags) (changes : List (Flag × Bool)) : Flags := changes.foldl set f

end Flags

/-! ## Named sets -/

/-- The set of the ranges between two characters. -/
def asciiRanges (rs : List (Char × Char)) : RangeSet :=
  .ofRanges (rs.map fun (a, b) => (a.toNat, b.toNat))

/-- The set of a class of ASCII characters. -/
def asciiSet (name : List Char) : RangeSet :=
  match String.ofList name with
  | "alnum" => asciiRanges [('0', '9'), ('A', 'Z'), ('a', 'z')]
  | "alpha" => asciiRanges [('A', 'Z'), ('a', 'z')]
  | "ascii" => .interval 0 0x7F
  | "blank" => asciiRanges [('\t', '\t'), (' ', ' ')]
  | "cntrl" => .ofRanges [(0, 0x1F), (0x7F, 0x7F)]
  | "digit" => asciiRanges [('0', '9')]
  | "graph" => asciiRanges [('!', '~')]
  | "lower" => asciiRanges [('a', 'z')]
  | "print" => asciiRanges [(' ', '~')]
  | "punct" => asciiRanges [('!', '/'), (':', '@'), ('[', '`'), ('{', '~')]
  | "space" => asciiRanges [('\t', '\r'), (' ', ' ')]
  | "upper" => asciiRanges [('A', 'Z')]
  | "word" => asciiRanges [('0', '9'), ('A', 'Z'), ('_', '_'), ('a', 'z')]
  | "xdigit" => asciiRanges [('0', '9'), ('A', 'F'), ('a', 'f')]
  | _ => .empty

/-- The characters of words. -/
def wordSet : RangeSet :=
  .unions [Property.alphabetic, Category.mark, Category.decimalNumber, Category.connectorPunctuation,
    Property.joinControl]

/-- The set of a class with a letter of its own. -/
def shorthandSet (unicode : Bool) : Shorthand → RangeSet
  | .digit => if unicode then Category.decimalNumber else asciiSet "digit".toList
  | .space => if unicode then Property.whiteSpace else asciiSet "space".toList
  | .word => if unicode then wordSet else asciiSet "word".toList

/-- A name without the differences that do not count: case, spaces, dashes, underlines and a leading
"is". -/
def looseName (cs : List Char) : String :=
  let stem := match cs with
    | a :: b :: rest => if a.toLower = 'i' ∧ b.toLower = 's' then rest else cs
    | _ => cs
  let loose (cs : List Char) := String.ofList
    ((cs.filter fun c => c.toNat < 128 ∧ c ≠ ' ' ∧ c ≠ '_' ∧ c ≠ '-').map Char.toLower)
  if loose stem = "c" ∧ stem.length < cs.length then "isc" else loose stem

/-- The set that a table gives under a name. -/
def lookupName (table : List (List String × RangeSet)) (name : String) : Option RangeSet :=
  (table.find? fun (names, _) => names.contains name).map (·.2)

/-- The characters of a category or of a group of categories. -/
def categorySet? (name : String) : Option RangeSet :=
  match name with
  | "any" => some (.interval 0 RangeSet.lastCodePoint)
  | "ascii" => some (.interval 0 0x7F)
  | "assigned" => some (Category.unassigned.complement RangeSet.lastCodePoint)
  | name => lookupName Category.table name

/-- The characters that are used in a script. -/
def scriptExtensionSet? (name : String) : Option RangeSet := do
  let base ← lookupName Script.table name
  let isOf (s : String) := (Script.table.find? fun (names, _) => names.contains name).any
    fun (names, _) => names.contains s
  if isOf "common" ∨ isOf "inherited" then
    some (base.difference (.unions (Script.additions.map (·.2))))
  else
    let added := Script.additions.filter fun (s, _) => isOf s
    some (.unions (base :: added.map (·.2)))

/-- The characters with a property that is named alone: a property, a category or a script. -/
def namedSet? (name : String) : Option RangeSet :=
  let property := if name ∈ ["cf", "sc", "lc"] then none else lookupName Property.table name
  property <|> categorySet? name <|> lookupName Script.table name

/-- The characters for which a property has a value. -/
def valuedSet? (name value : String) : Option RangeSet :=
  if name ∈ ["gc", "generalcategory"] then categorySet? value
  else if name ∈ ["sc", "script"] then lookupName Script.table value
  else if name ∈ ["scx", "scriptextensions"] then scriptExtensionSet? value
  else if name = "age" then Age.upTo? value
  else if name ∈ ["gcb", "graphemeclusterbreak"] then lookupName GraphemeBreak.table value
  else if name ∈ ["wb", "wordbreak"] then lookupName WordBreak.table value
  else if name ∈ ["sb", "sentencebreak"] then lookupName SentenceBreak.table value
  else none

/-- The characters with a property, or with the value that is named. -/
def propertySet? : PropertyName → Option RangeSet
  | .letter c => namedSet? (looseName [c])
  | .named name => namedSet? (looseName name)
  | .valued name value _ => valuedSet? (looseName name) (looseName value)

/-- The name asks for the characters without the value. -/
def isExcluded : PropertyName → Bool
  | .valued _ _ excluded => excluded
  | _ => false

/-! ## Sets -/

/-- The greatest number of a set of this reading. -/
def lastOf (unicode : Bool) : Nat := if unicode then RangeSet.lastCodePoint else 255

/-- The set with the other cases of its ASCII letters. -/
def closeAscii (s : RangeSet) : RangeSet :=
  let upper := s.inter (.interval 65 90)
  let lower := s.inter (.interval 97 122)
  .ofRanges (s.ranges ++ upper.ranges.map (fun (a, b) => (a + 32, b + 32)) ++
    lower.ranges.map (fun (a, b) => (a - 32, b - 32)))

/-- The set with all cases of its members. -/
def closeCase (unicode : Bool) (s : RangeSet) : RangeSet :=
  if unicode then CaseFolding.close s else closeAscii s

/-- A set within the subject: one of bytes may hold more than ASCII only if bytes are matched. -/
def admitted (s : Subject) (f : Flags) (set : RangeSet) : Option RangeSet :=
  if f.unicode ∨ s = .bytes ∨ set.ranges.all (fun r => r.2 < 128) then some set else none

/-- Applies the flags and the negation to a set. -/
def foldAndNegate (s : Subject) (f : Flags) (negated : Bool) (set : RangeSet) : Option RangeSet :=
  let folded := if f.ignoreCase then closeCase f.unicode set else set
  admitted s f (if negated then folded.complement (lastOf f.unicode) else folded)

/-- What a literal matches: a character, or a byte above ASCII. -/
def scalar (s : Subject) (f : Flags) (l : Literal) : Option (Char ⊕ UInt8) :=
  if f.unicode ∨ ¬ l.twoDigits ∨ l.char.toNat < 128 then some (.inl l.char)
  else if s = .text then none
  else some (.inr (UInt8.ofNat l.char.toNat))

/-- The number of a literal in a class. A class of bytes holds no characters above ASCII. -/
def classNumber (s : Subject) (f : Flags) (l : Literal) : Option Nat := do
  match ← scalar s f l with
  | .inr b => some b.toNat
  | .inl c => if f.unicode ∨ c.toNat < 128 then some c.toNat else none

/-- The set of a property. Only characters have properties. -/
def propertyClass (s : Subject) (f : Flags) (negated : Bool) (name : PropertyName) :
    Option RangeSet := do
  if f.unicode then foldAndNegate s f (negated != isExcluded name) (← propertySet? name) else none

/-- The set of a class with a letter; it is closed under case as it is. -/
def shorthandClass (s : Subject) (f : Flags) (negated : Bool) (k : Shorthand) : Option RangeSet :=
  let set := shorthandSet f.unicode k
  admitted s f (if negated then set.complement (lastOf f.unicode) else set)

/-- The set of a class. -/
def classSet (s : Subject) (f : Flags) : ClassExpr → Option RangeSet
  | .empty => some .empty
  | .literal l => RangeSet.singleton <$> classNumber s f l
  | .range a b => do return .interval (← classNumber s f a) (← classNumber s f b)
  | .ascii negated name => foldAndNegate s f negated (asciiSet name)
  | .property negated name => propertyClass s f negated name
  | .shorthand negated k => shorthandClass s f negated k
  | .bracket negated inner => do foldAndNegate s f negated (← classSet s f inner)
  | .union a b => do return (← classSet s f a).union (← classSet s f b)
  | .operation op a b => do
      let a ← classSet s f a
      let b ← classSet s f b
      let (a, b) := if f.ignoreCase then (closeCase f.unicode a, closeCase f.unicode b) else (a, b)
      match op with
      | .intersection => some (a.inter b)
      | .difference => some (a.difference b)
      | .symmetricDifference => some (a.symmetricDifference b)

/-- The node of a set. -/
def setNode (f : Flags) (set : RangeSet) : Node := if f.unicode then .char set else .byte set

/-- The node of a literal. Without Unicode only ASCII letters have cases. -/
def literalNode (s : Subject) (f : Flags) (l : Literal) : Option Node := do
  match ← scalar s f l with
  | .inr b => some (.byte (.singleton b.toNat))
  | .inl c =>
      if ¬ f.ignoreCase then some (.char (.singleton c.toNat))
      else if f.unicode then some (.char (CaseFolding.close (.singleton c.toNat)))
      else some (.char (closeAscii (.singleton c.toNat)))

/-- The characters that end lines. -/
def newLines (f : Flags) : RangeSet :=
  if f.carriageReturns then .ofRanges [(10, 10), (13, 13)] else .singleton 10

/-- The node of a dot. -/
def dotNode (s : Subject) (f : Flags) : Option Node :=
  if ¬ f.unicode ∧ s = .text then none
  else
    let excluded := if f.dotMatchesNewLine then .empty else newLines f
    some (setNode f (excluded.complement (lastOf f.unicode)))

/-- The condition of an assertion. -/
def conditionOf (f : Flags) : Assertion → Condition
  | .textStart => .textStart
  | .textEnd => .textEnd
  | .lineStart => if f.multiLine then .lineStart f.carriageReturns else .textStart
  | .lineEnd => if f.multiLine then .lineEnd f.carriageReturns else .textEnd
  | a => .word a f.unicode

/-- The meaning of a pattern and the flags after it. -/
def Node.ofExpr (s : Subject) : Flags → Expr → Option (Node × Flags)
  | f, .empty => some (.empty, f)
  | f, .literal l => do return (← literalNode s f l, f)
  | f, .dot => do return (← dotNode s f, f)
  | f, .assertion a => some (.condition (conditionOf f a), f)
  | f, .property negated name => do return (setNode f (← propertyClass s f negated name), f)
  | f, .shorthand negated k => do return (setNode f (← shorthandClass s f negated k), f)
  | f, .bracket negated inner => do
      return (setNode f (← foldAndNegate s f negated (← classSet s f inner)), f)
  | f, .flags changes => some (.empty, f.setAll changes)
  | f, .group none inner => do
      let (n, _) ← ofExpr s f inner
      return (.capture n, f)
  | f, .group (some changes) inner => do
      let (n, _) ← ofExpr s (f.setAll changes) inner
      return (n, f)
  | f, .repetition inner least most => do
      let (n, f) ← ofExpr s f inner
      return (.repetition n least most, f)
  | f, .concat a b => do
      let (m, f) ← ofExpr s f a
      let (n, f) ← ofExpr s f b
      return (.concat m n, f)
  | f, .alternation a b => do
      let (m, f) ← ofExpr s f a
      let (n, f) ← ofExpr s f b
      return (.alternation m n, f)

end Swarmkeeper.Pattern
