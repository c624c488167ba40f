import Swarmkeeper.Pattern.Expr
import Swarmkeeper.Text.Blank

/-!
Reading a pattern. All faults are alike: a text either is a pattern or is none. Octal escapes,
references back to groups and conditions on what lies ahead or behind are not part of the language.
-/

namespace Swarmkeeper.Pattern.Reader

open Swarmkeeper.Text

/-- What is left to read, and what has been learned. -/
structure Cursor where
  rest : List Char
  /-- White space and comments are ignored. -/
  spaced : Bool
  /-- The names that groups have been given. -/
  names : List (List Char)

/-- A reader of part of a pattern. -/
abbrev Reads := StateT Cursor Option

/-- The text without white space and comments at its front. -/
def dropSpace : List Char → Bool → List Char
  | [], _ => []
  | c :: cs, comment =>
      if comment then dropSpace cs (c ≠ '\n')
      else if isBlank c then dropSpace cs false
      else if c = '#' then dropSpace cs true
      else c :: cs

/-- Skips white space and comments if they are ignored. -/
def skipSpace : Reads Unit := modify fun s =>
  if s.spaced then { s with rest := dropSpace s.rest false } else s

/-- The next character, which stays. -/
def peek? : Reads (Option Char) := do return (← get).rest.head?

/-- Takes the next character. -/
def next : Reads Char := do
  match (← get).rest with
  | [] => failure
  | c :: cs => modify fun s => { s with rest := cs }; return c

/-- Takes the next character and the white space after it. -/
def nextSpaced : Reads Char := do
  let c ← next
  skipSpace
  return c

/-- Takes this text if it comes next. -/
def take? (expected : List Char) : Reads Bool := do
  let s ← get
  if expected.isPrefixOf s.rest then
    set { s with rest := s.rest.drop expected.length }
    return true
  else return false

/-- Takes this character. -/
def expect (c : Char) : Reads Unit := do
  if (← next) = c then pure () else failure

/-- The characters that have a meaning of their own and stand for themselves after a backslash. -/
def isMeta (c : Char) : Bool := "\\.+*?()|[]\x7b\x7d^$#&-~".toList.contains c

/-- The character may follow a backslash to stand for itself. -/
def isEscapable (c : Char) : Bool :=
  isMeta c || (c.toNat < 128 && !c.isAlphanum && c ≠ '<' && c ≠ '>')

/-- The hexadecimal digits of a character number, each taken with the space after it. -/
def hexDigits : Nat → Reads (List Char)
  | 0 => return []
  | n + 1 => do
      let c ← nextSpaced
      if (hexValue? c).isNone then failure
      return c :: (← hexDigits n)

/-- The hexadecimal digits up to a closing brace. -/
def bracedDigits : Nat → Reads (List Char)
  | 0 => failure
  | fuel + 1 => do
      let c ← nextSpaced
      if c = '}' then return []
      if (hexValue? c).isNone then failure
      return c :: (← bracedDigits fuel)

/-- The character with the number that the digits write. -/
def charOfDigits (ds : List Char) : Reads Char := do
  let n := Unicode.RangeSet.hexNumber ds
  if ds = [] ∨ ¬ n.isValidChar then failure
  return Char.ofNat n

/-- A character number after the letter that starts it, of this many digits or in braces. -/
def hexLiteral (digits : Nat) : Reads Literal := do
  skipSpace
  match ← peek? with
  | some '{' =>
      let _ ← nextSpaced
      let ds ← bracedDigits ((← get).rest.length + 1)
      return ⟨← charOfDigits ds, false⟩
  | some _ => return ⟨← charOfDigits (← hexDigits digits), digits = 2⟩
  | none => failure

/-- The characters up to a closing brace. -/
def bracedName : Nat → Reads (List Char)
  | 0 => failure
  | fuel + 1 => do
      let c ← next
      if c = '}' then return []
      skipSpace
      return c :: (← bracedName fuel)

/-- What stands before and after the first occurrence of a text. -/
def splitAtText (sep : List Char) : List Char → Option (List Char × List Char)
  | [] => none
  | c :: cs =>
      if sep.isPrefixOf (c :: cs) then some ([], (c :: cs).drop sep.length)
      else (splitAtText sep cs).map fun (a, b) => (c :: a, b)

/-- A property as it is written between braces. -/
def propertyName (cs : List Char) : PropertyName :=
  match splitAtText ['!', '='] cs, splitOnce ':' cs, splitOnce '=' cs with
  | some (name, value), _, _ => .valued name value true
  | none, some (name, value), _ => .valued name value false
  | none, none, some (name, value) => .valued name value false
  | none, none, none => .named cs

/-- A property after the letter p. -/
def readProperty : Reads PropertyName := do
  skipSpace
  match ← peek? with
  | none | some '\\' => failure
  | some '{' =>
      let _ ← nextSpaced
      return propertyName (← bracedName ((← get).rest.length + 1))
  | some _ => return .letter (← nextSpaced)

/-- The kinds of word boundary that are written as a word in braces. -/
def boundaryNames : List (List Char × Assertion) :=
  [("start".toList, .wordStart), ("end".toList, .wordEnd),
   ("start-half".toList, .wordStartHalf), ("end-half".toList, .wordEndHalf)]

/-- A character of a boundary name. -/
def isBoundaryChar (c : Char) : Bool := c.isAlpha || c = '-'

/-- The characters of a boundary name. -/
def boundaryName : Nat → Reads (List Char)
  | 0 => return []
  | fuel + 1 => do
      match ← peek? with
      | some c => if isBoundaryChar c then return (← nextSpaced) :: (← boundaryName fuel) else return []
      | none => return []

/-- A word boundary, whose kind may follow in braces. Braces with something else are left for a
repetition. -/
def readBoundary : Reads Assertion := do
  let s ← get
  match s.rest with
  | '{' :: _ =>
      let _ ← nextSpaced
      match ← peek? with
      | none => failure
      | some c =>
          if isBoundaryChar c then
            let name ← boundaryName ((← get).rest.length)
            expect '}'
            match boundaryNames.lookup name with
            | some a => return a
            | none => failure
          else
            set s
            return .wordBoundary
  | _ => return .wordBoundary

/-- One thing that may stand in a class or in a sequence. -/
inductive Atom where
  | literal (l : Literal)
  | dot
  | assertion (a : Assertion)
  | property (negated : Bool) (name : PropertyName)
  | shorthand (negated : Bool) (s : Shorthand)

/-- What follows a backslash. -/
def readEscape : Reads Atom := do
  let c ← next
  match c with
  | 'x' => return .literal (← hexLiteral 2)
  | 'u' => return .literal (← hexLiteral 4)
  | 'U' => return .literal (← hexLiteral 8)
  | 'p' => return .property false (← readProperty)
  | 'P' => return .property true (← readProperty)
  | 'd' => return .shorthand false .digit
  | 'D' => return .shorthand true .digit
  | 's' => return .shorthand false .space
  | 'S' => return .shorthand true .space
  | 'w' => return .shorthand false .word
  | 'W' => return .shorthand true .word
  | 'a' => return .literal ⟨'\x07', false⟩
  | 'f' => return .literal ⟨'\x0c', false⟩
  | 't' => return .literal ⟨'\t', false⟩
  | 'n' => return .literal ⟨'\n', false⟩
  | 'r' => return .literal ⟨'\r', false⟩
  | 'v' => return .literal ⟨'\x0b', false⟩
  | 'A' => return .assertion .textStart
  | 'z' => return .assertion .textEnd
  | 'b' => return .assertion (← readBoundary)
  | 'B' => return .assertion .noWordBoundary
  | '<' => return .assertion .wordStart
  | '>' => return .assertion .wordEnd
  | c => if isEscapable c then return .literal ⟨c, false⟩ else failure

/-! ## Classes -/

/-- The names of the classes of ASCII characters. -/
def asciiNames : List String :=
  ["alnum", "alpha", "ascii", "blank", "cntrl", "digit", "graph", "lower", "print", "punct",
   "space", "upper", "word", "xdigit"]

/-- A class of ASCII characters in brackets and colons at the front of a text, and what follows. -/
def asciiClass? (cs : List Char) : Option (ClassExpr × List Char) := do
  let cs ← match cs with
    | '[' :: ':' :: cs => some cs
    | _ => none
  let (negated, cs) := match cs with
    | '^' :: cs => (true, cs)
    | cs => (false, cs)
  let (name, rest) ← splitOnce ':' cs
  match rest with
  | ']' :: rest => if asciiNames.contains (String.ofList name) then some (.ascii negated name, rest) else none
  | _ => none

/-- An item of a class without the range that it may start. -/
def readClassAtom : Reads Atom := do
  match ← next with
  | '\\' => readEscape
  | c => return .literal ⟨c, false⟩

/-- An atom as an item of a class. -/
def classItem : Atom → Reads ClassExpr
  | .literal l => return .literal l
  | .property negated name => return .property negated name
  | .shorthand negated s => return .shorthand negated s
  | .dot | .assertion _ => failure

/-- The character after the next one, with white space before it skipped if that is ignored. -/
def peekSecond? : Reads (Option Char) := do
  let s ← get
  match s.rest with
  | [] => return none
  | _ :: cs => return (if s.spaced then dropSpace cs false else cs).head?

/-- An item or a range of a class. -/
def readClassRange : Reads ClassExpr := do
  let first ← readClassAtom
  skipSpace
  match ← peek? with
  | none => failure
  | some c =>
      let second ← peekSecond?
      if c ≠ '-' ∨ second = some ']' ∨ second = some '-' then classItem first
      else
        let _ ← nextSpaced
        let last ← readClassAtom
        match first, last with
        | .literal a, .literal b => if a.char ≤ b.char then return .range a b else failure
        | _, _ => failure

/-- The class made of the items read so far. -/
def unionOf : List ClassExpr → ClassExpr
  | [] => .empty
  | [c] => c
  | c :: cs => .union c (unionOf cs)

/-- Dashes at the front of a class stand for themselves. -/
def leadingDashes : Nat → Reads (List ClassExpr)
  | 0 => return []
  | fuel + 1 => do
      match ← peek? with
      | none => failure
      | some '-' =>
          let _ ← nextSpaced
          return .literal ⟨'-', false⟩ :: (← leadingDashes fuel)
      | some _ => return []

/-- What follows an opening bracket: a sign of negation, and dashes or a closing bracket that stand
for themselves. -/
def classOpening : Reads (Bool × List ClassExpr) := do
  skipSpace
  let negated := (← peek?) = some '^'
  if negated then let _ ← nextSpaced
  let dashes ← leadingDashes ((← get).rest.length + 1)
  if dashes = [] ∧ (← peek?) = some ']' then
    let _ ← nextSpaced
    return (negated, [.literal ⟨']', false⟩])
  else return (negated, dashes)

/-- Applies the operation that waits for its right side. -/
def applyPending (pending : Option (SetOperation × ClassExpr)) (rhs : ClassExpr) : ClassExpr :=
  match pending with
  | none => rhs
  | some (op, lhs) => .operation op lhs rhs

/-- The operation that two equal characters write. -/
def operationOf? : Char → Option SetOperation
  | '&' => some .intersection
  | '-' => some .difference
  | '~' => some .symmetricDifference
  | _ => none

mutual
/-- A class after its opening bracket. -/
def readClass : Nat → Reads ClassExpr
  | 0 => failure
  | fuel + 1 => do
      let (negated, items) ← classOpening
      return .bracket negated (← readClassRest fuel none items.reverse)

/-- The rest of a class; items are in reverse order. -/
def readClassRest : Nat → Option (SetOperation × ClassExpr) → List ClassExpr → Reads ClassExpr
  | 0, _, _ => failure
  | fuel + 1, pending, items => do
      skipSpace
      let s ← get
      match s.rest with
      | [] => failure
      | '[' :: cs =>
          match asciiClass? s.rest with
          | some (c, rest) =>
              set { s with rest := rest }
              readClassRest fuel pending (c :: items)
          | none =>
              set { s with rest := cs }
              let inner ← readClass fuel
              readClassRest fuel pending (inner :: items)
      | ']' :: cs =>
          set { s with rest := cs }
          return applyPending pending (unionOf items.reverse)
      | c :: cs =>
          match operationOf? c, cs with
          | some op, d :: ds =>
              if c = d then
                set { s with rest := ds }
                readClassRest fuel (some (op, applyPending pending (unionOf items.reverse))) []
              else readClassRest fuel pending ((← readClassRange) :: items)
          | _, _ => readClassRest fuel pending ((← readClassRange) :: items)
end

/-! ## Repetitions -/

/-- Skips white space, whether it is ignored or not. -/
def skipBlank : Reads Unit := modify fun s => { s with rest := s.rest.dropWhile isBlank }

/-- Decimal digits, each taken with the space after it. -/
def decimalDigits : Nat → Reads (List Char)
  | 0 => return []
  | fuel + 1 => do
      match ← peek? with
      | some c => if (digitValue? c).isSome then return (← nextSpaced) :: (← decimalDigits fuel) else return []
      | none => return []

/-- A count of 32 bits with white space around it; `none` if there are no digits. -/
def readCount? : Reads (Option Nat) := do
  skipBlank
  let ds ← decimalDigits ((← get).rest.length)
  skipBlank
  if ds = [] then return none
  match readBelow? 0x100000000 ds with
  | some n => return some n
  | none => failure

/-- A count that must be there. -/
def readCount : Reads Nat := do
  match ← readCount? with
  | some n => return n
  | none => failure

/-- Takes a question mark that follows a repetition; it does not change what is found. -/
def skipReluctance : Reads Unit := do
  let _ ← take? ['?']

/-- Counts between braces, after the opening one. -/
def readCounts : Reads (Nat × Option Nat) := do
  skipSpace
  let least? ← readCount?
  let s ← get
  let bounds ← match least?, s.rest with
    | some least, '}' :: _ => pure (least, some least)
    | some least, ',' :: _ => do
        let _ ← nextSpaced
        if (← peek?) = some '}' then pure (least, none)
        else pure (least, some (← readCount))
    | _, _ => failure
  expect '}'
  skipSpace
  skipReluctance
  match bounds with
  | (least, some most) => if least ≤ most then return bounds else failure
  | _ => return bounds

/-- The expressions with the last one repeated; they are in reverse order. -/
def repeated (least : Nat) (most : Option Nat) : List Expr → Reads (List Expr)
  | [] | .flags _ :: _ | .empty :: _ => failure
  | e :: es => return .repetition e least most :: es

/-! ## Groups -/

/-- The flag with this letter. -/
def flagOf? : Char → Option Flag
  | 'i' => some .ignoreCase
  | 'm' => some .multiLine
  | 's' => some .dotMatchesNewLine
  | 'R' => some .carriageReturns
  | 'U' => some .swapGreed
  | 'u' => some .unicode
  | 'x' => some .ignoreSpace
  | _ => none

/-- Flags up to a colon or a closing parenthesis, which stays. No flag is given twice; a minus sign
is followed by flags. -/
def readFlags : Nat → Bool → List (Flag × Bool) → Reads (List (Flag × Bool))
  | 0, _, _ => failure
  | fuel + 1, negative, flags => do
      match ← peek? with
      | none => failure
      | some ':' | some ')' => return flags.reverse
      | some '-' =>
          let _ ← next
          if negative then failure
          match ← peek? with
          | some c => if (flagOf? c).isNone then failure else readFlags fuel true flags
          | none => failure
      | some c =>
          let _ ← next
          match flagOf? c with
          | none => failure
          | some f =>
              if flags.any (·.1 = f) then failure
              else readFlags fuel negative ((f, !negative) :: flags)

/-- The new value of white space being ignored. -/
def spacedAfter (changes : List (Flag × Bool)) (spaced : Bool) : Bool :=
  (changes.lookup .ignoreSpace).getD spaced

/-- A character of a group name. -/
def isNameChar (first : Bool) (c : Char) : Bool :=
  c = '_' || Unicode.Property.alphabetic.contains c.toNat ||
    (!first && (c = '.' || c = '[' || c = ']' || Unicode.Category.number.contains c.toNat))

/-- The name of a group up to the closing angle. -/
def readName : Nat → Bool → Reads (List Char)
  | 0, _ => failure
  | fuel + 1, first => do
      let c ← next
      if c = '>' then
        if first then failure else return []
      if isNameChar first c then return c :: (← readName fuel false) else failure

/-- A name that no other group has. -/
def readNewName : Reads Unit := do
  let name ← readName ((← get).rest.length + 1) true
  let s ← get
  if s.names.contains name then failure
  set { s with names := name :: s.names }

/-- How a group starts. -/
inductive Opening where
  | capture
  | flags (changes : List (Flag × Bool))
  | scoped (changes : List (Flag × Bool))

/-- What follows an opening parenthesis up to the expression of the group. -/
def readOpening : Reads Opening := do
  skipSpace
  for look in ["?=", "?!", "?<=", "?<!"] do
    if look.toList.isPrefixOf (← get).rest then failure
  if (← take? "?P<".toList) then
    readNewName
    return .capture
  else if (← take? "?<".toList) then
    readNewName
    return .capture
  else if (← take? ['?']) then
    let changes ← readFlags ((← get).rest.length + 1) false []
    match ← next with
    | ':' => return .scoped changes
    | _ => if changes = [] then failure else return .flags changes
  else return .capture

/-! ## Expressions -/

mutual
/-- A choice up to a closing parenthesis or the end, which stays. -/
def readChoices : Nat → Reads (List Expr)
  | 0 => failure
  | fuel + 1 => do
      let branch ← readSequence fuel []
      if (← take? ['|']) then return branch :: (← readChoices fuel) else return [branch]

/-- A sequence up to the end of its branch; what was read is in reverse order. -/
def readSequence : Nat → List Expr → Reads Expr
  | 0, _ => failure
  | fuel + 1, es => do
      skipSpace
      let s ← get
      match s.rest with
      | [] | '|' :: _ | ')' :: _ => return .ofSequence es.reverse
      | c :: cs =>
          set { s with rest := cs }
          match c with
          | '(' => readSequence fuel ((← readGroup fuel) :: es)
          | '[' => do
              match ← readClass fuel with
              | .bracket negated inner => readSequence fuel (.bracket negated inner :: es)
              | _ => failure
          | '*' => do skipReluctance; readSequence fuel (← repeated 0 none es)
          | '+' => do skipReluctance; readSequence fuel (← repeated 1 none es)
          | '?' => do skipReluctance; readSequence fuel (← repeated 0 (some 1) es)
          | '{' => do
              let (least, most) ← readCounts
              readSequence fuel (← repeated least most es)
          | '.' => readSequence fuel (.dot :: es)
          | '^' => readSequence fuel (.assertion .lineStart :: es)
          | '$' => readSequence fuel (.assertion .lineEnd :: es)
          | '\\' => do
              match ← readEscape with
              | .literal l => readSequence fuel (.literal l :: es)
              | .dot => readSequence fuel (.dot :: es)
              | .assertion a => readSequence fuel (.assertion a :: es)
              | .property negated name => readSequence fuel (.property negated name :: es)
              | .shorthand negated k => readSequence fuel (.shorthand negated k :: es)
          | c => readSequence fuel (.literal ⟨c, false⟩ :: es)

/-- A group or a change of flags after its opening parenthesis. -/
def readGroup : Nat → Reads Expr
  | 0 => failure
  | fuel + 1 => do
      let opening ← readOpening
      let outer := (← get).spaced
      match opening with
      | .flags changes =>
          modify fun s => { s with spaced := spacedAfter changes outer }
          return .flags changes
      | .capture => do
          let inner ← readChoices fuel
          expect ')'
          modify fun s => { s with spaced := outer }
          return .group none (.ofChoices inner)
      | .scoped changes => do
          modify fun s => { s with spaced := spacedAfter changes outer }
          let inner ← readChoices fuel
          expect ')'
          modify fun s => { s with spaced := outer }
          return .group (some changes) (.ofChoices inner)
end

/-- How deep a pattern may be nested. -/
def maxDepth : Nat := 250

/-- The pattern that a whole text writes. -/
def read? (cs : List Char) : Option Expr := do
  let (choices, s) ← (readChoices (3 * cs.length + 3)).run ⟨cs, false, []⟩
  let e := Expr.ofChoices choices
  if s.rest = [] ∧ e.depth .other ≤ maxDepth then some e else none

end Swarmkeeper.Pattern.Reader
