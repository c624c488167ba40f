import Swarmkeeper.Json.Tree

/-!
Reading a text as a tree. The reader never fails: where the text stops being JSON, the tree has a
gap. Fuel bounds the recursion; each character of the text is worth three steps, which is as much as a
bracket can need.
-/

namespace Swarmkeeper.Json.Reader

open Swarmkeeper.Text

/-- The four characters that may stand between the parts of a value. -/
def isSpace (c : Char) : Bool := c = ' ' || c = '\n' || c = '\t' || c = '\r'

/-- The text from the first character on that is not space. -/
def skipSpace (cs : List Char) : List Char := cs.dropWhile isSpace

/-- Four hexadecimal digits. A text too short for them ends inside the string; its length counts
bytes. -/
def readHex (cs : List Char) : Except SyntaxFault (Nat × List Char) :=
  match cs with
  | a :: b :: c :: d :: rest =>
      match hexValue? a, hexValue? b, hexValue? c, hexValue? d with
      | some a, some b, some c, some d => .ok (((a * 16 + b) * 16 + c) * 16 + d, rest)
      | _, _, _, _ => .error .invalidEscape
  | _ => if (String.ofList cs).utf8ByteSize < 4 then .error .endInString else .error .invalidEscape

/-- The character that a letter after a backslash stands for. -/
def escapeChar? : Char → Option Char
  | '"' => some '"'
  | '\\' => some '\\'
  | '/' => some '/'
  | 'b' => some '\x08'
  | 'f' => some '\x0c'
  | 'n' => some '\n'
  | 'r' => some '\r'
  | 't' => some '\t'
  | _ => none

/-- The character of a hexadecimal escape, which may need a second one. -/
def readUnicode (cs : List Char) : Except SyntaxFault (Char × List Char) := do
  let (n, rest) ← readHex cs
  if 0xDC00 ≤ n ∧ n ≤ 0xDFFF then .error .loneSurrogate
  else if n < 0xD800 ∨ 0xDBFF < n then .ok (Char.ofNat n, rest)
  else match rest with
    | [] => .error .endInString
    | '\\' :: [] => .error .endInString
    | '\\' :: 'u' :: rest => do
        let (m, rest) ← readHex rest
        if m < 0xDC00 ∨ 0xDFFF < m then .error .loneSurrogate
        else .ok (Char.ofNat ((n - 0xD800) * 0x400 + (m - 0xDC00) + 0x10000), rest)
    | _ => .error .endInHexEscape

/-- The content of a string literal after its opening quote, and what follows the closing one. -/
def readContent : Nat → List Char → Except SyntaxFault (List Char × List Char)
  | 0, _ | _, [] => .error .endInString
  | fuel + 1, c :: cs =>
      if c = '"' then .ok ([], cs)
      else if c = '\\' then
        match cs with
        | [] => .error .endInString
        | 'u' :: cs => do
            let (x, cs) ← readUnicode cs
            let (xs, rest) ← readContent fuel cs
            .ok (x :: xs, rest)
        | e :: cs =>
            match escapeChar? e with
            | none => .error .invalidEscape
            | some x => do
                let (xs, rest) ← readContent fuel cs
                .ok (x :: xs, rest)
      else if c.toNat < 0x20 then .error .controlCharacter
      else do
        let (xs, rest) ← readContent fuel cs
        .ok (c :: xs, rest)

/-- What follows a string literal whose content is skipped: escapes need four hexadecimal digits, not
a character. -/
def skipContent : Nat → List Char → Except SyntaxFault (List Char)
  | 0, _ | _, [] => .error .endInString
  | fuel + 1, c :: cs =>
      if c = '"' then .ok cs
      else if c = '\\' then
        match cs with
        | [] => .error .endInString
        | 'u' :: cs => do
            let (_, cs) ← readHex cs
            skipContent fuel cs
        | e :: cs => if (escapeChar? e).isNone then .error .invalidEscape else skipContent fuel cs
      else if c.toNat < 0x20 then .error .controlCharacter
      else skipContent fuel cs

/-- A string literal after its opening quote: the literal and the rest, or the two faults. -/
def readLiteral (cs : List Char) : Except (SyntaxFault × SyntaxFault) (Literal × List Char) :=
  match readContent (cs.length + 1) cs, skipContent (cs.length + 1) cs with
  | .ok (xs, rest), _ => .ok (.ok (String.ofList xs), rest)
  | .error f, .ok rest => .ok (.error f, rest)
  | .error f, .error g => .error (f, g)

/-- The digits at the front of a text, and what follows them. -/
def spanDigits (cs : List Char) : List Char × List Char :=
  cs.span fun c => (digitValue? c).isSome

/-- The fault where a digit is missing: a reader is told that the text has ended, one who skips is
not. -/
def missingDigit (cs : List Char) : SyntaxFault :=
  if cs = [] then .endInValue else .invalidNumber

/-- The exponent of a number, if there is one. -/
def readExponent (cs : List Char) :
    Except SyntaxFault (Option (List Char × List Char) × List Char) :=
  match cs with
  | c :: cs =>
      if c = 'e' ∨ c = 'E' then
        let (sign, cs) := match cs with
          | '+' :: cs => (['+'], cs)
          | '-' :: cs => (['-'], cs)
          | cs => ([], cs)
        match spanDigits cs with
        | ([], rest) => .error (missingDigit rest)
        | (ds, rest) => .ok (some (sign, ds), rest)
      else .ok (none, c :: cs)
  | [] => .ok (none, [])

/-- The fraction of a number, if there is one. -/
def readFraction (cs : List Char) : Except SyntaxFault (List Char × List Char) :=
  match cs with
  | '.' :: cs =>
      match spanDigits cs with
      | ([], rest) => .error (missingDigit rest)
      | (ds, rest) => .ok (ds, rest)
  | cs => .ok ([], cs)

/-- The whole digits of a number: a zero alone, or digits that do not start with zero. -/
def readWhole (cs : List Char) : Except SyntaxFault (List Char × List Char) :=
  match spanDigits cs with
  | ([], rest) => .error (missingDigit rest)
  | ('0' :: _ :: _, _) => .error .invalidNumber
  | (ds, rest) => .ok (ds, rest)

/-- A number from its first digit on. -/
def readNumber (negative : Bool) (cs : List Char) : Except SyntaxFault (Number × List Char) := do
  let (whole, cs) ← readWhole cs
  let (fraction, cs) ← readFraction cs
  let (exponent, cs) ← readExponent cs
  .ok (⟨negative, whole, fraction, exponent⟩, cs)

/-- The letters of a word that has begun, and what follows. -/
def readWord (value : Tree) : List Char → List Char → Tree × List Char
  | [], cs => (value, cs)
  | _ :: _, [] => (.gap (.other .endInValue .endInValue), [])
  | w :: ws, c :: cs =>
      if c = w then readWord value ws cs else (.gap (.other .expectedIdent .expectedIdent), cs)

/-- The number as a tree. -/
def readNumberTree (negative : Bool) (cs : List Char) : Tree × List Char :=
  match readNumber negative cs with
  | .ok (n, rest) => (.number n, rest)
  | .error f => (.gap (.other f .invalidNumber), [])

mutual
/-- The value at the front of a text after space, and what follows it. -/
def readTree : Nat → List Char → Tree × List Char
  | 0, _ => (.gap .nothing, [])
  | fuel + 1, cs =>
      match skipSpace cs with
      | [] => (.gap .nothing, [])
      | 'n' :: cs => readWord .null "ull".toList cs
      | 't' :: cs => readWord (.bool true) "rue".toList cs
      | 'f' :: cs => readWord (.bool false) "alse".toList cs
      | '-' :: cs => readNumberTree true cs
      | '"' :: cs =>
          match readLiteral cs with
          | .ok (s, rest) => (.string s, rest)
          | .error (f, g) => (.gap (.string f g), [])
      | '[' :: cs =>
          let (items, rest) := readItems fuel true cs
          (.list items, rest)
      | '{' :: cs =>
          let (members, rest) := readMembers fuel true cs
          (.object members, rest)
      | c :: cs =>
          if (digitValue? c).isSome then readNumberTree false (c :: cs)
          else (.gap (.other .expectedValue .expectedValue), cs)

/-- The items of a list after its bracket or after an item. -/
def readItems : Nat → Bool → List Char → Items × List Char
  | 0, _, _ => (.broken .endInList .endInList .endInList, [])
  | fuel + 1, first, cs =>
      match skipSpace cs with
      | [] => (.broken .endInList .endInList .endInList, [])
      | ']' :: rest => (.close, rest)
      | c :: rest =>
          if first then readItem fuel (c :: rest)
          else if c = ',' then
            match skipSpace rest with
            | [] => (.broken .endInValue .trailingCharacters .endInValue, [])
            | ']' :: rest => (.broken .trailingComma .trailingComma .expectedValue, rest)
            | rest => readItem fuel rest
          else (.broken .expectedCommaOrBracket .trailingCharacters .expectedCommaOrBracket, [])

/-- An item and the items after it. -/
def readItem : Nat → List Char → Items × List Char
  | 0, _ => (.broken .endInList .endInList .endInList, [])
  | fuel + 1, cs =>
      let (value, rest) := readTree fuel cs
      let (items, rest) := readItems fuel false rest
      (.item value items, rest)

/-- The members of an object after its brace or after a member. -/
def readMembers : Nat → Bool → List Char → Members × List Char
  | 0, _, _ => (.broken .endInObject .endInObject, [])
  | fuel + 1, first, cs =>
      match skipSpace cs with
      | [] => (.broken .endInObject .endInObject, [])
      | '}' :: rest => (.close, rest)
      | c :: rest =>
          if first then readMember fuel (c :: rest)
          else if c = ',' then
            match skipSpace rest with
            | [] => (.broken .endInValue .endInObject, [])
            | '}' :: rest => (.broken .trailingComma .keyMustBeString, rest)
            | rest => readMember fuel rest
          else (.broken .expectedCommaOrBrace .expectedCommaOrBrace, [])

/-- A member and the members after it. -/
def readMember : Nat → List Char → Members × List Char
  | 0, _ => (.broken .endInObject .endInObject, [])
  | fuel + 1, '"' :: cs =>
      match readLiteral cs with
      | .error (f, g) => (.broken f g, [])
      | .ok (key, rest) =>
          match skipSpace rest with
          | [] => (.bare key .endInObject, [])
          | ':' :: rest =>
              let (value, rest) := readTree fuel rest
              let (members, rest) := readMembers fuel false rest
              (.member key value members, rest)
          | _ => (.bare key .expectedColon, [])
  | fuel + 1, cs => (.stray (readTree fuel cs).1, [])
end

end Reader

/-- A text that holds one value: the value, and the fault of what follows it, if anything does. -/
structure Document where
  root : Tree
  trailing : Bool

/-- The value of a whole text. -/
def Document.ofChars (cs : List Char) : Document :=
  let (root, rest) := Reader.readTree (3 * cs.length + 3) cs
  ⟨root, Reader.skipSpace rest ≠ []⟩

end Swarmkeeper.Json
