import Swarmkeeper.Json.Reader
import Swarmkeeper.Decimal.Shortest
import Swarmkeeper.Text.Quoted

/-!
Codecs between trees and values of a type. A record is described once, as the list of its fields in
order; that list reads it from an object, from a list of field values, and writes it. Reading stops
at the first fault in the order of the text.
-/

namespace Swarmkeeper.Json

open Swarmkeeper.Text

/-- A value that was met where another was expected. -/
inductive Found where
  | null
  | boolean (b : Bool)
  | numeric (n : Numeric)
  | string (s : String)
  | list
  | object

/-- Why a tree is not the written form of a value. -/
inductive ReadFault where
  | malformed (f : SyntaxFault)
  | wrongType (found : Found) (expected : String)
  | wrongValue (found : Found) (expected : String)
  | wrongLength (length : Nat) (expected : String)
  | unknownVariant (name : String) (known : List String)
  | missingField (name : String)
  | duplicateField (name : String)

/-- A boolean as text. -/
def boolText (b : Bool) : String := if b then "true" else "false"

/-- A numeric value as messages show it. -/
def Numeric.describe : Numeric → String
  | natural n => s!"integer `{n}`"
  | negative n => s!"integer `{n}`"
  | floating x => s!"floating point `{String.ofList (Decimal.text64 x)}`"

/-- A value as messages show it. -/
def Found.describe : Found → String
  | null => "null"
  | boolean b => s!"boolean `{boolText b}`"
  | numeric n => n.describe
  | string s => s!"string {Quoted.quote s}"
  | list => "sequence"
  | object => "map"

/-- The known names as messages list them. -/
def knownText (known : List String) : String :=
  match known with
  | [a] => s!"`{a}`"
  | [a, b] => s!"`{a}` or `{b}`"
  | names => "one of " ++ ", ".intercalate (names.map fun n => s!"`{n}`")

/-- The wording of a fault. -/
def ReadFault.message : ReadFault → String
  | malformed f => f.message
  | wrongType found expected => s!"invalid type: {found.describe}, expected {expected}"
  | wrongValue found expected => s!"invalid value: {found.describe}, expected {expected}"
  | wrongLength n expected => s!"invalid length {n}, expected {expected}"
  | unknownVariant name known => s!"unknown variant `{name}`, expected {knownText known}"
  | missingField name => s!"missing field `{name}`"
  | duplicateField name => s!"duplicate field `{name}`"

/-- The outcome of reading. -/
abbrev Read (α : Type) := Except ReadFault α

/-- A reader and a writer of one type. -/
structure Codec (α : Type) where
  read : Tree → Read α
  write : α → Tree

/-- A syntax fault met while reading. -/
def malformed {α : Type} (x : Except SyntaxFault α) : Read α := x.mapError .malformed

/-- The fault of a tree that is not of the expected type. -/
def mismatch {α : Type} (expected : String) : Tree → Read α
  | .null => .error (.wrongType .null expected)
  | .bool b => .error (.wrongType (.boolean b) expected)
  | .number n => do
      let v ← malformed n.value
      .error (.wrongType (.numeric v) expected)
  | .string s => do
      let s ← malformed s
      .error (.wrongType (.string s) expected)
  | .list _ => .error (.wrongType .list expected)
  | .object _ => .error (.wrongType .object expected)
  | .gap g => .error (.malformed g.asked)

namespace Codec

/-- Reads a boolean. -/
def readBool : Tree → Read Bool
  | .bool b => .ok b
  | t => mismatch "a boolean" t

/-- Booleans. -/
def bool : Codec Bool := ⟨readBool, .bool⟩

/-- Reads a string. -/
def readText : Tree → Read String
  | .string s => malformed s
  | t => mismatch "a string" t

/-- Strings. -/
def text : Codec String := ⟨readText, .text⟩

/-- Reads a path. -/
def readPath : Tree → Read String
  | .string s => malformed s
  | t => mismatch "path string" t

/-- Paths, written as strings. -/
def path : Codec String := ⟨readPath, .text⟩

/-- Reads a natural number below `limit`; `expected` names its type. -/
def readNatural (limit : Nat) (expected : String) : Tree → Read Nat
  | .number n => do
      match ← malformed n.value with
      | .natural k => if k < limit then .ok k else .error (.wrongValue (.numeric (.natural k)) expected)
      | .negative k => .error (.wrongValue (.numeric (.negative k)) expected)
      | .floating x => .error (.wrongType (.numeric (.floating x)) expected)
  | t => mismatch expected t

/-- Words of 64 bits. -/
def word64 : Codec UInt64 :=
  ⟨fun t => UInt64.ofNat <$> readNatural 0x10000000000000000 "u64" t, fun n => .natural n.toNat⟩

/-- Words of 32 bits. -/
def word32 : Codec UInt32 :=
  ⟨fun t => UInt32.ofNat <$> readNatural 0x100000000 "u32" t, fun n => .natural n.toNat⟩

/-- Counts, of 64 bits. -/
def count : Codec UInt64 :=
  ⟨fun t => UInt64.ofNat <$> readNatural 0x10000000000000000 "usize" t, fun n => .natural n.toNat⟩

/-- Reads a floating-point value of 32 bits; whole numbers are rounded. -/
def readFloat32 : Tree → Read Float32
  | .number n => do
      match ← malformed n.value with
      | .natural k => .ok k.toUInt64.toFloat32
      | .negative k => .ok (-(k.natAbs.toUInt64.toFloat32))
      | .floating x => .ok x.toFloat32
  | t => mismatch "f32" t

/-- The number literal that text of the form sign, digits, point, digits, exponent writes. -/
def numberOfText (cs : List Char) : Tree :=
  match cs with
  | '-' :: cs => (Reader.readNumberTree true cs).1
  | cs => (Reader.readNumberTree false cs).1

/-- Writes a floating-point value of 32 bits; one that is not finite is null. -/
def writeFloat32 (x : Float32) : Tree :=
  if x.isFinite then numberOfText (Decimal.text32 x) else .null

/-- Floating-point values of 32 bits. -/
def float32 : Codec Float32 := ⟨readFloat32, writeFloat32⟩

/-- A value or null. -/
def optional {α : Type} (c : Codec α) : Codec (Option α) where
  read
    | .null => .ok none
    | t => some <$> c.read t
  write
    | none => .null
    | some x => c.write x

/-- Reads every item of a list. -/
def readItems {α : Type} (c : Codec α) : Items → Read (List α)
  | .close => .ok []
  | .item value rest => do
      let x ← c.read value
      let xs ← readItems c rest
      .ok (x :: xs)
  | .broken f _ _ => .error (.malformed f)

/-- Lists. -/
def list {α : Type} (c : Codec α) : Codec (List α) where
  read
    | .list items => readItems c items
    | t => mismatch "a sequence" t
  write xs := .ofList (xs.map c.write)

/-- The variant with this name. -/
def variant {α : Type} (variants : List (String × α)) (name : String) : Read α :=
  match variants.lookup name with
  | some x => .ok x
  | none => .error (.unknownVariant name (variants.map (·.1)))

/-- The end of an object that names a variant; nothing may follow its one member. -/
def variantEnd : Members → Read Unit
  | .close => .ok ()
  | .broken .endInObject _ => .error (.malformed .endInObject)
  | _ => .error (.malformed .expectedValue)

/-- Reads a variant without content: its name, or an object with the name and null. -/
def readVariant {α : Type} (variants : List (String × α)) : Tree → Read α
  | .string s => do
      let name ← malformed s
      variant variants name
  | .object (.member key value rest) => do
      let name ← malformed key
      let x ← variant variants name
      match value with
      | .null => pure ()
      | t => mismatch "unit" t
      variantEnd rest
      .ok x
  | .object (.bare key fault) => do
      let name ← malformed key
      let _ ← variant variants name
      .error (.malformed fault)
  | .object (.stray seen) => mismatch "variant identifier" seen
  | .object .close => .error (.malformed .expectedValue)
  | .object (.broken .endInObject _) => .error (.malformed .endInValue)
  | .object (.broken f _) => .error (.malformed f)
  | .gap .nothing => .error (.malformed .endInValue)
  | .gap (.string f _) => .error (.malformed f)
  | _ => .error (.malformed .expectedValue)

/-- Variants without content, written by name. -/
def enumeration {α : Type} (variants : List (String × α)) (name : α → String) : Codec α :=
  ⟨readVariant variants, fun x => .text (name x)⟩

end Codec

/-- A field of a record: its name, how its value is set from a tree and written. -/
structure RecordField (σ : Type) where
  name : String
  read : Tree → σ → Read σ
  write : σ → Tree

/-- The field with these accessors. -/
def RecordField.of {σ α : Type} (name : String) (c : Codec α) (get : σ → α) (set : α → σ → σ) :
    RecordField σ where
  name := name
  read t s := do
    let x ← c.read t
    .ok (set x s)
  write s := c.write (get s)

namespace Record

/-- Sets fields from the members of an object. Members with other names are skipped; a field is given
at most once. -/
def readMembers {σ : Type} (fields : List (RecordField σ)) (seen : List String) : Members → σ → Read σ
  | .close, s => .ok s
  | .member key value rest, s => do
      let name ← malformed key
      match fields.find? (·.name = name) with
      | none =>
          malformed value.skip
          readMembers fields seen rest s
      | some field =>
          if name ∈ seen then .error (.duplicateField name)
          else
            let s ← field.read value s
            readMembers fields (name :: seen) rest s
  | .bare key fault, _ => do
      let name ← malformed key
      if name ∈ seen then .error (.duplicateField name) else .error (.malformed fault)
  | .stray _, _ => .error (.malformed .keyMustBeString)
  | .broken f _, _ => .error (.malformed f)

/-- Sets fields from the items of a list, in the order of the fields. Missing items leave the
fields after them alone; there may not be more items than fields. -/
def readItems {σ : Type} : List (RecordField σ) → Items → σ → Read σ
  | _, .close, s => .ok s
  | field :: fields, .item value rest, s => do
      let s ← field.read value s
      readItems fields rest s
  | _ :: _, .broken f _ _, _ => .error (.malformed f)
  | [], .broken _ f _, _ => .error (.malformed f)
  | [], .item _ _, _ => .error (.malformed .trailingCharacters)

/-- The members of a record as an object. -/
def write {σ : Type} (fields : List (RecordField σ)) (s : σ) : Tree :=
  .ofMembers (fields.map fun f => (f.name, f.write s))

/-- Records of these fields. A field that is not given has its value in `base`. -/
def codec {σ : Type} (name : String) (fields : List (RecordField σ)) (base : σ) : Codec σ where
  read
    | .object members => readMembers fields [] members base
    | .list items => readItems fields items base
    | t => mismatch s!"struct {name}" t
  write := write fields

end Record

/-- Reads a whole text; nothing but space may follow the value. -/
def Codec.ofChars {α : Type} (c : Codec α) (cs : List Char) : Read α := do
  let document := Document.ofChars cs
  let x ← c.read document.root
  if document.trailing then .error (.malformed .trailingCharacters) else .ok x

/-- Reads a whole text; nothing but space may follow the value. -/
def Codec.ofText {α : Type} (c : Codec α) (s : String) : Read α := c.ofChars s.toList

end Swarmkeeper.Json
