import Swarmkeeper.Json.Number

/-!
What a text holds as JSON, as far as it is JSON. A tree may break off: at the place of a fault stands
what a reader is told who arrives there. Readers differ in what they ask for, so a place where a list
or an object breaks off has a fault for a reader who asks for more, and another for a reader who
skips the value.
-/

namespace Swarmkeeper.Json

/-- What a string literal says, or the fault that only a reader of its content sees. -/
abbrev Literal := Except SyntaxFault String

/-- A place where no value is. -/
inductive Gap where
  /-- The text has ended. -/
  | nothing
  /-- A string literal that breaks off, as its reader and as one who skips it are told. -/
  | string (asked skipped : SyntaxFault)
  /-- Something that starts as another value or as none. -/
  | other (asked skipped : SyntaxFault)
deriving DecidableEq

namespace Gap

/-- What a reader of the value is told. -/
def asked : Gap → SyntaxFault
  | nothing => .endInValue
  | string f _ => f
  | other f _ => f

/-- What a reader who skips the value is told. -/
def skipped : Gap → SyntaxFault
  | nothing => .endInValue
  | string _ f => f
  | other _ f => f

end Gap

mutual
/-- A value, or the gap in its place. -/
inductive Tree where
  | null
  | bool (b : Bool)
  | number (n : Number)
  | string (s : Literal)
  | list (items : Items)
  | object (members : Members)
  | gap (g : Gap)

/-- The items of a list up to its end or to the place where it breaks off. -/
inductive Items where
  | close
  | item (value : Tree) (rest : Items)
  /-- Faults for a reader who asks for an item, expects the end, or skips the list. -/
  | broken (asked closing skipped : SyntaxFault)

/-- The members of an object up to its end or to the place where it breaks off. -/
inductive Members where
  | close
  | member (key : Literal) (value : Tree) (rest : Members)
  /-- A key without its colon. -/
  | bare (key : Literal) (fault : SyntaxFault)
  /-- Something other than a string in the place of a key. -/
  | stray (seen : Tree)
  /-- Faults for a reader who asks for a member or skips the object. -/
  | broken (asked skipped : SyntaxFault)
end

namespace Tree

/-- The string literal of a text. -/
def text (s : String) : Tree := .string (.ok s)

/-- The number literal of a natural number. -/
def natural (n : Nat) : Tree := .number (.ofNat n)

/-- The list of these values. -/
def ofList (values : List Tree) : Tree := .list (values.foldr .item .close)

/-- The object of these members. -/
def ofMembers (members : List (String × Tree)) : Tree :=
  .object (members.foldr (fun (key, value) rest => .member (.ok key) value rest) .close)

end Tree

mutual
/-- What a reader who skips the value is told, if there is a fault. -/
def Tree.skip : Tree → Except SyntaxFault Unit
  | .list items => items.skip
  | .object members => members.skip
  | .gap g => .error g.skipped
  | _ => .ok ()

def Items.skip : Items → Except SyntaxFault Unit
  | .close => .ok ()
  | .item value rest => do value.skip; rest.skip
  | .broken _ _ f => .error f

def Members.skip : Members → Except SyntaxFault Unit
  | .close => .ok ()
  | .member _ value rest => do value.skip; rest.skip
  | .bare _ f => .error f
  | .stray _ => .error .keyMustBeString
  | .broken _ f => .error f
end

mutual
/-- What a reader of any value is told who keeps everything, at `depth` levels still allowed. -/
def Tree.keep (depth : Nat) : Tree → Except SyntaxFault Unit
  | .null | .bool _ => .ok ()
  | .number n => n.value.map fun _ => ()
  | .string s => s.map fun _ => ()
  | .list items => if depth ≤ 1 then .error .tooDeep else items.keep (depth - 1)
  | .object members => if depth ≤ 1 then .error .tooDeep else members.keep (depth - 1)
  | .gap g => .error g.asked

def Items.keep (depth : Nat) : Items → Except SyntaxFault Unit
  | .close => .ok ()
  | .item value rest => do value.keep depth; rest.keep depth
  | .broken f _ _ => .error f

def Members.keep (depth : Nat) : Members → Except SyntaxFault Unit
  | .close => .ok ()
  | .member key value rest => do
      let _ ← key
      value.keep depth
      rest.keep depth
  | .bare key f => do
      let _ ← key
      .error f
  | .stray _ => .error .keyMustBeString
  | .broken f _ => .error f
end

end Swarmkeeper.Json
