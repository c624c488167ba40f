import Swarmkeeper.Json.Codec

/-!
Writing a tree as text, without any space. In strings the quote, the backslash and the control
characters are escaped; everything else stands for itself.
-/

namespace Swarmkeeper.Json

open Swarmkeeper.Text

/-- The character inside a string literal. -/
def escapeChar (c : Char) : List Char :=
  if c = '"' then ['\\', '"']
  else if c = '\\' then ['\\', '\\']
  else if c = '\x08' then ['\\', 'b']
  else if c = '\x0c' then ['\\', 'f']
  else if c = '\n' then ['\\', 'n']
  else if c = '\r' then ['\\', 'r']
  else if c = '\t' then ['\\', 't']
  else if c.toNat < 0x20 then '\\' :: 'u' :: padZeros 4 (hexadecimal c.toNat)
  else [c]

/-- The string literal of a text. -/
def literalChars (s : String) : List Char := '"' :: s.toList.flatMap escapeChar ++ ['"']

/-- A literal that can be read, as text; one that cannot is empty. -/
def Literal.toChars : Literal → List Char
  | .ok s => literalChars s
  | .error _ => literalChars ""

mutual
/-- The tree as text. What breaks off is written as far as it goes. -/
def Tree.toChars : Tree → List Char
  | .null => "null".toList
  | .bool b => (boolText b).toList
  | .number n => n.toChars
  | .string s => Literal.toChars s
  | .list items => '[' :: items.toChars true
  | .object members => '{' :: members.toChars true
  | .gap _ => []

/-- The items of a list and its end. -/
def Items.toChars (first : Bool) : Items → List Char
  | .close => [']']
  | .item value rest => (if first then [] else [',']) ++ value.toChars ++ rest.toChars false
  | .broken .. => []

/-- The members of an object and its end. -/
def Members.toChars (first : Bool) : Members → List Char
  | .close => ['}']
  | .member key value rest =>
      (if first then [] else [',']) ++ Literal.toChars key ++ ':' :: value.toChars ++
        rest.toChars false
  | .bare key _ => Literal.toChars key
  | .stray seen => seen.toChars
  | .broken .. => []
end

/-- The value as text. -/
def Codec.toChars {α : Type} (c : Codec α) (x : α) : List Char := (c.write x).toChars

/-- The value as text. -/
def Codec.toText {α : Type} (c : Codec α) (x : α) : String := String.ofList (c.toChars x)

end Swarmkeeper.Json
