import Swarmkeeper.Address.Text

/-!
Addresses with a port. An IPv6 address stands in brackets and may have a scope, which is written only if
it is not zero.
-/

namespace Swarmkeeper

/-- An address, its scope, and a port. -/
structure Socket where
  address : Address
  /-- The scope of an IPv6 address; zero for none. -/
  scope : Nat
  port : Nat
deriving DecidableEq

namespace Socket

open Swarmkeeper.Text

/-- A run of digits for a number below a limit, and what follows it. -/
def readNumber (limit : Nat) (cs : List Char) : Option (Nat × List Char) :=
  let ds := cs.takeWhile fun c => (digitValue? c).isSome
  if ds = [] ∨ limit ≤ digitsValue ds then none
  else some (digitsValue ds, cs.drop ds.length)

/-- A colon and a port at the end of a text. -/
def readPort : List Char → Option Nat
  | ':' :: cs =>
      match readNumber 0x10000 cs with
      | some (port, []) => some port
      | _ => none
  | _ => none

/-- A scope, if one follows. -/
def readScope : List Char → Option (Nat × List Char)
  | '%' :: cs => readNumber 0x100000000 cs
  | cs => some (0, cs)

/-- An IPv4 address with a port. -/
def readV4 (cs : List Char) : Option Socket := do
  let (address, cs) ← Address.readV4 cs
  let port ← readPort cs
  pure ⟨address, 0, port⟩

/-- An IPv6 address in brackets with a port. -/
def readV6 : List Char → Option Socket
  | '[' :: cs => do
      let (address, cs) ← Address.readV6 cs
      let (scope, cs) ← readScope cs
      match cs with
      | ']' :: cs => (readPort cs).map fun port => ⟨address, scope, port⟩
      | _ => none
  | _ => none

/-- The address and port that the whole text writes. -/
def ofText? (s : String) : Option Socket := readV4 s.toList <|> readV6 s.toList

/-- The address and port as text. -/
def toText (s : Socket) : String :=
  match s.address.family with
  | .v4 => s!"{s.address.toText}:{s.port}"
  | .v6 =>
      if s.scope = 0 then s!"[{s.address.toText}]:{s.port}"
      else s!"[{s.address.toText}%{s.scope}]:{s.port}"

end Socket

end Swarmkeeper
