import Swarmkeeper.Address.Text
import Swarmkeeper.Url.Domain
import Swarmkeeper.Url.Fault
import Swarmkeeper.Url.Percent

/-!
The host of a URL: a name or an address. A name of a web scheme is a domain name, and is an IPv4
address if its last label is a number; such a number may be octal or hexadecimal, and the last number
fills all octets that are left.
-/

namespace Swarmkeeper.Url

open Swarmkeeper.Text

/-- Who serves a resource. -/
inductive Host where
  | name (text : List Char)
  | address (a : Address)
deriving DecidableEq

namespace Host

/-- The host as it is written in a URL. -/
def toChars : Host → List Char
  | name text => text
  | address a =>
      match a.family with
      | .v4 => Address.octetsText a.value
      | .v6 => '[' :: Address.groupsForm a.value ++ [']']

/-- The value of digits of a base, if they all are such digits. -/
def digitsOfBase (base : Nat) (cs : List Char) : Option Nat :=
  cs.foldlM (fun acc c =>
    match hexValue? c with
    | some d => if d < base then some (acc * base + d) else none
    | none => none) 0

/-- The number that a part of an IPv4 address writes. -/
def partNumber? : List Char → Option Nat
  | [] => none
  | '0' :: 'x' :: cs | '0' :: 'X' :: cs => digitsOfBase 16 cs
  | '0' :: c :: cs => digitsOfBase 8 (c :: cs)
  | cs => digitsOfBase 10 cs

/-- The parts of a name; a point at its end starts no part. -/
def parts (cs : List Char) : List (List Char) :=
  match (splitAll '.' cs).reverse with
  | [] :: p :: ps => (p :: ps).reverse
  | ps => ps.reverse

/-- The last part of a name is a number, so that the name has to be an IPv4 address. -/
def endsInNumber (cs : List Char) : Bool :=
  match (parts cs).getLast? with
  | none | some [] => false
  | some p => p.all (fun c => (digitValue? c).isSome) || (partNumber? p).isSome

/-- The address of an IPv4 name: each number is an octet, except that the last one fills the octets
that are left. -/
def readV4Parts (numbers : List Nat) : Option Nat :=
  match numbers.reverse with
  | [] => none
  | last :: before =>
      let octets := before.reverse
      if 3 < octets.length ∨ Nat.pow 256 (4 - octets.length) ≤ last ∨ octets.any (255 < ·) then none
      else some (octets.foldl (fun acc o => acc * 256 + o) 0 * Nat.pow 256 (4 - octets.length) + last)

/-- The IPv4 address of a name. -/
def readV4Name (cs : List Char) : Option Nat := do
  readV4Parts (← (parts cs).mapM partNumber?)

/-- The IPv6 address between brackets, from the character after the first on. -/
def ofBracket (cs : List Char) : Except Fault Host :=
  match cs.reverse with
  | ']' :: inner =>
      match Address.readV6 inner.reverse with
      | some (a, []) => .ok (address a)
      | _ => .error .invalidV6
  | _ => .error .invalidV6

/-- The host of a web scheme. -/
def ofDomain (cs : List Char) : Except Fault Host :=
  match cs with
  | '[' :: cs => ofBracket cs
  | cs =>
      match Domain.toAscii (Percent.decode cs) with
      | none => .error .invalidDomain
      | some [] => .error .emptyHost
      | some text =>
          if endsInNumber text then
            match readV4Name text with
            | some n => .ok (address (.ofNat .v4 n))
            | none => .error .invalidV4
          else .ok (name text)

/-- Characters that a host of another scheme may not have. -/
def isForbidden (c : Char) : Bool :=
  ['\x00', '\t', '\n', '\r', ' ', '#', '/', ':', '<', '>', '?', '@', '[', '\\', ']', '^', '|'].contains c

/-- The host of another scheme. -/
def ofOpaque (cs : List Char) : Except Fault Host :=
  match cs with
  | '[' :: cs => ofBracket cs
  | cs => if cs.any isForbidden then .error .invalidCharacter else .ok (name (Percent.encode [] cs))

end Host

end Swarmkeeper.Url
