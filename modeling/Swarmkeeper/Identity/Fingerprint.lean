import Swarmkeeper.Identity.PeerId
import Swarmkeeper.Text.Blank
import Swarmkeeper.Text.Split
import Swarmkeeper.Text.Utf8

/-!
The identity that the client shows to peers and servers. A fingerprint is eight bytes: a delimiter, a
tag of two letters or digits, four characters for the version, and a delimiter.
-/

namespace Swarmkeeper.Identity

open Swarmkeeper.Text

/-- An ASCII letter or digit. -/
def isAlphanumeric (b : UInt8) : Bool :=
  (48 ≤ b && b ≤ 57) || (65 ≤ b && b ≤ 90) || (97 ≤ b && b ≤ 122)

/-- The ASCII digits and letters. -/
def alphabet : List UInt8 :=
  ((List.range 10).map (48 + ·) ++ (List.range 26).map (65 + ·) ++ (List.range 26).map (97 + ·)).map
    UInt8.ofNat

/-- Two ASCII letters or digits. -/
def isTag (tag : String) : Bool :=
  let bytes := Utf8.encode tag
  bytes.length = 2 && bytes.all isAlphanumeric

/-- What is said of a tag that is none. -/
def tagReason (tag : String) : String := s!"expected two ASCII letters or digits, got '{tag}'"

/-- The character of a version number: a digit, a capital letter from ten on, and the last letter for
everything greater. -/
def versionChar (n : Nat) : UInt8 :=
  if n ≤ 9 then UInt8.ofNat (48 + n) else if n ≤ 35 then UInt8.ofNat (65 + (n - 10)) else 90

/-- The number at the front of a version component; zero if it has no digit or 32 bits do not hold
it. -/
def componentNumber (component : List Char) : Nat :=
  let digits := (trimChars component).takeWhile fun c => (digitValue? c).isSome
  (readBelow? 0x100000000 digits).getD 0

/-- The part of a version before the first dash or plus. -/
def release (version : String) : List Char :=
  version.toList.takeWhile fun c => c ≠ '-' ∧ c ≠ '+'

/-- The four characters of a version: one for each of its first four components, zero for those that
it lacks. -/
def versionCode (version : String) : List UInt8 :=
  let numbers := (splitAll '.' (release version)).map componentNumber
  (List.range 4).map fun i => versionChar (numbers[i]?.getD 0)

/-- The number of bytes that a peer id has after its fingerprint. -/
def tailLength : Nat := 12

/-- The bytes that chance gives a peer id after its fingerprint: letters and digits. -/
structure Tail where
  bytes : List UInt8
  length_eq : bytes.length = tailLength
  mem_alphabet : ∀ b ∈ bytes, b ∈ alphabet

/-- The identity of one version of the client. -/
structure Fingerprint where
  bytes : List UInt8
  userAgent : String
deriving DecidableEq

namespace Fingerprint

/-- The fingerprint of a tag, a product name and a version; there is none if the tag is no tag. -/
def derive? (tag product version : String) : Option Fingerprint :=
  if isTag tag then
    some {
      bytes := delimiter :: Utf8.encode tag ++ versionCode version ++ [delimiter]
      userAgent := s!"{product}/{version}" }
  else none

/-- The fingerprint as text. -/
def toText (f : Fingerprint) : String := Utf8.decodeLossy f.bytes

/-- The peer id with this fingerprint and these further bytes. -/
def peerId (f : Fingerprint) (tail : List UInt8) : List UInt8 := f.bytes ++ tail

end Fingerprint

end Swarmkeeper.Identity
