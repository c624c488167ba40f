import Swarmkeeper.Text.Utf8
import Swarmkeeper.Unicode.Composition
import Swarmkeeper.Unicode.Layout
import Swarmkeeper.Url.Mapping
import Swarmkeeper.Url.Punycode

/-!
Internationalised domain names in their ASCII form. The characters of a name are mapped first and the
name is composed. Then each label has to be one that may be written, the labels of a name that is
partly written from right to left have to keep their order beside each other, and labels beyond ASCII
are written in ASCII. No label is held to the lengths that a name server has room for.
-/

namespace Swarmkeeper.Url.Domain

open Swarmkeeper.Text Swarmkeeper.Unicode

/-- ASCII characters that no domain name may have. -/
def isReserved (c : Char) : Bool :=
  c.toNat ≤ 0x20 || c.toNat == 0x7F ||
    ['%', '#', '/', ':', '<', '>', '?', '@', '[', '\\', ']', '^', '|'].contains c

/-- All characters are of ASCII. -/
def isAscii (cs : List Char) : Bool := cs.all fun c => c.toNat < 0x80

/-- A name with its characters mapped, and composed; none if one of them may not occur. In a name of
ASCII only the capitals change. -/
def prepare (cs : List Char) : Option (List Char) :=
  if isAscii cs then some (cs.map Char.toLower)
  else do
    let targets ← cs.mapM Mapping.char?
    some ((Composition.normalize targets.flatten).map Char.ofNat)

/-- Every joiner has an effect. One that follows a virama does, and a non-joiner between letters that
would join without it. The characters before are given last character first. -/
def joinersFit : List Nat → List Nat → Bool
  | _, [] => true
  | before, n :: ns =>
      (!Mapping.isJoiner n ||
        before.head?.any (Composition.combiningClass · == Composition.viramaClass) ||
        (n == 0x200C && Layout.joinedAcross before ns)) &&
      joinersFit (n :: before) ns

/-- A label beyond ASCII that may be written: it is mapped to itself and composed, its first character
is no mark, and its joiners have an effect. -/
def isWritable (cs : List Char) : Bool :=
  let ns := cs.map Char.toNat
  ns.all (fun n => n < 0x80 || Mapping.isFixed n) && Composition.normalize ns == ns &&
    !ns.head?.any Layout.marks.contains && joinersFit [] ns

/-- The start of a label that is written in ASCII for another one. -/
def encodedStart : List Char := ['x', 'n', '-', '-']

/-- A part of a name between points: its ASCII form and the label that it stands for. -/
structure Label where
  ascii : List Char
  text : List Char

namespace Label

/-- The greatest length of a label beyond ASCII. -/
def longest : Nat := 1000

/-- The greatest length of an ASCII form, without its start, that stands for another label. -/
def longestEncoded : Nat := 2000

/-- A label in ASCII form, without the start of the form. It has to stand for a label that could not
be written in ASCII itself. -/
def ofEncoded (cs : List Char) : Option Label :=
  if !isAscii cs || longestEncoded < cs.length then none
  else do
    let text ← Punycode.decode cs
    if isAscii text || encodedStart.isPrefixOf text || !isWritable text then none
    else some ⟨encodedStart ++ cs, text⟩

/-- A label of a name that has been prepared. -/
def ofChars (cs : List Char) : Option Label :=
  if encodedStart.isPrefixOf cs then ofEncoded (cs.drop encodedStart.length)
  else if isAscii cs then some ⟨cs, cs⟩
  else if longest < cs.length || !isWritable cs then none
  else some ⟨encodedStart ++ Punycode.encode cs, cs⟩

/-- The directions of the characters of a label. -/
def directions (l : Label) : List Layout.Direction :=
  l.text.map fun c => .ofCodePoint c.toNat

end Label

/-- The labels keep their order beside each other: all are from left to right, or each of them can be
read in one way only. -/
def isSteady (labels : List Label) : Bool :=
  if labels.all fun l => isAscii l.text then true
  else
    let directions := labels.map Label.directions
    !directions.flatten.any Layout.Direction.turns || directions.all Layout.Direction.isSteady

/-- The ASCII form of a domain name, if it is one. -/
def toAscii (bytes : List UInt8) : Option (List Char) := do
  let text ← Utf8.decode? bytes
  let name ← prepare text.toList
  if name.any isReserved then none
  else
    let labels ← (splitAll '.' name).mapM Label.ofChars
    if isSteady labels then some (joinWith ['.'] (labels.map Label.ascii)) else none

end Swarmkeeper.Url.Domain
