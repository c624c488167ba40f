import Swarmkeeper.Unicode.Property

/-!
Texts in double quotes, as diagnostics show them: the quote and the backslash are escaped, control
characters and other characters without a glyph of their own are written by their number.
-/

namespace Swarmkeeper.Text.Quoted

open Swarmkeeper.Unicode

/-- The characters that are not shown as themselves: controls, formats, unassigned and private
characters, and all separators but the space. -/
def hidden : RangeSet :=
  .difference
    (.unions [Category.control, Category.format, Category.privateUse, Category.unassigned,
      Category.lineSeparator, Category.paragraphSeparator, Category.spaceSeparator])
    (.singleton 0x20)

/-- The character as it stands between the quotes. The single quote is escaped on request. -/
def escape (single : Bool) (c : Char) : List Char :=
  if c = '\x00' then ['\\', '0']
  else if c = '\t' then ['\\', 't']
  else if c = '\r' then ['\\', 'r']
  else if c = '\n' then ['\\', 'n']
  else if c = '"' ∨ c = '\\' ∨ (single ∧ c = '\'') then ['\\', c]
  else if 0x20 ≤ c.toNat ∧ c.toNat < 0x7F then [c]
  else if Property.graphemeExtend.contains c.toNat ∨ hidden.contains c.toNat then
    ['\\', 'u', '{'] ++ hexadecimal c.toNat ++ ['}']
  else [c]

/-- The text in double quotes. -/
def quote (s : String) : String :=
  String.ofList ('"' :: s.toList.flatMap (escape false) ++ ['"'])

/-- The path in double quotes; single quotes in it are escaped. -/
def quotePath (s : String) : String :=
  String.ofList ('"' :: s.toList.flatMap (escape true) ++ ['"'])

/-- A list of paths in brackets, each in quotes. -/
def quotePaths (paths : List String) : String :=
  String.ofList ('[' :: joinWith [',', ' '] (paths.map fun p => (quotePath p).toList) ++ [']'])

end Swarmkeeper.Text.Quoted
