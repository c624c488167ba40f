import Swarmkeeper.Text.Blank
import Swarmkeeper.Text.Split

/-!
The text format of a list of addresses: one entry a line, white space around it ignored, blank lines
skipped, and everything after a number sign a comment.
-/

namespace Swarmkeeper.Blocklist

open Swarmkeeper.Text

/-- The entry of a line; empty if the line has none. -/
def entryOfLine (line : List Char) : List Char := trimChars (line.takeWhile (· ≠ '#'))

/-- The entries of a text, in order. -/
def parseChars (cs : List Char) : List (List Char) :=
  ((lines cs).map entryOfLine).filter (· ≠ [])

/-- The entries of a text, in order. -/
def parse (text : String) : List String := (parseChars text.toList).map String.ofList

end Swarmkeeper.Blocklist
