/-!
Cutting a text at a character: at its first occurrence, at every occurrence, or into lines.
-/

namespace Swarmkeeper.Text

/-- What stands before and after the first occurrence of `sep`, if it occurs. -/
def splitOnce (sep : Char) : List Char → Option (List Char × List Char)
  | [] => none
  | c :: cs =>
      if c = sep then some ([], cs)
      else (splitOnce sep cs).map fun (before, after) => (c :: before, after)

/-- The pieces between the occurrences of `sep`; a text without `sep` is one piece. -/
def splitAll (sep : Char) : List Char → List (List Char)
  | [] => [[]]
  | c :: cs =>
      if c = sep then [] :: splitAll sep cs
      else match splitAll sep cs with
        | [] => [[c]]
        | piece :: pieces => (c :: piece) :: pieces

/-- A line without the carriage return that may end it. -/
def dropCarriageReturn (line : List Char) : List Char :=
  match line.reverse with
  | '\r' :: rest => rest.reverse
  | _ => line

/-- The lines of a text. A line ends at a line feed, which may follow a carriage return; the last
line needs no end. -/
def lines : List Char → List (List Char)
  | [] => []
  | cs =>
      let pieces := splitAll '\n' cs
      let closed := pieces.dropLast.map dropCarriageReturn
      match pieces.getLast? with
      | none | some [] => closed
      | some last => closed ++ [last]

/-- The pieces written one after the other with `sep` between neighbours. -/
def joinWith (sep : List Char) : List (List Char) → List Char
  | [] => []
  | [piece] => piece
  | piece :: pieces => piece ++ sep ++ joinWith sep pieces

end Swarmkeeper.Text
