import Swarmkeeper.Files.Fault
import Swarmkeeper.Text.Split

/-!
A tree of directories and files, and the walk along a path through it. Slashes side by side count as
one, a point is the directory where it stands and two points are the one above. A path that ends in a
slash leads to a directory.
-/

namespace Swarmkeeper.Files

open Swarmkeeper.Text

/-- What stands at a place of a tree. -/
inductive Node where
  | directory
  | file (bytes : List UInt8)
deriving DecidableEq

/-- A place: the names from the root down to it. -/
abbrev Place := List String

/-- What stands at each place, and the place from which relative paths start. The root is always a
directory. -/
structure Tree where
  here : Place
  nodes : List (Place × Node)
deriving DecidableEq

namespace Tree

/-- The tree with nothing but the way to an empty directory, from which paths start. -/
def empty : Tree := ⟨["tmp", "work"], [(["tmp", "work"], .directory), (["tmp"], .directory)]⟩

/-- What stands at a place. -/
def node? (t : Tree) (place : Place) : Option Node :=
  if place = [] then some .directory else t.nodes.lookup place

/-- Puts something at a place. -/
def put (t : Tree) (place : Place) (node : Node) : Tree :=
  { t with nodes := (place, node) :: t.nodes }

/-! ## Paths -/

/-- The path starts at the root. -/
def isAbsolute (path : String) : Bool := path.toList.head? == some '/'

/-- The names of a path in order. -/
def names (path : String) : List String :=
  ((splitAll '/' path.toList).filter (· ≠ [])).map String.ofList

/-- The names of a path, with a point for a slash at the end. -/
def steps (path : String) : List String :=
  names path ++ if path.toList.getLast? = some '/' then ["."] else []

/-- The place where the path starts. -/
def start (t : Tree) (path : String) : Place := if isAbsolute path then [] else t.here

/-- The longest name in bytes. -/
def longestName : Nat := 255

/-- Paths are shorter than this, in bytes. -/
def pathLimit : Nat := 4096

/-- The place to which names lead from a place. Each step has to start at a directory. -/
def walk (t : Tree) (place : Place) : List String → Except Fault Place
  | [] => .ok place
  | name :: rest =>
      match t.node? place with
      | none => .error .notFound
      | some (.file _) => .error .notDirectory
      | some .directory =>
          if name = "." then walk t place rest
          else if name = ".." then walk t place.dropLast rest
          else if longestName < name.utf8ByteSize then .error .nameTooLong
          else walk t (place ++ [name]) rest

/-- A path that can be asked for at all. -/
def admissible (path : String) : Except Fault Unit :=
  if path.toList.contains '\x00' then .error .zeroByte
  else if path = "" then .error .notFound
  else if pathLimit ≤ path.utf8ByteSize then .error .nameTooLong
  else .ok ()

/-- What stands at the end of a path. -/
def find (t : Tree) (path : String) : Except Fault Node := do
  admissible path
  let place ← t.walk (t.start path) (steps path)
  match t.node? place with
  | some node => .ok node
  | none => .error .notFound

/-- A directory stands at the end of a path. -/
def isDirectory (t : Tree) (path : String) : Bool := (t.find path).toOption == some .directory

/-- There is something at the end of a path. -/
def holds (t : Tree) (path : String) : Bool := (t.find path).toOption.isSome

/-- A file stands at the end of a path. -/
def isFile (t : Tree) (path : String) : Bool :=
  match t.find path with
  | .ok (.file _) => true
  | _ => false

/-- The bytes of the file at the end of a path. -/
def read (t : Tree) (path : String) : Except Fault (List UInt8) := do
  match ← t.find path with
  | .file bytes => .ok bytes
  | .directory => .error .isDirectory

/-- The path of a name in a directory. -/
def join (directory name : String) : String :=
  if directory = "" ∨ directory.toList.getLast? = some '/' then directory ++ name
  else s!"{directory}/{name}"

/-! ## New nodes -/

/-- Makes a node where the names lead from a place; nothing may stand there. -/
def make (t : Tree) (place : Place) (path : List String) (node : Node) : Except Fault Tree := do
  match path.getLast? with
  | none => .error .alreadyExists
  | some name =>
      let parent ← t.walk place (path.dropLast ++ ["."])
      if name = "." ∨ name = ".." then .error .alreadyExists
      else if longestName < name.utf8ByteSize then .error .nameTooLong
      else if (t.node? (parent ++ [name])).isSome then .error .alreadyExists
      else .ok (t.put (parent ++ [name]) node)

/-- The names lead to a directory. -/
def reaches (t : Tree) (place : Place) (path : List String) : Bool :=
  match t.walk place (path ++ ["."]) with
  | .ok place => t.node? place == some .directory
  | .error _ => false

/-- Makes the directory of the first of these paths, and before it those of the further ones as far as
they are missing. What has been made stays even if a later one fails. -/
def makeAll (t : Tree) (place : Place) : List (List String) → Except Fault Unit × Tree
  | [] => (.ok (), t)
  | path :: parents =>
      match t.make place path .directory with
      | .ok t => (.ok (), t)
      | .error f =>
          if f = .notFound then
            match makeAll t place parents with
            | (.error f, t) => (.error f, t)
            | (.ok (), t) =>
                match t.make place path .directory with
                | .ok t => (.ok (), t)
                | .error f => (if t.reaches place path then .ok () else .error f, t)
          else (if t.reaches place path then .ok () else .error f, t)

/-- The paths to the directories above, nearest first. -/
def parentPaths : List String → List (List String)
  | [] => []
  | name :: rest => (parentPaths rest).map (name :: ·) ++ [[name]]

/-- The names without points, but for one at the front of a relative path. -/
def plainNames (path : String) : List String :=
  match isAbsolute path, names path with
  | false, "." :: rest => "." :: rest.filter (· ≠ ".")
  | _, list => list.filter (· ≠ ".")

/-- Makes a directory and those above it that are missing. -/
def makeDirectories (t : Tree) (path : String) : Except Fault Unit × Tree :=
  if path = "" then (.ok (), t)
  else match admissible path with
    | .error f => (.error f, t)
    | .ok () => t.makeAll (t.start path) (names path :: parentPaths (plainNames path).dropLast)

/-- Writes a file anew. -/
def write (t : Tree) (path : String) (bytes : List UInt8) : Except Fault Tree := do
  admissible path
  let place ← t.walk (t.start path) (steps path)
  match t.node? place with
  | some .directory => .error .isDirectory
  | some (.file _) => .ok (t.put place (.file bytes))
  | none => t.make (t.start path) (names path) (.file bytes)

/-- The path of the directory above, as far as it is named. -/
def directoryOf (path : String) : String :=
  let above := "/".intercalate (names path).dropLast
  if isAbsolute path then "/" ++ above else above

/-- Writes a file anew, and makes the directories above it that are missing; what cannot be done is left
undone. -/
def plant (t : Tree) (path : String) (bytes : List UInt8) : Tree :=
  let (_, t) := t.makeDirectories (directoryOf path)
  (t.write path bytes).toOption.getD t

end Tree

end Swarmkeeper.Files
