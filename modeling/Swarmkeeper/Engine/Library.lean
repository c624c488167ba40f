import Swarmkeeper.Files.Tree
import Swarmkeeper.Panic
import Swarmkeeper.Text.Quoted

/-!
The native libraries on which engines depend. A library is loaded at most once; the outcome is kept,
whatever it is, and a panic while loading is an outcome like any other.
-/

namespace Swarmkeeper.Engine

open Swarmkeeper.Text

/-- Why a library is not there. -/
inductive LibraryFault where
  | notFound (file : String) (searched : List String)
  | unreadable (path reason : String)
  | unavailable (name reason : String)
  | panicked (name reason : String)
deriving DecidableEq, Repr

/-- The wording of a fault. -/
def LibraryFault.message : LibraryFault → String
  | notFound file searched => s!"Library {file} not found in {Quoted.quotePaths searched}"
  | unreadable path reason => s!"Library {path} is unreadable: {reason}"
  | unavailable name reason => s!"Library {name} is unavailable: {reason}"
  | panicked name reason => s!"Loading {name} panicked: {reason}"

/-- A native library, or what stands in its place. -/
inductive Library where
  /-- A file that is looked for in directories, in order. -/
  | file (name : String) (directories : List String)
  /-- A part of the program. -/
  | builtIn (name : String)
  | unavailable (name reason : String)
  /-- Loading it fails like this, as that of a file which cannot be read. -/
  | refusing (name : String) (fault : LibraryFault)
  /-- Loading it panics. -/
  | broken (name : String) (panic : Panic)
deriving DecidableEq, Repr

namespace Library

/-- The name of a library. -/
def name : Library → String
  | file name _ | builtIn name | unavailable name _ | refusing name _ | broken name _ => name

/-- The name of the file of a library. -/
def fileName (name : String) : String := s!"lib{name}.so"

/-- The first directory that has the file of a library. -/
def locate (tree : Files.Tree) (name : String) (directories : List String) :
    Except LibraryFault String :=
  match (directories.map (Files.Tree.join · (fileName name))).find? tree.isFile with
  | some path => .ok path
  | none => .error (.notFound (fileName name) directories)

/-- Loads a library: the outcome, unless loading panics. -/
def load (tree : Files.Tree) : Library → Except Panic (Except LibraryFault Unit)
  | file name directories => .ok ((locate tree name directories).map fun _ => ())
  | builtIn _ => .ok (.ok ())
  | unavailable name reason => .ok (.error (.unavailable name reason))
  | refusing _ fault => .ok (.error fault)
  | broken _ panic => .error panic

/-- Loads a library; a panic is a fault. -/
def attempt (tree : Files.Tree) (l : Library) : Except LibraryFault Unit :=
  match l.load tree with
  | .ok outcome => outcome
  | .error panic => .error (.panicked l.name panic.reason)

end Library

/-- A library and the outcome of loading it, once it has been loaded. -/
structure Loader where
  library : Library
  outcome : Option (Except LibraryFault Unit)
  /-- How often the library has been loaded. -/
  loads : Nat

namespace Loader

/-- The loader of a library that has not been loaded. -/
def ofLibrary (l : Library) : Loader := ⟨l, none, 0⟩

/-- Loads the library unless that has been done, and tells the outcome. -/
def ensure (tree : Files.Tree) (l : Loader) : Except LibraryFault Unit × Loader :=
  match l.outcome with
  | some outcome => (outcome, l)
  | none =>
      let outcome := l.library.attempt tree
      (outcome, { l with outcome := some outcome, loads := l.loads + 1 })

/-- The library has been loaded, or can be. -/
def isLoaded (tree : Files.Tree) (l : Loader) : Bool × Loader :=
  let (outcome, l) := l.ensure tree
  (outcome.isOk, l)

end Loader

end Swarmkeeper.Engine
