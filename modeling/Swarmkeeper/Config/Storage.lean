import Swarmkeeper.Json.Codec

/-!
Where files are kept.
-/

namespace Swarmkeeper.Config

open Swarmkeeper.Json

/-- Directories on this machine. -/
structure Storage where
  /-- Where downloads go. -/
  saveDirectory : String
  /-- Where native libraries are looked for. -/
  libraryDirectories : List String
deriving DecidableEq, Repr

namespace Storage

/-- The directories unless others are given. -/
def standard : Storage := ⟨"downloads", ["lib"]⟩

/-- The fields of the directories. -/
def fields : List (RecordField Storage) :=
  [.of "save_dir" .path (·.saveDirectory) fun x s => { s with saveDirectory := x },
   .of "library_dirs" (.list .path) (·.libraryDirectories) fun x s =>
     { s with libraryDirectories := x }]

/-- The directories as a record. -/
def codec : Codec Storage := Record.codec "StorageConfig" fields standard

end Storage

end Swarmkeeper.Config
