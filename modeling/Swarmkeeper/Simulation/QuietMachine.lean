import Swarmkeeper.Files.Tree
import Swarmkeeper.Service.Endpoint

/-!
A machine on which nothing listens and only a few programs are there.
-/

namespace Swarmkeeper.Simulation

open Swarmkeeper.Service

/-- The programs that are found by name. -/
def knownPrograms : List String :=
  ["sleep", "true", "false", "cat", "echo", "ls", "sh", "bash", "yes", "env"]

/-- The directories in which they are. -/
def programDirectories : List String := ["/bin/", "/usr/bin/"]

/-- The program is there. -/
def isProgram (program : String) : Bool :=
  knownPrograms.any fun name =>
    program = name || programDirectories.any fun directory => program = directory ++ name

/-- Why a program that is not there cannot be started. Files on such a machine are no programs, and a name
without a slash is looked for in the directories of programs, where points name directories. -/
def spawnFault (tree : Files.Tree) (program : String) : Files.Fault :=
  if program = "." ∨ program = ".." then .permissionDenied
  else if !program.toList.contains '/' then
    if 255 < program.utf8ByteSize then .nameTooLong else .notFound
  else match tree.find program with
    | .ok _ => .permissionDenied
    | .error f => f

/-- A machine on which nothing listens. -/
def quietMachine (tree : Files.Tree) : Machine where
  connect _ := none
  spawn program args :=
    if (program :: args).any (·.toList.contains '\x00') then
      .error "nul byte found in provided data"
    else if isProgram program then .ok 1
    else .error (spawnFault tree program).message

end Swarmkeeper.Simulation
