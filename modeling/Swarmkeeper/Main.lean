import Swarmkeeper.CommandLine.Program

/-!
The program. It takes a picture of the files that a run looks at, and leaves the rest to the library. It
starts no other programs and opens no connections, so that a service is never reached.
-/

namespace Swarmkeeper.CommandLine

/-- A machine on which nothing can be started and nothing listens. -/
def closedMachine : Service.Machine where
  spawn _ _ := .error "Operation not supported (os error 95)"
  connect _ := none

/-- Adds the files at these paths that can be read. -/
def photograph (tree : Files.Tree) (paths : List String) : IO Files.Tree :=
  paths.foldlM (fun tree (path : String) => do
    try
      let bytes ← IO.FS.readBinFile path
      pure (tree.plant path bytes.toList)
    catch _ => pure tree) tree

/-- The variables that are set. -/
def surroundingVariables : IO Config.Environment := do
  let values ← Config.variableNames.mapM fun name => do
    let value ← IO.getEnv name
    pure (name, value)
  pure fun name => (values.lookup name).join

/-- Bytes for a peer id. -/
def randomTail : IO (List UInt8) :=
  (List.range 12).mapM fun _ => do
    let i ← IO.rand 0 (Identity.alphabet.length - 1)
    pure (Identity.alphabet[i]?.getD 48)

/-- Runs the program that was asked for. -/
def execute (i : Invocation) : IO UInt32 := do
  IO.FS.createDirAll logDirectory
  IO.FS.writeFile logFile ""
  let env ← surroundingVariables
  let tree ← photograph .empty i.namedFiles
  let tree ← match configuration i.config env tree with
    | .ok config => photograph tree (i.command.libraryFiles config)
    | .error _ => pure tree
  let exit := i.run env ⟨tree, closedMachine, ← randomTail⟩
  IO.print exit.output
  IO.eprint exit.errors
  pure (UInt32.ofNat exit.code)

/-- Reads the arguments and runs the program. -/
def start (args : List String) : IO UInt32 :=
  match Invocation.ofArgs args with
  | .ok i => execute i
  | .error r => do
      if r = .help then IO.print usageText else IO.eprint usageText
      pure (UInt32.ofNat r.code)

end Swarmkeeper.CommandLine

/-- Runs the program with its arguments. -/
def main (args : List String) : IO UInt32 := Swarmkeeper.CommandLine.start args
