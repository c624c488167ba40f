import Swarmkeeper.CommandLine.Report
import Swarmkeeper.Config.Environment

/-!
A run of the program from its arguments to its exit code. The log is opened first; the configuration is
that of the file that was named, or else of the environment.
-/

namespace Swarmkeeper.CommandLine

open Swarmkeeper.Text

/-- What a run leaves behind. -/
structure Exit where
  code : Nat
  output : String
  errors : String
  tree : Files.Tree

/-- The exit code of a refusal. -/
def Refusal.code : Refusal → Nat
  | usage => 2
  | help => 0

/-- Where the log is kept. -/
def logDirectory : String := "logs"

/-- The file of the log. -/
def logFile : String := "logs/tidal-last-run.log"

/-- Opens the log. -/
def openLog (tree : Files.Tree) : Except Files.Fault Files.Tree :=
  match tree.makeDirectories logDirectory with
  | (.error f, _) => .error f
  | (.ok (), tree) => tree.write logFile []

/-- The configuration of a run. -/
def configuration (path : Option String) (env : Config.Environment) (tree : Files.Tree) :
    Except Config.Fault Config :=
  match path with
  | none => Config.ofEnvironment env
  | some path =>
      match tree.read path with
      | .error f => .error (.unreadable path f.message)
      | .ok bytes => Config.ofBytes path bytes

/-- A text in which each line is moved to the right. -/
def indented (text : String) : String :=
  String.ofList (joinWith ['\n'] ((splitAll '\n' text.toList).map ("    ".toList ++ ·)))

/-- What is said of a failure. -/
def Complaint.toText (c : Complaint) : String :=
  match c.cause with
  | none => s!"Error: {c.reason}\n"
  | some cause => s!"Error: {c.reason}\n\nCaused by:\n{indented cause}\n"

/-- Lines as a text. -/
def linesText (lines : List String) : String := String.join (lines.map (· ++ "\n"))

/-- The end of a run with this report. -/
def Exit.ofReport (r : Report) (tree : Files.Tree) : Exit :=
  match r.failure with
  | none => ⟨0, linesText r.lines, "", tree⟩
  | some c => ⟨1, linesText r.lines, c.toText, tree⟩

/-- A run of a program that has been told what to do. -/
def Invocation.run (i : Invocation) (env : Config.Environment) (s : Surroundings) : Exit :=
  match openLog s.tree with
  | .error f => .ofReport (.failed [] f.message) s.tree
  | .ok tree =>
      match configuration i.config env tree with
      | .error f => .ofReport (.failed [] f.message) tree
      | .ok config => .ofReport (i.command.run config { s with tree }) tree

/-- The files that are read before the command is run. -/
def Invocation.namedFiles (i : Invocation) : List String :=
  i.config.toList ++ match i.command with
    | .checkPeer policy .. => policy.toList
    | _ => []

/-- The files that a command looks for under a configuration. -/
def Command.libraryFiles (command : Command) (config : Config) : List String :=
  match command with
  | .probe library directories =>
      let searched := if directories = [] then config.storage.libraryDirectories else directories
      searched.map (Files.Tree.join · (Engine.Library.fileName library))
  | _ => []

/-- What is said to one who asks for help, or does not know how to use the program. -/
def usageText : String :=
  "usage: tidal [--log-level LEVEL] [--config FILE] fingerprint|probe|check-peer|service [OPTIONS]\n"

/-- A run of the program. -/
def runProgram (args : List String) (env : Config.Environment) (s : Surroundings) : Exit :=
  match Invocation.ofArgs args with
  | .error r => ⟨r.code, "", "", s.tree⟩
  | .ok i => i.run env s

end Swarmkeeper.CommandLine
