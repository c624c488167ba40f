import Swarmkeeper.CommandLine.Grammar

/-!
What can be asked of the program, and how it is asked. Two options belong to the program as a whole; they
may stand before the command or after it, and what stands after it counts.
-/

namespace Swarmkeeper.CommandLine

/-- A command. -/
inductive Command where
  /-- Shows how the client names itself, in this version if one is given. -/
  | fingerprint (version : Option String)
  /-- Looks for a library; in the directories of the configuration if none is given. -/
  | probe (library : String) (directories : List String)
  /-- Decides on a peer, with the policy in a file if one is given. -/
  | checkPeer (policy : Option String) (ip client id : String)
  /-- Connects to the service, at another address or with another program if they are given. -/
  | service (address : Option Socket) (program : Option String)
deriving DecidableEq

namespace Command

/-- The names of the commands. -/
def names : List String := ["fingerprint", "probe", "check-peer", "service"]

/-- The options of the command with this name. -/
def flags (name : String) : List Flag :=
  match name with
  | "fingerprint" => [.single "version" (some 'v') .text]
  | "probe" =>
      [⟨"library", some 'l', .text, false, true⟩, ⟨"search-dir", some 's', .path, true, false⟩]
  | "check-peer" =>
      [.single "filters" (some 'f') .path, ⟨"ip", none, .text, false, true⟩,
        .single "client" (some 'c') .text, .single "peer-id" (some 'p') .text]
  | _ => [.single "addr" (some 'a') .socket, .single "program" (some 'p') .path]

/-- The command with this name and these values. -/
def ofReading (name : String) (r : Reading) : Command :=
  let text (option : String) := (r.value? option).getD ""
  match name with
  | "fingerprint" => .fingerprint (r.value? "version")
  | "probe" => .probe (text "library") (r.all "search-dir")
  | "check-peer" => .checkPeer (r.value? "filters") (text "ip") (text "client") (text "peer-id")
  | _ => .service ((r.value? "addr").bind Socket.ofText?) (r.value? "program")

/-- What comes of the word help and the names that follow it. -/
def help : List String → Refusal
  | [] => .help
  | [name] => if name = "help" ∨ name ∈ names then .help else .usage
  | _ => .usage

end Command

/-- A command together with what is said for the program as a whole. -/
structure Invocation where
  level : LogLevel
  /-- The file with the configuration. -/
  config : Option String
  command : Command
deriving DecidableEq

namespace Invocation

/-- The options of the program as a whole. -/
def flags : List Flag := [.single "log-level" none .level, .single "config" none .path]

/-- What a command and the program as a whole were given. -/
def ofReadings (name : String) (outer inner : Reading) : Invocation :=
  let value? (option : String) := inner.value? option <|> outer.value? option
  ⟨((value? "log-level").bind (LogLevel.ofName? false)).getD .standard, value? "config",
    .ofReading name inner⟩

/-- Reads the arguments of a program with these options of its own. -/
def read (own : List Flag) (args : List String) : Except Refusal Invocation := do
  let (outer, command) ← Reading.empty.takeAll own ("help" :: Command.names) args
  match command with
  | none =>
      let _ ← outer.resolve
      .error .usage
  | some ("help", rest) => .error (Command.help rest)
  | some (name, rest) =>
      let (inner, _) ← Reading.empty.takeAll (Command.flags name ++ own) [] rest
      let inner ← inner.finish (Command.flags name)
      let outer ← outer.resolve
      .ok (ofReadings name outer inner)

/-- The invocation that the arguments of the program write. -/
def ofArgs (args : List String) : Except Refusal Invocation := read flags args

end Invocation

/-- The command that arguments write which hold nothing else. -/
def Command.ofArgs (args : List String) : Except Refusal Command :=
  (Invocation.read [] args).map (·.command)

end Swarmkeeper.CommandLine
