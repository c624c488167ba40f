import Swarmkeeper.CommandLine.Command
import Swarmkeeper.Config.Basic
import Swarmkeeper.Engine.Library
import Swarmkeeper.Pattern.Basic
import Swarmkeeper.Service.Endpoint
import Swarmkeeper.Service.Persistence

/-!
What the commands say: lines of text, and why a command failed, if it did.
-/

namespace Swarmkeeper.CommandLine

open Swarmkeeper.Admission Swarmkeeper.Engine Swarmkeeper.Service Swarmkeeper.Text

/-- Why a command failed, and what caused that, if something else did. -/
structure Complaint where
  reason : String
  cause : Option String
deriving DecidableEq

/-- The reason, and what caused it. -/
def Complaint.chain (c : Complaint) : List String := c.reason :: c.cause.toList

/-- What a command has said, and why it failed, if it did. -/
structure Report where
  lines : List String
  failure : Option Complaint
deriving DecidableEq

/-- What surrounds the program: files, the machine, and twelve further bytes for a peer id. -/
structure Surroundings where
  tree : Files.Tree
  machine : Machine
  tail : List UInt8

namespace Report

/-- A command that succeeded. -/
def success (lines : List String) : Report := ⟨lines, none⟩

/-- A command that failed for this reason alone. -/
def failed (lines : List String) (reason : String) : Report := ⟨lines, some ⟨reason, none⟩⟩

/-- How the client names itself. -/
def fingerprint (config : Config) (version : Option String) (tail : List UInt8) : Report :=
  let client := { config.client with version := version.getD config.client.version }
  match client.fingerprint with
  | .error f => failed [] f.message
  | .ok f => success [s!"Fingerprint: {f.toText}", s!"User agent:  {f.userAgent}",
      s!"Peer id:     {Hex.encode (f.peerId tail)}"]

/-- Whether a library can be loaded. -/
def probe (config : Config) (library : String) (directories : List String) (tree : Files.Tree) :
    Report :=
  let searched := if directories = [] then config.storage.libraryDirectories else directories
  let first := s!"Looking for {Library.fileName library}"
  match config.client.fingerprint with
  | .error f => failed [first] f.message
  | .ok _ =>
      match Library.locate tree library searched with
      | .ok _ => success [first, s!"Supported: {library}"]
      | .error f => success [first, s!"Unsupported: {f.message}"]

/-- The policy in a file, or why there is none. -/
def readPolicy (tree : Files.Tree) (path : String) : Except Complaint Policy :=
  match tree.read path with
  | .error f => .error ⟨s!"Failed to read {path}", some f.message⟩
  | .ok bytes =>
      match Utf8.decode? bytes with
      | none => .error ⟨s!"Failed to read {path}", some "stream did not contain valid UTF-8"⟩
      | some text => (Policy.codec.ofText text).mapError fun f =>
          ⟨s!"Invalid filter configuration in {path}", some f.message⟩

/-- The decision of a chain on a peer. -/
def decision (chain : Chain) (peer : Peer) : String :=
  match chain.verdict peer with
  | .allow => s!"Allowed ({chain.rules.length} filters)"
  | .block i =>
      let description := ((chain.filters[i]?).map (·.describe)).getD ""
      s!"Blocked by filter #{i}: {description}"

/-- The decision on a peer. -/
def checkPeer (config : Config) (path : Option String) (peer : Peer) (tree : Files.Tree) : Report :=
  let policy := match path with
    | some path => readPolicy tree path
    | none => .ok config.peerFilter
  match policy with
  | .error complaint => ⟨[], some complaint⟩
  | .ok policy => success [decision (policy.chain []) peer]

/-- A step of a connection. -/
def transition (t : Transition) : String :=
  s!"[attempt {t.attempt}] {t.source.name} -> {t.target.name}"

/-- The settings of the service with another address and another program, if they are given. -/
def serviceSettings (config : Config) (address : Option Socket) (program : Option String) :
    Config.Service :=
  { config.service with
    address := (address.map Socket.toText).getD config.service.address
    program := program <|> config.service.program }

/-- The attempts to connect to the service. -/
def service (settings : Config.Service) (machine : Machine) : Report :=
  let (result, connection) :=
    settings.retry.persist (fun _ => machine.start settings) 0 .idle
  let lines := connection.history.reverse.map transition
  match result with
  | .error f => ⟨lines, some ⟨"Service is unavailable", some f.message⟩⟩
  | .ok endpoint =>
      success (lines ++ [s!"Connected to {endpoint.toText} ({connection.status.describe})"])

end Report

/-- What a command says. -/
def Command.run (command : Command) (config : Config) (s : Surroundings) : Report :=
  match command with
  | .fingerprint version => .fingerprint config version s.tail
  | .probe library directories => .probe config library directories s.tree
  | .checkPeer policy ip client id => .checkPeer config policy ⟨Utf8.encode id, client, ip⟩ s.tree
  | .service address program =>
      .service (Report.serviceSettings config address program) s.machine

end Swarmkeeper.CommandLine
