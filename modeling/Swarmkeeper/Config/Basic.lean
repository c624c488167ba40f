import Swarmkeeper.Admission.Policy
import Swarmkeeper.Config.Client
import Swarmkeeper.Config.Service
import Swarmkeeper.Config.Storage
import Swarmkeeper.Engine.Kind
import Swarmkeeper.Web.Proxy

/-!
The whole configuration. A value that can be read may still be refused: the tag has to be one, the
proxy has to be usable, and no kind of engine may be listed twice.
-/

namespace Swarmkeeper

open Swarmkeeper.Json

/-- The settings of all parts of the program. -/
structure Config where
  client : Config.Client
  engines : List Engine.Settings
  service : Config.Service
  storage : Config.Storage
  peerFilter : Admission.Policy
  proxy : Web.Proxy

namespace Config

/-- The configuration unless another is given. -/
def standard : Config where
  client := .standard
  engines := [.ofKind .libtorrent, .ofKind .remoteService]
  service := .standard
  storage := .standard
  peerFilter := .standard
  proxy := .disabled

/-- A configuration for tests, whose files lie under `temporary`: simulated sessions and short waits. -/
def forTesting (temporary : String) : Config :=
  { standard with
    engines := [.ofKind .simulated]
    service := { Service.standard with
      warmup := 0, probeAttempts := 1, probeInterval := 1, connectTimeout := 100,
      healthInterval := 50, retry := ⟨1, 5, 3⟩ }
    storage := ⟨s!"{temporary}/tidal-test", []⟩ }

/-- The fields of a configuration. -/
def fields : List (RecordField Config) :=
  [.of "client" Client.codec (·.client) fun x c => { c with client := x },
   .of "engines" (.list Engine.Settings.codec) (·.engines) fun x c => { c with engines := x },
   .of "service" Service.codec (·.service) fun x c => { c with service := x },
   .of "storage" Storage.codec (·.storage) fun x c => { c with storage := x },
   .of "peer_filter" Admission.Policy.codec (·.peerFilter) fun x c => { c with peerFilter := x },
   .of "proxy" (Web.Proxy.codec 2) (·.proxy) fun x c => { c with proxy := x }]

/-- Configurations as records. -/
def codec : Codec Config := Record.codec "TidalConfig" fields standard

/-- The settings of an engine: those that are listed, or else the usual ones of its kind. -/
def engine (c : Config) (kind : Engine.Kind) : Engine.Settings :=
  (c.engines.find? fun s => s.kind = kind).getD (.ofKind kind)

/-- The first kind that stands a second time in a list. -/
def repeated? (seen : List Engine.Kind) : List Engine.Kind → Option Engine.Kind
  | [] => none
  | k :: ks => if k ∈ seen then some k else repeated? (k :: seen) ks

/-- What is wrong with a configuration: the first of the checks that fails. -/
def fault? (c : Config) : Option Fault :=
  if !Identity.isTag c.client.tag then
    some (.invalid "client.fingerprint_tag" (Identity.tagReason c.client.tag))
  else match c.proxy.fault? with
    | some f => some (.invalid "proxy" f.message)
    | none =>
        (repeated? [] (c.engines.map (·.kind))).map fun kind =>
          .invalid "engines" s!"engine {kind.label} configured twice"

/-- The configuration, unless something is wrong with it. -/
def checked (c : Config) : Except Fault Config :=
  match c.fault? with
  | some f => .error f
  | none => .ok c

/-- The configuration that a text writes. -/
def ofText (text : String) : Except Fault Config :=
  match codec.ofText text with
  | .error f => .error (.malformed f.message)
  | .ok c => c.checked

/-- The configuration in a file with these bytes. -/
def ofBytes (path : String) (bytes : List UInt8) : Except Fault Config :=
  match Text.Utf8.decode? bytes with
  | none => .error (.unreadable path "stream did not contain valid UTF-8")
  | some text => ofText text

end Config

end Swarmkeeper
