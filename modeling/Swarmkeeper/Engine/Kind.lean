import Swarmkeeper.Json.Codec

/-!
The kinds of download engines and the settings of one engine.
-/

namespace Swarmkeeper.Engine

open Swarmkeeper.Json

/-- What does the work of an engine. -/
inductive Kind where
  /-- A native torrent library in this process. -/
  | libtorrent
  /-- A service in a process of its own. -/
  | remoteService
  /-- Nothing: sessions are simulated in this process. -/
  | simulated
deriving DecidableEq, Repr

namespace Kind

/-- The name of a kind in configurations. -/
def key : Kind → String
  | libtorrent => "libtorrent"
  | remoteService => "remote_service"
  | simulated => "simulated"

/-- The name of a kind in messages. -/
def label : Kind → String
  | libtorrent => "libtorrent"
  | remoteService => "remote-service"
  | simulated => "simulated"

/-- Every kind. -/
def all : List Kind := [libtorrent, remoteService, simulated]

/-- The kind with this name in configurations. -/
def ofKey? (s : String) : Option Kind := all.find? fun k => k.key = s

/-- Kinds, written by name. -/
def codec : Codec Kind := .enumeration (all.map fun k => (k.key, k)) key

end Kind

/-- Whether an engine's traffic runs on this machine. -/
inductive Location where
  | here
  | remote
deriving DecidableEq, Repr

/-- The settings of one engine. -/
structure Settings where
  kind : Kind
  enabled : Bool
  /-- Bytes per second, or no limit. -/
  downloadLimit : Option UInt64
  /-- Bytes per second, or no limit. -/
  uploadLimit : Option UInt64
  maxPeers : UInt64
  /-- Seeding stops when this much has been sent for each byte received. -/
  shareRatioLimit : Option Float32
  enableDht : Bool

namespace Settings

/-- The settings that an engine of this kind has unless others are given. -/
def ofKind (kind : Kind) : Settings where
  kind := kind
  enabled := true
  downloadLimit := none
  uploadLimit := none
  maxPeers := 200
  shareRatioLimit := none
  enableDht := true

/-- The fields of an engine's settings. -/
def fields : List (RecordField Settings) :=
  [.of "engine_type" Kind.codec (·.kind) fun x s => { s with kind := x },
   .of "enabled" .bool (·.enabled) fun x s => { s with enabled := x },
   .of "download_limit" (.optional .word64) (·.downloadLimit) fun x s => { s with downloadLimit := x },
   .of "upload_limit" (.optional .word64) (·.uploadLimit) fun x s => { s with uploadLimit := x },
   .of "max_peer_connections" .count (·.maxPeers) fun x s => { s with maxPeers := x },
   .of "share_ratio_limit" (.optional .float32) (·.shareRatioLimit) fun x s =>
     { s with shareRatioLimit := x },
   .of "enable_dht" .bool (·.enableDht) fun x s => { s with enableDht := x }]

/-- An engine's settings as a record. -/
def codec : Codec Settings := Record.codec "EngineConfig" fields (ofKind .libtorrent)

end Settings

end Swarmkeeper.Engine
