import Swarmkeeper.Config.Basic
import Swarmkeeper.Text.Blank

/-!
Settings taken from environment variables, over the usual configuration.
-/

namespace Swarmkeeper.Config

open Swarmkeeper.Text

/-- The variables that are set. -/
abbrev Environment := String → Option String

/-- The variables that are looked at. -/
def variableNames : List String :=
  ["TIDAL_VERSION", "TIDAL_PROXY", "TIDAL_SERVICE_ADDR", "TIDAL_SERVICE_WARMUP_MS", "TIDAL_SAVE_DIR",
    "TIDAL_BLOCK_INVALID_PEER_ID"]

/-- The proxy of a variable: an address, or none for a blank text and the word none. -/
def proxyOfVariable (value : String) : Web.Proxy :=
  let url := trim value
  if url = "" ∨ url = "none" then .disabled else .ofUrl url

/-- Reads a number of milliseconds. -/
def readMillis (key value : String) : Except Fault UInt64 :=
  match readBelow 0x10000000000000000 (trim value).toList with
  | .ok n => .ok (UInt64.ofNat n)
  | .error f => .error (.invalid key s!"'{value}': {f.message}")

/-- What is said of a text that is no boolean. -/
def booleanReason : String := "provided string was not `true` or `false`"

/-- Reads a boolean. -/
def readBoolean (key value : String) : Except Fault Bool :=
  match trim value with
  | "true" => .ok true
  | "false" => .ok false
  | _ => .error (.invalid key s!"'{value}': {booleanReason}")

/-- The configuration with one variable applied, if it is set. -/
def override (env : Environment) (key : String)
    (apply : String → Config → Except Fault Config) (c : Config) : Except Fault Config :=
  match env key with
  | some value => apply value c
  | none => .ok c

/-- The configuration of an environment. The variables are read in a fixed order, and the result is
checked. -/
def ofEnvironment (env : Environment) : Except Fault Config := do
  let c := standard
  let c ← override env "TIDAL_VERSION" (fun v c => .ok { c with client.version := v }) c
  let c ← override env "TIDAL_PROXY" (fun v c => .ok { c with proxy := proxyOfVariable v }) c
  let c ← override env "TIDAL_SERVICE_ADDR" (fun v c => .ok { c with service.address := v }) c
  let c ← override env "TIDAL_SERVICE_WARMUP_MS" (fun v c => do
    let n ← readMillis "TIDAL_SERVICE_WARMUP_MS" v
    .ok { c with service.warmup := n }) c
  let c ← override env "TIDAL_SAVE_DIR" (fun v c => .ok { c with storage.saveDirectory := v }) c
  let c ← override env "TIDAL_BLOCK_INVALID_PEER_ID" (fun v c => do
    let b ← readBoolean "TIDAL_BLOCK_INVALID_PEER_ID" v
    .ok { c with peerFilter.blockMalformedIds := b }) c
  c.checked

end Swarmkeeper.Config
