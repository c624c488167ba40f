import Swarmkeeper.Config.Fault
import Swarmkeeper.Identity.Fingerprint

/-!
How the client names itself.
-/

namespace Swarmkeeper.Config

open Swarmkeeper.Json

/-- Version, tag and product name of the client. -/
structure Client where
  version : String
  tag : String
  product : String
deriving DecidableEq, Repr

namespace Client

/-- The client unless another is given. -/
def standard : Client := ⟨"0.1.0", "TD", "tidal"⟩

/-- The fields of a client. -/
def fields : List (RecordField Client) :=
  [.of "version" .text (·.version) fun x c => { c with version := x },
   .of "fingerprint_tag" .text (·.tag) fun x c => { c with tag := x },
   .of "product" .text (·.product) fun x c => { c with product := x }]

/-- Clients as records. -/
def codec : Codec Client := Record.codec "ClientConfig" fields standard

/-- The fingerprint of a client; its tag has to be one. -/
def fingerprint (c : Client) : Except Fault Identity.Fingerprint :=
  match Identity.Fingerprint.derive? c.tag c.product c.version with
  | some f => .ok f
  | none => .error (.invalid "fingerprint tag" (Identity.tagReason c.tag))

end Client

end Swarmkeeper.Config
