import Swarmkeeper.Text.Hex

/-!
Peer ids as peers announce them: any bytes, of which the first eight may name the client software
between two delimiters.
-/

namespace Swarmkeeper.Identity

/-- The byte that stands on both sides of a client fingerprint. -/
def delimiter : UInt8 := 45

/-- The id cannot name its client: it does not start with the delimiter, or has no second one. -/
def isMalformed (id : List UInt8) : Bool :=
  match id with
  | [] => true
  | first :: rest => first != delimiter || !rest.contains delimiter

/-- The number of bytes of a complete peer id. -/
def peerIdLength : Nat := 20

/-- A complete peer id as text. -/
def display? (id : List UInt8) : Option String :=
  if id.length = peerIdLength then some (Text.Hex.encode id) else none

end Swarmkeeper.Identity
