import Swarmkeeper.Admission.Peer
import Swarmkeeper.Admission.Range
import Swarmkeeper.Identity.PeerId
import Swarmkeeper.Pattern.Matcher
import Swarmkeeper.Text.Utf8

/-!
The rules for admission. A rule whose pattern could not be read is kept for display and blocks nobody.
-/

namespace Swarmkeeper.Admission

open Swarmkeeper.Text

variable [Pattern.Matcher]

/-- One rule. -/
inductive Filter where
  | range (pattern : String) (range : Option Range)
  /-- Addresses as text, trimmed, none of them empty or repeated. -/
  | addresses (list : List String)
  | clientName (source : String) (pattern : Option Pattern.Matcher.Compiled)
  | peerId (source : String) (pattern : Option Pattern.Matcher.Compiled)
  | malformedId
deriving DecidableEq

namespace Filter

/-- The rule that blocks a range. -/
def ofRange (pattern : String) : Filter := .range pattern (Range.ofText pattern).toOption

/-- The entries without the white space around them; blank ones are left out. -/
def cleanEntries (entries : List String) : List String := (entries.map trim).filter (· ≠ "")

/-- The rule that blocks the addresses of a list. -/
def ofAddresses (entries : List String) : Filter := .addresses (cleanEntries entries).eraseDups

/-- The rule that blocks client names in which a pattern occurs. -/
def ofClientName (source : String) : Filter := .clientName source (Pattern.Matcher.compile? .text source)

/-- The rule that blocks peer ids in which a pattern occurs. -/
def ofPeerId (source : String) : Filter := .peerId source (Pattern.Matcher.compile? .bytes source)

/-- The rule blocks the peer. -/
def blocks (f : Filter) (peer : Peer) : Bool :=
  match f with
  | .range _ (some r) => (Address.ofText? peer.ip).any fun a => decide (r.Contains a)
  | .addresses list => list.contains peer.ip
  | .clientName _ (some p) => Pattern.Matcher.occursIn p (Utf8.encode peer.client)
  | .peerId _ (some p) => Pattern.Matcher.occursIn p peer.id
  | .malformedId => Identity.isMalformed peer.id
  | .range _ none | .clientName _ none | .peerId _ none => false

/-- The rule in words. -/
def describe : Filter → String
  | .range _ (some r) => s!"IP range {r.toText}"
  | .range pattern none => s!"IP range '{pattern}' (invalid, disabled)"
  | .addresses list => s!"IP blacklist ({list.length} addresses)"
  | .clientName source (some _) => s!"Client matches /{source}/"
  | .clientName source none => s!"Client pattern '{source}' (invalid, disabled)"
  | .peerId source (some _) => s!"Peer id matches /{source}/"
  | .peerId source none => s!"Peer id pattern '{source}' (invalid, disabled)"
  | .malformedId => "Peer id without a well-formed fingerprint"

end Filter

end Swarmkeeper.Admission
