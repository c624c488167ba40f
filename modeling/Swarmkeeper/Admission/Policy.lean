import Swarmkeeper.Admission.Chain
import Swarmkeeper.Duration
import Swarmkeeper.Json.Codec

/-!
The settings from which a chain is built: ranges, addresses, patterns, and where a list of further
addresses is kept.
-/

namespace Swarmkeeper.Admission

open Swarmkeeper.Json Swarmkeeper.Text

/-- What to admit. -/
structure Policy where
  enabled : Bool
  ranges : List String
  addresses : List String
  clientPatterns : List String
  idPatterns : List String
  blockMalformedIds : Bool
  /-- Where further addresses are listed. -/
  listUrl : Option String
  /-- The time between two readings of that list. -/
  refresh : Duration
deriving DecidableEq

namespace Policy

/-- Client names of downloaders that do not share. -/
def leechingClients : String :=
  "(?i)xunlei|thunder|xfplay|qq ?download|baidu ?netdisk|dandanplay"

/-- Peer ids of downloaders that do not share. -/
def leechingIds : String := "^-(XL|SD|XF|QD|BN|DL|TS|FG|TT|NX)"

/-- The policy unless another is given: downloaders that do not share are blocked. -/
def standard : Policy where
  enabled := true
  ranges := []
  addresses := []
  clientPatterns := [leechingClients]
  idPatterns := [leechingIds]
  blockMalformedIds := false
  listUrl := none
  refresh := .ofSeconds 21600

/-- The policy that admits everyone. -/
def disabled : Policy := { standard with enabled := false }

/-- Lengths of time in whole seconds; a fraction is not written. -/
def wholeSeconds : Codec Duration where
  read t := .ofSeconds <$> Codec.word64.read t
  write d := Codec.word64.write d.seconds

/-- The fields of a policy. -/
def fields : List (RecordField Policy) :=
  [.of "enabled" .bool (·.enabled) fun x p => { p with enabled := x },
   .of "ip_filters" (.list .text) (·.ranges) fun x p => { p with ranges := x },
   .of "ip_blacklist" (.list .text) (·.addresses) fun x p => { p with addresses := x },
   .of "client_filters" (.list .text) (·.clientPatterns) fun x p => { p with clientPatterns := x },
   .of "peer_id_filters" (.list .text) (·.idPatterns) fun x p => { p with idPatterns := x },
   .of "block_invalid_peer_id" .bool (·.blockMalformedIds) fun x p =>
     { p with blockMalformedIds := x },
   .of "blacklist_url" (.optional .text) (·.listUrl) fun x p => { p with listUrl := x },
   .of "blacklist_refresh" wholeSeconds (·.refresh) fun x p => { p with refresh := x }]

/-- Policies as records. -/
def codec : Codec Policy := Record.codec "PeerFilterConfig" fields standard

variable [Pattern.Matcher]

/-- The rules of a policy with further addresses. All addresses make one rule, which comes first;
blank entries and patterns make none. -/
def filters (p : Policy) (further : List String) : List Filter :=
  if p.enabled then
    let entries := Filter.cleanEntries (p.addresses ++ further)
    (if entries = [] then [] else [.ofAddresses entries]) ++
      (if p.blockMalformedIds then [.malformedId] else []) ++
      (Filter.cleanEntries p.ranges).map .ofRange ++
      (Filter.cleanEntries p.idPatterns).map .ofPeerId ++
      (Filter.cleanEntries p.clientPatterns).map .ofClientName
  else []

/-- The chain of a policy with further addresses. -/
def chain (p : Policy) (further : List String) : Chain := .ofFilters (p.filters further)

end Policy

end Swarmkeeper.Admission
