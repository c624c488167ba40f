import Swarmkeeper.Admission.Policy
import Swarmkeeper.Blocklist.Format
import Swarmkeeper.Setting.Basic
import Swarmkeeper.Text.Utf8
import Swarmkeeper.Web.Fault

/-!
A shared chain that is kept in step with a policy and with a list of addresses that is kept elsewhere.
A refresh is cut in two where it waits for that list: what it does before, and what it does with the
answer. Other refreshes and changes of the policy may come in between.
-/

namespace Swarmkeeper.Blocklist

open Swarmkeeper.Admission Swarmkeeper.Text

/-- The answer to a request for the list. -/
abbrev Body := Except Web.Fault (List UInt8)

/-- The addresses of a list as it was fetched; bytes that are no text become replacement characters. -/
def addresses (bytes : List UInt8) : List String := parse (Utf8.decodeLossy bytes)

variable [Pattern.Matcher]

/-- A policy, the chain made of it, and the addresses that were last fetched. -/
structure Updater where
  policy : Setting Policy
  chain : SharedChain
  fetched : List String
deriving DecidableEq

namespace Updater

/-- An updater that has done nothing yet: the chain admits everyone. -/
def ofPolicy (policy : Policy) : Updater := ⟨.ofValue policy, .ofChain .admitAll, []⟩

/-- Publishes a policy; the chain stays as it is. -/
def publish (u : Updater) (policy : Policy) : Updater := { u with policy := u.policy.set policy }

/-- Installs the chain of the current policy with the addresses that were last fetched. -/
def rebuild (u : Updater) : Updater :=
  { u with chain := u.chain.replace (u.policy.value.chain u.fetched) }

/-- Installs the chain of the current policy with these addresses. -/
def install (u : Updater) (addresses : List String) : Updater :=
  { u with fetched := addresses }.rebuild

/-- Decides on a peer with the chain that is installed. -/
def evaluate (u : Updater) (peer : Peer) : Verdict × Updater :=
  let (v, chain) := u.chain.evaluate peer
  (v, { u with chain })

/-- The first part of a refresh: the URL to fetch. If the policy names none, the fetched addresses are
given up and the refresh is over. -/
def beginRefresh (u : Updater) : Option String × Updater :=
  match u.policy.value.listUrl with
  | some url => (some url, u)
  | none => (none, u.install [])

/-- The second part of a refresh, with the answer: the number of addresses. After a fault everything
stays as it was. -/
def endRefresh (u : Updater) : Body → Except Web.Fault Nat × Updater
  | .ok bytes => (.ok (addresses bytes).length, u.install (addresses bytes))
  | .error f => (.error f, u)

end Updater

end Swarmkeeper.Blocklist
