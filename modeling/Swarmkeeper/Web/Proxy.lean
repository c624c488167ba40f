import Swarmkeeper.Json.Codec
import Swarmkeeper.Url.Basic
import Swarmkeeper.Web.Fault

/-!
The proxy through which resources are fetched. Its written form is an object whose member `kind` says
which of its forms it is; the other members belong to that form and may stand before it. The whole
object is read before any of them is looked at.
-/

namespace Swarmkeeper.Web

open Swarmkeeper.Json

/-- A server that passes requests on. -/
structure ProxyServer where
  url : String
  username : Option String
  password : Option String
deriving DecidableEq, Repr

/-- No proxy, or a server. -/
inductive Proxy where
  | disabled
  | http (server : ProxyServer)
deriving DecidableEq, Repr

/-- The fields of a server. -/
def ProxyServer.fields : List (RecordField ProxyServer) :=
  [.of "url" .text (·.url) fun x s => { s with url := x },
   .of "username" (.optional .text) (·.username) fun x s => { s with username := x },
   .of "password" (.optional .text) (·.password) fun x s => { s with password := x }]

namespace Proxy

/-- The server at this address, without credentials. -/
def ofUrl (url : String) : Proxy := .http ⟨url, none, none⟩

/-- Requests go through a server. -/
def isEnabled : Proxy → Bool
  | disabled => false
  | http _ => true

/-- The schemes of servers that can be asked. -/
def isSupported (scheme : List Char) : Bool :=
  scheme = "http".toList || scheme = "https".toList

/-- What is wrong with a proxy, if anything is. -/
def fault? : Proxy → Option Fault
  | disabled => none
  | http server =>
      match Url.ofText server.url with
      | .error f => some (.invalidProxy s!"{server.url}: {f.message}")
      | .ok url =>
          if isSupported url.scheme then none
          else
            let scheme := String.ofList url.scheme
            some (.invalidProxy s!"unsupported scheme '{scheme}'")

/-! ## Written form -/

/-- The two forms. -/
inductive Form where
  | disabled
  | http
deriving DecidableEq, Repr

/-- The forms by name. -/
def forms : List (String × Form) := [("disabled", .disabled), ("http", .http)]

/-- Reads the name of a form. -/
def readForm : Tree → Read Form
  | .string s => do Codec.variant forms (← malformed s)
  | t => mismatch "variant identifier" t

/-- Reads all members, keeping only the form, which may be given once. -/
def readKind (depth : Nat) (form : Option Form) : Members → Read Form
  | .close =>
      match form with
      | some f => .ok f
      | none => .error (.missingField "kind")
  | .member key value rest => do
      let name ← malformed key
      if name = "kind" then
        if form.isSome then .error (.duplicateField "kind")
        else readKind depth (some (← readForm value)) rest
      else
        malformed (value.keep depth)
        readKind depth form rest
  | .bare key f => do
      let name ← malformed key
      if name = "kind" ∧ form.isSome then .error (.duplicateField "kind") else .error (.malformed f)
  | .stray _ => .error (.malformed .keyMustBeString)
  | .broken f _ => .error (.malformed f)

/-- A member has this key. -/
def hasKey (name : String) : Members → Bool
  | .member (.ok key) _ rest => key == name || hasKey name rest
  | .member (.error _) _ rest => hasKey name rest
  | _ => false

/-- The items of a list that does not break off. -/
def values : Items → List Tree
  | .item value rest => value :: values rest
  | _ => []

/-- Sets fields from values in order, as far as both reach. -/
def readInOrder {σ : Type} : List (RecordField σ) → List Tree → σ → Read σ
  | field :: fields, value :: rest, s => do readInOrder fields rest (← field.read value s)
  | _, _, s => .ok s

/-- Reads a proxy from the form's name and exactly the values of its fields. -/
def readValues (form : Form) (list : List Tree) : Read Proxy :=
  match form with
  | .disabled =>
      if list = [] then .ok disabled else .error (.wrongLength list.length "0 elements in sequence")
  | .http => do
      let server ← readInOrder ProxyServer.fields list ⟨"", none, none⟩
      if list.length < 3 then
        .error (.wrongLength list.length "struct variant ProxyConfig::Http with 3 elements")
      else if 3 < list.length then .error (.wrongLength list.length "3 elements in sequence")
      else .ok (http server)

/-- Reads a proxy whose values may have `depth` levels less one. -/
def read (depth : Nat) : Tree → Read Proxy
  | .object members => do
      match ← readKind depth none members with
      | .disabled => .ok disabled
      | .http =>
          let server ← Record.readMembers ProxyServer.fields [] members ⟨"", none, none⟩
          if hasKey "url" members then .ok (http server) else .error (.missingField "url")
  | .list .close => .error (.missingField "kind")
  | .list (.item value rest) => do
      let form ← readForm value
      malformed (rest.keep depth)
      readValues form (values rest)
  | .list (.broken f _ _) => .error (.malformed f)
  | t => mismatch "internally tagged enum ProxyConfig" t

/-- Writes a proxy. -/
def write : Proxy → Tree
  | disabled => .ofMembers [("kind", .text "disabled")]
  | http server =>
      .ofMembers (("kind", .text "http") ::
        ProxyServer.fields.map fun f => (f.name, f.write server))

/-- Proxies whose object lies `level` levels deep in a document of at most 127. -/
def codec (level : Nat) : Codec Proxy := ⟨read (128 - level), write⟩

end Proxy

end Swarmkeeper.Web
