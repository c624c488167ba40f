import Swarmkeeper.Text.Utf8
import Swarmkeeper.Web.Proxy

/-!
A client that fetches resources over HTTP through a proxy, and how far a request gets before the
network is asked.
-/

namespace Swarmkeeper.Web

open Swarmkeeper.Text

/-- Proxy and user agent of a client. -/
structure Client where
  proxy : Proxy
  userAgent : String
deriving DecidableEq, Repr

namespace Client

/-- A character that a header may hold: no control character but the tab. -/
def isHeaderChar (c : Char) : Bool := c == '\t' || !Url.Percent.isControl c

/-- A client for a proxy that can be used. -/
def ofProxy (proxy : Proxy) (userAgent : String) : Except Fault Client :=
  match proxy.fault? with
  | some f => .error f
  | none =>
      if userAgent.toList.all isHeaderChar then .ok ⟨proxy, userAgent⟩
      else .error (.noClient "builder error")

/-- The URL with its credentials moved into a header, if they are text. -/
def withoutCredentials (url : Url) : Url :=
  let text? (cs : List Char) := Utf8.decode? (Url.Percent.decode cs)
  match text? url.username, url.password.map text? with
  | none, _ | some "", some none => url
  | _, _ => { url with username := [], password := none }

/-- A character that may stand in the host of a request. -/
def isRequestChar (c : Char) : Bool := !(['"', '\x60', '\x7b', '|', '\x7d'].contains c)

/-- The host of a request can be written into it. -/
def isRequestHost (host : Option Url.Host) : Bool :=
  match host with
  | some (.name text) => text.all isRequestChar
  | _ => true

/-- What a fetch answers where no connection can be made. -/
def fetchOffline (_ : Client) (url : String) : Fault :=
  match Url.ofText url with
  | .error _ => .invalidUrl url
  | .ok parsed =>
      if Proxy.isSupported parsed.scheme && isRequestHost parsed.host then
        .request url "failed to connect"
      else
        let shown := (withoutCredentials parsed).toText
        .request url s!"builder error for url ({shown})"

end Client

end Swarmkeeper.Web
