import Swarmkeeper.Engine.Native
import Swarmkeeper.Engine.SaveDirectory
import Swarmkeeper.Identity.Fingerprint
import Swarmkeeper.Web.Client

/-!
What is done for a session before the constructor of its engine is called: the library is loaded, a
client is made for the proxy of that moment, and the directory for downloads is made. The first of these
that fails is the last that is done.
-/

namespace Swarmkeeper.Engine

/-- What the engines of a program share. -/
structure Host where
  tree : Files.Tree
  proxy : Setting Web.Proxy
  /-- Makes a client for a proxy and a user agent. -/
  makeClient : Web.Proxy → String → Except Web.Fault Web.Client
  /-- The clients made so far, in order. -/
  clients : List Web.Client
  saveDirectory : String
  fingerprint : Identity.Fingerprint

/-- What a constructor is given. The chain that decides on peers is not in it: the sessions of a program share
the one of the program, and ask it wherever it is kept. -/
structure Plan where
  kind : Kind
  settings : Settings
  client : Web.Client
  saveDirectory : String
  fingerprint : Identity.Fingerprint
  /-- The id that the session shows to peers. -/
  peerId : List UInt8

/-- Makes a client for the proxy of this moment. -/
def Host.connect (h : Host) : Except Fault Web.Client × Host :=
  match h.makeClient h.proxy.value h.fingerprint.userAgent with
  | .ok client => (.ok client, { h with clients := h.clients ++ [client] })
  | .error fault => (.error (.web fault), h)

/-- Makes sure that there is a directory for downloads. -/
def Host.ensureSaveDirectory (h : Host) : Except Fault Unit × Host :=
  let (outcome, tree) := ensureDirectory h.tree h.saveDirectory
  (outcome, { h with tree })

/-- What the constructor of a session with this client is given, when chance has given these bytes. -/
def Host.plan (h : Host) (kind : Kind) (settings : Settings) (client : Web.Client) (tail : Identity.Tail) :
    Plan :=
  ⟨kind, settings, client, h.saveDirectory, h.fingerprint, h.fingerprint.peerId tail.bytes⟩

/-- Makes a client and the directory. -/
def Host.equip (h : Host) (kind : Kind) (settings : Settings) (tail : Identity.Tail) :
    Except Fault Plan × Host :=
  match h.connect with
  | (.error fault, h) => (.error fault, h)
  | (.ok client, h) =>
      match h.ensureSaveDirectory with
      | (.error fault, h) => (.error fault, h)
      | (.ok (), h) => (.ok (h.plan kind settings client tail), h)

/-- Does for a session what comes before its constructor. -/
def Native.prepare (e : Native) (h : Host) (settings : Settings) (tail : Identity.Tail) :
    Except Fault Plan × Native × Host :=
  match e.requireLibrary h.tree with
  | (.error fault, e) => (.error (.unsupported e.kind fault.message), e, h)
  | (.ok (), e) =>
      let (plan, h) := h.equip e.kind settings tail
      (plan, e, h)

end Swarmkeeper.Engine
