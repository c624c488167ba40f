import Swarmkeeper.Engine.Site

/-!
A site at which several sessions are made at the same time. The making of a session is cut wherever others may
come in: the library is loaded, the proxy is looked up, a client is made for it, the directory for downloads is
made, the constructor is called, and it ends. A log tells what was done for whom.
-/

namespace Swarmkeeper.Engine

/-- How far the making of a session has come. -/
inductive Stage where
  /-- Nothing has been done. -/
  | asked
  /-- The library is loaded. -/
  | supported
  /-- This is the proxy that the session is to use. -/
  | routed (proxy : Web.Proxy)
  /-- There is a client for the proxy. -/
  | connected (client : Web.Client)
  /-- The directory for downloads is there, and with it all that the constructor needs. -/
  | housed (plan : Plan)
  /-- The constructor has been called. -/
  | called (plan : Plan)
  | over (result : Except Panic (Except Fault Nat))

/-- What is asked for: a session of the engine with this number, which is of this kind, with these settings. Its
peer id ends in these bytes. -/
structure Order where
  engine : Nat
  kind : Kind
  settings : Settings
  tail : Identity.Tail

/-- What the constructor of a session with this client is given. -/
def Order.plan (o : Order) (h : Host) (client : Web.Client) : Plan :=
  h.plan o.kind o.settings client o.tail

/-- The making of a session. -/
structure Making where
  order : Order
  stage : Stage

/-- Something that is done for a session, and what comes of it. -/
inductive Deed where
  | load (outcome : Except LibraryFault Unit)
  | look (proxy : Web.Proxy)
  | connect (proxy : Web.Proxy) (userAgent : String) (outcome : Except Web.Fault Web.Client)
  | makeDirectory (outcome : Except Fault Unit)
  | construct (engine : Nat) (plan : Plan)
  | finish (result : Except Panic (Except Fault Nat))

/-- A site, the sessions that are made there, and what has been done for them, with their numbers. -/
structure Workshop where
  site : Site
  makings : List Making
  log : List (Nat × Deed)

namespace Workshop

/-- A site at which no session is being made. -/
def ofSite (s : Site) : Workshop := ⟨s, [], []⟩

/-- Somebody asks for a new session of an engine. -/
def begin (w : Workshop) (engine : Nat) (settings : Settings) (tail : Identity.Tail) : Workshop :=
  match w.site.engine? engine with
  | some e => { w with makings := w.makings ++ [⟨⟨engine, e.kind, settings, tail⟩, .asked⟩] }
  | none => w

/-- Something is done for a session, after which the site is this and the session has come to this stage. -/
def record (w : Workshop) (n : Nat) (m : Making) (deed : Deed) (stage : Stage) (site : Site) : Workshop where
  site
  makings := w.makings.set n { m with stage }
  log := w.log ++ [(n, deed)]

/-- The library of the engine is loaded. -/
def load (w : Workshop) (n : Nat) (m : Making) : Workshop :=
  match w.site.ask m.order.engine (·.requireLibrary w.site.host.tree) with
  | (some (.ok ()), site) => w.record n m (.load (.ok ())) .supported site
  | (some (.error f), site) =>
      w.record n m (.load (.error f)) (.over (.ok (.error (.unsupported m.order.kind f.message)))) site
  | (none, _) => w

/-- The proxy of this moment is looked up. -/
def look (w : Workshop) (n : Nat) (m : Making) : Workshop :=
  w.record n m (.look w.site.host.proxy.value) (.routed w.site.host.proxy.value) w.site

/-- A client is made for a proxy. -/
def connect (w : Workshop) (n : Nat) (m : Making) (proxy : Web.Proxy) : Workshop :=
  let host := w.site.host
  let userAgent := host.fingerprint.userAgent
  match host.makeClient proxy userAgent with
  | .ok client =>
      w.record n m (.connect proxy userAgent (.ok client)) (.connected client)
        { w.site with host := { host with clients := host.clients ++ [client] } }
  | .error f => w.record n m (.connect proxy userAgent (.error f)) (.over (.ok (.error (.web f)))) w.site

/-- The directory for downloads is made. -/
def house (w : Workshop) (n : Nat) (m : Making) (client : Web.Client) : Workshop :=
  match w.site.host.ensureSaveDirectory with
  | (.ok (), host) =>
      w.record n m (.makeDirectory (.ok ())) (.housed (m.order.plan w.site.host client)) { w.site with host }
  | (.error f, host) => w.record n m (.makeDirectory (.error f)) (.over (.ok (.error f))) { w.site with host }

/-- The constructor is called. -/
def call (w : Workshop) (n : Nat) (m : Making) (plan : Plan) : Workshop :=
  w.record n m (.construct m.order.engine plan) (.called plan)
    { w.site with plans := w.site.plans ++ [(m.order.engine, plan)] }

/-- The making of a session goes on. -/
def advance (w : Workshop) (n : Nat) : Workshop :=
  match w.makings[n]? with
  | none => w
  | some m =>
      match m.stage with
      | .asked => w.load n m
      | .supported => w.look n m
      | .routed proxy => w.connect n m proxy
      | .connected client => w.house n m client
      | .housed plan => w.call n m plan
      | .called _ | .over _ => w

/-- A constructor ends like this. -/
def finish (w : Workshop) (n : Nat) (result : Except Panic (Except Fault Nat)) : Workshop :=
  match w.makings[n]? with
  | some ⟨order, .called plan⟩ => w.record n ⟨order, .called plan⟩ (.finish result) (.over result) w.site
  | _ => w

/-! ## Runs -/

/-- The act makes a session from beginning to end. -/
def Creates : Site.Act → Prop
  | .create .. => True
  | _ => False

/-- What can happen while sessions are made. -/
inductive Event where
  | begin (engine : Nat) (settings : Settings) (tail : Identity.Tail)
  | advance (n : Nat)
  | finish (n : Nat) (result : Except Panic (Except Fault Nat))
  /-- Something else is done at the site. -/
  | act (a : Site.Act) (h : ¬ Creates a)

/-- What an event makes of a workshop. -/
def step (w : Workshop) : Event → Workshop
  | .begin engine settings tail => w.begin engine settings tail
  | .advance n => w.advance n
  | .finish n result => w.finish n result
  | .act a _ => { w with site := (w.site.step a).2 }

/-- The workshop after these events. -/
def after (w : Workshop) (events : List Event) : Workshop := events.foldl step w

/-- The constructor that has been called for a session ends. -/
def conclude (w : Workshop) (n : Nat) (construct : Plan → Except Panic (Except Fault Nat)) : Workshop :=
  match w.makings[n]? with
  | some ⟨_, .called plan⟩ => w.finish n (construct plan)
  | _ => w

/-- A session is made without a pause. -/
def make (w : Workshop) (engine : Nat) (settings : Settings) (tail : Identity.Tail)
    (construct : Plan → Except Panic (Except Fault Nat)) : Workshop :=
  let n := w.makings.length
  (w.after [.begin engine settings tail, .advance n, .advance n, .advance n, .advance n, .advance n]).conclude n
    construct

/-- What has been done for the session of this number. -/
def deeds (w : Workshop) (n : Nat) : List Deed := (w.log.filter (·.1 = n)).map (·.2)

end Workshop

end Swarmkeeper.Engine
