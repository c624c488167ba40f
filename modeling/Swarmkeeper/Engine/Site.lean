import Swarmkeeper.Engine.Preparation
import Swarmkeeper.Engine.Registry

/-!
The engines of a program in their surroundings. Whoever needs to know whether an engine can be used asks
here: a reader, a test, a session or a choice among the engines. Meanwhile files come and go, and libraries
are exchanged.
-/

namespace Swarmkeeper.Engine

/-- The engines of a program and what they share. -/
structure Site where
  host : Host
  registry : Registry
  /-- What constructors have been given so far, with the numbers of their engines, in order. -/
  plans : List (Nat × Plan)

namespace Site

/-- The engines before anything is asked of them. -/
def ofEngines (host : Host) (engines : List Native) : Site := ⟨host, .ofEngines engines, []⟩

/-- The engine with this number. -/
def engine? (s : Site) (i : Nat) : Option Native := s.registry.engine? i

/-- Something is asked of the engine with this number. -/
def ask {α : Type} (s : Site) (i : Nat) (f : Native → α × Native) : Option α × Site :=
  match s.engine? i with
  | none => (none, s)
  | some e =>
      let (answer, e) := f e
      (some answer, { s with registry := s.registry.setEngine i e })

/-- A reader of whether the engine with this number can be used. -/
def watch (s : Site) (i : Nat) : Option Receiver × Site := s.ask i (·.isSupported s.host.tree)

/-- The engine with this number can be used. -/
def test (s : Site) (i : Nat) : Option Bool × Site := s.ask i (·.testConnection s.host.tree)

/-- What constructors have been given, now that the engine with this number has prepared a plan. -/
def hand (plans : List (Nat × Plan)) (i : Nat) : Except Fault Plan → List (Nat × Plan)
  | .ok plan => plans ++ [(i, plan)]
  | .error _ => plans

/-- Does for a session of the engine with this number what comes before its constructor. -/
def prepare (s : Site) (i : Nat) (settings : Settings) (tail : Identity.Tail) :
    Option (Except Fault Plan) × Site :=
  match s.engine? i with
  | none => (none, s)
  | some e =>
      let (plan, e, host) := e.prepare s.host settings tail
      (some plan, ⟨host, s.registry.setEngine i e, hand s.plans i plan⟩)

/-- What a constructor makes of a plan, if there is one. -/
def build (construct : Plan → Except Panic (Except Fault Nat)) :
    Except Fault Plan → Except Panic (Except Fault Nat)
  | .ok plan => construct plan
  | .error fault => .ok (.error fault)

/-- A session of the engine with this number. -/
def create (s : Site) (i : Nat) (settings : Settings) (tail : Identity.Tail)
    (construct : Plan → Except Panic (Except Fault Nat)) :
    Option (Except Panic (Except Fault Nat)) × Site :=
  let (plan, s) := s.prepare i settings tail
  (plan.map (build construct), s)

/-- The number of the engine that is to be used. -/
def select (s : Site) (isMetered : Bool) : Option Nat × Site :=
  let (i, registry) := s.registry.select s.host.tree isMetered
  (i, { s with registry })

/-! ## Changes -/

/-- Something happens to the engine with this number. -/
def onEngine (s : Site) (i : Nat) (f : Native → Native) : Site := (s.ask i fun e => ((), f e)).2

/-- Changes the settings of an engine. -/
def configure (s : Site) (i : Nat) (f : Settings → Settings) : Site :=
  s.onEngine i fun e => { e with settings := e.settings.update f }

/-- The library of an engine is exchanged for another. -/
def exchange (s : Site) (i : Nat) (library : Library) : Site :=
  s.onEngine i fun e => { e with loader := { e.loader with library } }

/-- Files come and go. -/
def onFiles (s : Site) (f : Files.Tree → Files.Tree) : Site :=
  { s with host := { s.host with tree := f s.host.tree } }

/-- Publishes a proxy. -/
def setProxy (s : Site) (proxy : Web.Proxy) : Site :=
  { s with host := { s.host with proxy := s.host.proxy.set proxy } }

/-- Something happens to the cache of the engine with this number. -/
def onDemand (s : Site) (i : Nat) (f : Demand → Demand) : Site :=
  { s with registry := s.registry.onDemand i f }

/-- Something happens to every cache. -/
def onAll (s : Site) (f : Registry → Registry) : Site := { s with registry := f s.registry }

/-! ## Runs -/

/-- What can be done at a site. -/
inductive Act where
  | watch (i : Nat)
  | test (i : Nat)
  /-- Asks for a session; the constructor comes to this if it is called. -/
  | create (i : Nat) (settings : Settings) (tail : Identity.Tail)
      (construct : Plan → Except Panic (Except Fault Nat))
  | select (isMetered : Bool)
  | configure (i : Nat) (f : Settings → Settings)
  | exchange (i : Nat) (library : Library)
  | onFiles (f : Files.Tree → Files.Tree)
  | setProxy (proxy : Web.Proxy)

/-- What is answered. -/
inductive Answer where
  | nothing
  | reader (r : Receiver)
  | flag (b : Bool)
  | session (result : Except Panic (Except Fault Nat))
  | engine (i : Option Nat)

/-- The answer to an act, and the site after it; an engine that is not there gives no answer. -/
def step (s : Site) : Act → Answer × Site
  | .watch i =>
      let (reader, s) := s.watch i
      ((reader.map .reader).getD .nothing, s)
  | .test i =>
      let (flag, s) := s.test i
      ((flag.map .flag).getD .nothing, s)
  | .create i settings tail construct =>
      let (result, s) := s.create i settings tail construct
      ((result.map .session).getD .nothing, s)
  | .select isMetered =>
      let (i, s) := s.select isMetered
      (.engine i, s)
  | .configure i f => (.nothing, s.configure i f)
  | .exchange i library => (.nothing, s.exchange i library)
  | .onFiles f => (.nothing, s.onFiles f)
  | .setProxy proxy => (.nothing, s.setProxy proxy)

/-- The site after these acts. -/
def after (s : Site) (acts : List Act) : Site := acts.foldl (fun s a => (s.step a).2) s

/-- The answer to an act after these acts. -/
def answer (s : Site) (acts : List Act) (a : Act) : Answer := ((s.after acts).step a).1

end Site

end Swarmkeeper.Engine
