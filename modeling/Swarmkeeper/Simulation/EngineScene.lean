import Swarmkeeper.Admission.Chain
import Swarmkeeper.Engine.Site
import Swarmkeeper.Simulation.Backend
import Swarmkeeper.Simulation.Clock
import Swarmkeeper.Simulation.ServiceScene

/-!
Named visitors of a registry of engines on a clock of their own. Constructions, services and visitors
take turns; after each step all of them run until each waits for the clock or for a later step.
-/

namespace Swarmkeeper.Simulation

open Swarmkeeper.Admission Swarmkeeper.Engine Swarmkeeper.Service

/-- What a visitor wants. -/
inductive Aim where
  /-- The session of the engine that is to be used. -/
  | session (isMetered : Bool)
  /-- The session of an engine. -/
  | get (engine : Nat)
  /-- A session of its own; the settings are those of the engine unless others are given. -/
  | create (engine : Nat) (settings : Option Settings)

/-- How far a visitor has come. -/
inductive Standing where
  | arrived
  /-- It waits at the cache of an engine. -/
  | waiting (engine getter : Nat)
  /-- It waits for a construction of its own. -/
  | creating (job : Nat)
deriving DecidableEq, Repr

/-- A named visitor. -/
structure Visitor where
  name : String
  aim : Aim
  standing : Standing
  fate : Fate (Except Engine.Fault Nat)

/-- A turn: of a visitor, of a construction, of the service of an engine, or the end of a cache that has
been announced. -/
inductive EngineTask where
  | visitor (index : Nat)
  | job (index : Nat)
  | chore (engine : Nat) (c : Chore Nat)
  | tearDown (engine : Nat)

variable [Pattern.Matcher]

/-- Engines, visitors and sessions. -/
structure EngineScene where
  site : Site
  backends : List Backend
  jobs : List Job
  visitors : List Visitor
  sessions : List Session
  /-- The sessions that have been seen, in the order in which they were first. -/
  seen : List Nat
  chain : SharedChain
  /-- What the fetches of the sessions come to. -/
  fetches : Script (Except Web.Fault (List UInt8))
  /-- The URLs fetched so far, in order. -/
  urls : List String
  /-- Readers of whether an engine can be used, by engine, the latest first. -/
  readers : List (Nat × Receiver)

namespace EngineScene

/-- A scene and its clock. -/
abbrev Stage := World EngineTask EngineScene

/-- A scene with these engines before anything is done. -/
def ofEngines (host : Host) (engines : List (Native × Backend)) (chain : Chain)
    (fetches : Script (Except Web.Fault (List UInt8))) : EngineScene where
  site := .ofEngines host (engines.map (·.1))
  backends := engines.map (·.2)
  jobs := []
  visitors := []
  sessions := []
  seen := []
  chain := .ofChain chain
  fetches := fetches
  urls := []
  readers := []

/-- What the engines share. -/
def host (s : EngineScene) : Host := s.site.host

/-- The engines. -/
def registry (s : EngineScene) : Registry := s.site.registry

/-! ## Changes -/

/-- Changes the engines and their surroundings. -/
def onSite (w : Stage) (f : Site → Site) : Stage := w.modify fun s => { s with site := f s.site }

/-- Something happens to the cache of an engine. -/
def onDemand (w : Stage) (engine : Nat) (f : Demand → Demand) : Stage :=
  onSite w (·.onDemand engine f)

/-- Changes a visitor. -/
def setVisitor (w : Stage) (index : Nat) (f : Visitor → Visitor) : Stage :=
  w.modify fun s => { s with visitors := s.visitors.modify index f }

/-- Changes a construction. -/
def setJob (w : Stage) (index : Nat) (effort : Effort) : Stage :=
  w.modify fun s => { s with jobs := s.jobs.modify index fun j => { j with effort } }

/-- Changes a backend. -/
def setBackend (w : Stage) (engine : Nat) (f : Backend → Backend) : Stage :=
  w.modify fun s => { s with backends := s.backends.modify engine f }

/-- Sets the service behind an engine. -/
def setService (w : Stage) (engine : Nat) (service : ScriptedService Nat) : Stage :=
  setBackend w engine fun b => { b with link := b.link.map fun l => { l with service } }

/-- The service behind an engine. -/
def link? (s : EngineScene) (engine : Nat) : Option Link :=
  (s.backends[engine]?).bind (·.link)

/-- The construction that waits as this caller of the service of an engine. -/
def jobOf (s : EngineScene) (engine caller : Nat) : Option Nat :=
  s.jobs.findIdx? fun j =>
    j.engine == engine && match j.effort with
      | .asking request => request.stage == .waiting caller
      | _ => false

/-- Puts down what the service of an engine leaves to be done. -/
def place (engine : Nat) (w : Stage) : List (Order Nat) → Stage
  | [] => w
  | .chore c :: rest => place engine (w.soon (.chore engine c)) rest
  | .choreAfter delay c :: rest => place engine (w.later delay (.chore engine c)) rest
  | .wake caller :: rest =>
      match w.state.jobOf engine caller with
      | some index => place engine (w.soon (.job index)) rest
      | none => place engine w rest

/-! ## Constructions -/

/-- The visitors that wait for a construction of the cache of an engine. -/
def awaiting (s : EngineScene) (engine generation : Nat) : List Nat :=
  match s.registry.demand? engine with
  | none => []
  | some d => (d.waiting generation).filterMap fun getter =>
      s.visitors.findIdx? fun v => v.standing = .waiting engine getter

/-- What a visitor makes of the end of a construction of its own; it does not survive a panic. -/
def fateOf : Except Panic (Except Engine.Fault Nat) → Fate (Except Engine.Fault Nat)
  | .ok result => .done result
  | .error _ => .dropped

/-- Hands over what a construction came to. -/
def handOver (w : Stage) (engine : Nat) (kind : Kind) (owner : Owner)
    (outcome : Except Panic (Except Engine.Fault Nat)) : Stage :=
  match owner with
  | .visitor index => setVisitor w index ({ · with fate := fateOf outcome })
  | .cache generation =>
      let waiting := w.state.awaiting engine generation
      let w := onDemand w engine (·.conclude generation (buildResult kind outcome))
      waiting.foldl (fun w index => w.soon (.visitor index)) w

/-- A construction has ended. -/
def finishJob (w : Stage) (index : Nat) (job : Job)
    (outcome : Except Panic (Except Engine.Fault Nat)) : Stage :=
  handOver (setJob w index .over) job.engine job.plan.kind job.owner outcome

/-- A constructor has succeeded. -/
def addSession (w : Stage) (index : Nat) (job : Job) : Stage :=
  let isObserved := ((w.state.backends[job.engine]?).map (·.isObserved)).getD false
  let w' := w.modify fun s => { s with sessions := s.sessions ++ [⟨job.plan, 0, 0, false, isObserved⟩] }
  finishJob w' index job (.ok (.ok w.state.sessions.length))

/-- A constructor goes on with what its cue says. -/
def proceed (w : Stage) (index : Nat) (job : Job) (cue : Cue (Except Engine.Fault Unit)) : Stage :=
  match cue.next? with
  | some (delay, rest) => (setJob w index (.constructing rest)).later delay (.job index)
  | none =>
      match cue.reply with
      | .answer (.ok ()) => addSession w index job
      | .answer (.error fault) => finishJob w index job (.ok (.error fault))
      | .panic p => finishJob w index job (.error p)
      | .hang => setJob w index (.constructing cue)

/-- Calls the constructor. -/
def construct (w : Stage) (index : Nat) (job : Job) : Stage :=
  match w.state.backends[job.engine]? with
  | none => w
  | some b =>
      proceed (setBackend w job.engine ({ · with constructs := b.constructs + 1 })) index job
        (b.construct.cue b.constructs)

/-- Opens a session over a handle. -/
def openSession (w : Stage) (index : Nat) (job : Job) : Except Failure Nat → Stage
  | .error f => finishJob w index job (.ok (.error (.service f)))
  | .ok 0 => finishJob w index job (.ok (.error refusal))
  | .ok _ => construct w index job

/-- One turn of a construction. -/
def runJob (w : Stage) (index : Nat) : Stage :=
  match w.state.jobs[index]? with
  | none => w
  | some job =>
      match job.effort with
      | .over => w
      | .constructing cue => proceed w index job cue
      | .asking request =>
          match w.state.link? job.engine with
          | none => construct w index job
          | some link =>
              let (service, orders, progress) := link.service.serve request
              let w := setService w job.engine service
              match progress with
              | .wait request => place job.engine (setJob w index (.asking request)) orders
              | .sleep delay request =>
                  (place job.engine (setJob w index (.asking request)) orders).later delay
                    (.job index)
              | .done result => openSession (place job.engine w orders) index job result

/-- The bytes with which the peer ids of a scene end, so that it goes the same way each time. -/
def sampleTail : Identity.Tail :=
  ⟨List.replicate 12 48, rfl, fun _ hb => List.eq_of_mem_replicate hb ▸ by decide⟩

/-- Prepares a session and begins its construction; its number, if there is one. -/
def begin (w : Stage) (engine : Nat) (owner : Owner) (settings : Settings) :
    Option Nat × Stage :=
  match w.state.registry.engine? engine with
  | none => (none, w)
  | some e =>
      let (plan, site) := w.state.site.prepare engine settings sampleTail
      let w := onSite w fun _ => site
      match plan with
      | none => (none, w)
      | some (.error fault) => (none, handOver w engine e.kind owner (.ok (.error fault)))
      | some (.ok plan) =>
          let index := w.state.jobs.length
          let request := Request.ofPolicy (w.state.link? engine |>.map (·.retry))
          let w := w.modify fun s => { s with jobs := s.jobs ++ [⟨engine, plan, owner, .asking request⟩] }
          (some index, runJob w index)

/-- Calls off a construction. -/
def callOff (w : Stage) (index : Nat) : Stage :=
  match w.state.jobs[index]? with
  | none => w
  | some job =>
      let w := setJob w index .over
      match job.effort, w.state.link? job.engine with
      | .asking request, some link =>
          let (service, orders) := link.service.dismiss request
          place job.engine (setService w job.engine service) orders
      | _, _ => w

/-! ## Visitors -/

/-- A visitor looks whether the construction it waits for has ended. -/
def collect (w : Stage) (index engine getter : Nat) : Stage :=
  let w := onDemand w engine (·.deliver getter)
  match (w.state.registry.demand? engine).bind (·.result? getter) with
  | some result => setVisitor w index ({ · with fate := .done result })
  | none => setVisitor w index ({ · with standing := .waiting engine getter })

/-- A visitor asks the cache of an engine, and begins the construction if there is none. -/
def visit (w : Stage) (index engine : Nat) : Stage :=
  match w.state.registry.engine? engine, w.state.registry.demand? engine with
  | some e, some before =>
      let settings := e.settings.value
      let w := onDemand w engine (·.get settings)
      let generation := (before.cache.get settings).1
      let w := match generation with
        | .started generation => (begin w engine (.cache generation) settings).2
        | _ => w
      collect w index engine before.getters.length
  | _, _ => w

/-- The first turn of a visitor. -/
def arrive (w : Stage) (index : Nat) : Aim → Stage
  | .session isMetered =>
      let (engine, site) := w.state.site.select isMetered
      let w := onSite w fun _ => site
      match engine with
      | some engine => visit w index engine
      | none => setVisitor w index ({ · with fate := .done (.error .noEngine) })
  | .get engine => visit w index engine
  | .create engine settings =>
      match w.state.registry.engine? engine with
      | none => w
      | some e =>
          match begin w engine (.visitor index) (settings.getD e.settings.value) with
          | (some job, w) => setVisitor w index ({ · with standing := .creating job })
          | (none, w) => w

/-- A visitor goes away. -/
def leave (w : Stage) (index : Nat) (standing : Standing) : Stage :=
  let w := setVisitor w index ({ · with fate := .dropped })
  match standing with
  | .arrived => w
  | .waiting engine getter => onDemand w engine (·.drop getter)
  | .creating job => callOff w job

/-- One turn of a visitor. -/
def visitorTurn (w : Stage) (index : Nat) (v : Visitor) : Stage :=
  match v.fate, v.standing with
  | .cancelled, standing => leave w index standing
  | .running, .arrived => arrive w index v.aim
  | .running, .waiting engine getter => collect w index engine getter
  | _, _ => w

/-- One turn. -/
def turn (task : EngineTask) (w : Stage) : Stage :=
  match task with
  | .visitor index =>
      match w.state.visitors[index]? with
      | some v => visitorTurn w index v
      | none => w
  | .job index => runJob w index
  | .chore engine c =>
      match w.state.link? engine with
      | some link =>
          let (service, orders) := link.service.doChore c
          place engine (setService w engine service) orders
      | none => w
  | .tearDown engine => onDemand w engine (·.tearDown)

/-! ## Steps -/

/-- What can be done in a scene. -/
inductive Step where
  /-- New visitors with these names and this aim. -/
  | visit (names : List String) (aim : Aim)
  | cancel (names : List String)
  | select (isMetered : Bool)
  | advance (amount : Nat)
  | shutDownEngine (engine : Nat)
  | shutDown
  | cancelScope
  | testSupport (engine : Nat)
  /-- Keeps a reader of whether an engine can be used. -/
  | watchSupport (engine : Nat)
  | setSettings (engine : Nat) (f : Settings → Settings)
  | setProxy (proxy : Web.Proxy)
  | setChain (chain : Chain)
  | growTree (f : Files.Tree → Files.Tree)
  /-- The session that was seen as this one meets peers. -/
  | meet (session : Nat) (peers : List Peer)
  | closeSession (session : Nat)
  | fetch (url : String)
  | disconnect (engine : Nat)
  | lose (engine : Nat)
  | look

/-- What a step answers. -/
inductive Answer where
  | nothing
  | flags (bs : List Bool)
  | engine (e : Option Native)
  | support (e : Option Native)
  | flag (b : Bool)
  | number (n : Nat)
  | verdicts (vs : List Verdict)
  | body (result : Except Web.Fault (List UInt8))

/-- The last visitor of a name who has not ended. -/
def visitorNamed (s : EngineScene) (name : String) : Option Nat :=
  ((List.range s.visitors.length).filter fun i =>
    match s.visitors[i]? with
    | some v => v.name == name && v.fate.isRunning
    | none => false).getLast?

/-- Tells visitors to stop, and whether they were there. -/
def cancel (w : Stage) : List String → List Bool × Stage
  | [] => ([], w)
  | name :: names =>
      let found := w.state.visitorNamed name
      let w := match found with
        | some index => (setVisitor w index ({ · with fate := .cancelled })).soon (.visitor index)
        | none => w
      let (rest, w) := cancel w names
      (found.isSome :: rest, w)

/-- Lets in a visitor. -/
def welcome (aim : Aim) (w : Stage) (name : String) : Stage :=
  (w.modify fun s => { s with visitors := s.visitors ++ [⟨name, aim, .arrived, .running⟩] }).soon
    (.visitor w.state.visitors.length)

/-- Lets the caches of these engines notice that their end was announced. -/
def announce (w : Stage) (engines : List Nat) : Stage :=
  engines.foldl (fun w engine => w.soon (.tearDown engine)) w

/-- The numbers of the observed sessions, in order. -/
def observed (s : EngineScene) : List Nat :=
  (List.range s.sessions.length).filter fun i =>
    ((s.sessions[i]?).map (·.isObserved)).getD false

/-- Changes a session. -/
def setSession (s : EngineScene) (id : Nat) (f : Session → Session) : EngineScene :=
  { s with sessions := s.sessions.modify id f }

/-- A session meets a peer. -/
def meetOne (s : EngineScene) (id : Nat) (peer : Peer) : Verdict × EngineScene :=
  let (v, chain) := s.chain.evaluate peer
  let s := { s with chain }
  (v, s.setSession id fun x =>
    if v.isBlock then { x with rejected := x.rejected + 1 } else { x with admitted := x.admitted + 1 })

/-- A session meets peers. -/
def meet (s : EngineScene) (id : Nat) : List Peer → List Verdict × EngineScene
  | [] => ([], s)
  | peer :: peers =>
      let (v, s) := s.meetOne id peer
      let (vs, s) := s.meet id peers
      (v :: vs, s)

/-- Fetches a URL for a session; time passes until the answer has come. -/
def fetch (w : Stage) (url : String) : Answer × Stage :=
  let cue := w.state.fetches.cue w.state.urls.length
  let w := w.modify fun s => { s with urls := s.urls ++ [url] }
  match cue.reply with
  | .answer body => (.body body, w.advance turn (cue.delays.foldl (· + ·) 0))
  | .panic _ | .hang => (.nothing, w)

/-- A signal to the service of an engine. -/
def signal (w : Stage) (engine : Nat)
    (f : ScriptedService Nat → ScriptedService Nat × List (Order Nat)) : Stage :=
  match w.state.link? engine with
  | some link =>
      let (service, orders) := f link.service
      place engine (setService w engine service) orders
  | none => w

/-- Keeps a reader of whether an engine can be used, and tells what it reads first. -/
def watchSupport (w : Stage) (engine : Nat) : Answer × Stage :=
  match w.state.site.watch engine with
  | (none, _) => (.nothing, w)
  | (some reader, site) =>
      let w := w.modify fun s => { s with site, readers := (engine, reader) :: s.readers }
      (.flag (((site.engine? engine).map (·.support.value)).getD false), w)

/-- The reader that was kept for an engine has something new to read. -/
def hasSupportChanged (s : EngineScene) (engine : Nat) : Bool :=
  match s.readers.lookup engine, s.registry.engine? engine with
  | some reader, some e => reader.isBehind e.support
  | _, _ => false

/-- What a step does at once. -/
def act (w : Stage) : Step → Answer × Stage
  | .visit names aim => (.nothing, names.foldl (welcome aim) w)
  | .cancel names =>
      let (found, w) := cancel w names
      (.flags found, w)
  | .select isMetered =>
      let (engine, site) := w.state.site.select isMetered
      (.engine (engine.bind site.engine?), onSite w fun _ => site)
  | .advance amount => (.nothing, w.advance turn amount)
  | .shutDownEngine engine => (.nothing, announce (onDemand w engine (·.shutDown)) [engine])
  | .shutDown =>
      (.nothing, announce (onSite w (·.onAll (·.shutDown)))
        w.state.registry.registered)
  | .cancelScope =>
      (.nothing, announce (onSite w (·.onAll (·.cancel)))
        w.state.registry.registered)
  | .testSupport engine =>
      let w := onSite w fun s => (s.test engine).2
      (.support (w.state.registry.engine? engine), w)
  | .watchSupport engine => watchSupport w engine
  | .setSettings engine f => (.nothing, onSite w (·.configure engine f))
  | .setProxy proxy => (.nothing, onSite w (·.setProxy proxy))
  | .setChain chain =>
      (.number w.state.chain.current.rules.length,
        w.modify fun s => { s with chain := s.chain.replace chain })
  | .growTree f => (.nothing, onSite w (·.onFiles f))
  | .meet session peers =>
      match w.state.seen[session]? with
      | some id =>
          let (vs, s) := w.state.meet id peers
          (.verdicts vs, w.modify fun _ => s)
      | none => (.nothing, w)
  | .closeSession session =>
      match w.state.seen[session]? with
      | some id => (.nothing, w.modify (·.setSession id ({ · with isClosed := true })))
      | none => (.nothing, w)
  | .fetch url => fetch w url
  | .disconnect engine => (.nothing, signal w engine (·.disconnect))
  | .lose engine => (.nothing, signal w engine (·.lose))
  | .look => (.nothing, w)

/-! ## What is seen -/

/-- Notes that a session has been seen. -/
def see (s : EngineScene) (id : Nat) : EngineScene :=
  if s.seen.contains id then s else { s with seen := s.seen ++ [id] }

/-- A session has been closed. -/
def isClosed (s : EngineScene) (id : Nat) : Bool :=
  s.registry.hasClosed id || ((s.sessions[id]?).map (·.isClosed)).getD false

/-- What a visitor was given, if it has returned, and had not before. -/
def newResult? (before : Option Visitor) (after : Visitor) :
    Option (String × Except Engine.Fault Nat) :=
  match after.fate, before.map Visitor.fate with
  | .done r, some .running => some (after.name, r)
  | .done r, none => some (after.name, r)
  | _, _ => none

/-- The visitors that have returned since an earlier look, by name. -/
def returned (before after : EngineScene) : List (String × Except Engine.Fault Nat) :=
  ((List.range after.visitors.length).filterMap fun i =>
    (after.visitors[i]?).bind (newResult? before.visitors[i]?)).mergeSort fun a b => a.1 ≤ b.1

/-- The names of the visitors that go on, in order. -/
def present (s : EngineScene) : List String :=
  ((s.visitors.filter (·.fate.isRunning)).map (·.name)).mergeSort

/-- How often the library of an engine was loaded, as far as that is counted, how often its constructor
was called, and how often its service was started. -/
def counts (s : EngineScene) : List (Nat × Nat × Nat) :=
  (List.range s.backends.length).filterMap fun i => do
    let b ← s.backends[i]?
    let e ← s.registry.engine? i
    pure (if b.countsLoads then e.loader.loads else 0, b.constructs,
      (b.link.map (·.service.run.begun)).getD 0)

/-- The session of an engine, if it has been built; it is seen then. -/
def peek (w : Stage) (engine : Nat) : Option Nat × Stage :=
  match w.state.registry.peek engine with
  | some id => (some id, w.modify (·.see id))
  | none => (none, w)

/-- A step, after which the tasks run: its answer, and the visitors that have returned. -/
def perform (w : Stage) (step : Step) :
    Answer × List (String × Except Engine.Fault Nat) × Stage :=
  let before := w.state
  let (answer, w) := act w step
  let w := w.settle turn World.patience
  let done := returned before w.state
  (answer, done, w.modify fun s => done.foldl (fun s d => match d.2 with
    | .ok id => s.see id
    | .error _ => s) s)

end EngineScene

end Swarmkeeper.Simulation
