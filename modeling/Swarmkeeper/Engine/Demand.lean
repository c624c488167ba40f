import Swarmkeeper.Engine.Cache

/-!
A cache together with those who ask it for its session. Whatever is done at once is an event of its own:
who asks first finds out whether the end of the cache was announced and only then looks into the slot,
and who takes a session out of the slot only then closes it. Events come in any order; one that cannot
happen any more changes nothing.
-/

namespace Swarmkeeper.Engine

/-- One who has asked for the session. -/
inductive Getter where
  /-- It has found that the end was not announced, and is about to look into the slot. -/
  | admitted
  | waiting (generation : Nat)
  | returned (result : Except Fault Nat)
  | dropped

/-- A cache, and those who asked it, by number. -/
structure Demand where
  cache : Cache
  getters : List Getter

namespace Demand

/-- What can happen to a cache. -/
inductive Event where
  /-- Someone new asks whether the end has been announced. -/
  | arrive
  /-- One who was admitted looks into the slot while the engine has these settings. -/
  | enter (getter : Nat) (settings : Settings)
  /-- One who waits goes away. -/
  | drop (getter : Nat)
  /-- One who waits looks whether the construction is over. -/
  | deliver (getter : Nat)
  | finish (generation : Nat) (result : Except Fault Nat)
  /-- The end is announced, by itself or as the first act of a shutdown. -/
  | cancel
  /-- The slot is emptied, after the announcement or as the second act of a shutdown. -/
  | vacate
  /-- Somebody closes the session that they have on their hands. -/
  | dispose (holder : Holder) (session : Nat)

/-- A cache that nobody has asked. -/
def ofKind (kind : Kind) : Demand := ⟨.ofKind kind, []⟩

/-- Changes the cache. -/
def onCache (d : Demand) (f : Cache → Cache) : Demand := { d with cache := f d.cache }

/-- Someone new asks whether the end has been announced. -/
def arrive (d : Demand) : Demand :=
  { d with
    getters := d.getters ++
      [if d.cache.isCancelled then .returned (.error (.closed d.cache.kind)) else .admitted] }

/-- One who was admitted looks into the slot. -/
def enter (d : Demand) (getter : Nat) (settings : Settings) : Demand :=
  match d.getters[getter]? with
  | some .admitted =>
      let (supply, cache) := d.cache.supply settings
      let next : Getter := match supply with
        | .present session => .returned (.ok session)
        | .closed => .returned (.error (.closed cache.kind))
        | .joined generation | .started generation => .waiting generation
      ⟨cache, d.getters.set getter next⟩
  | _ => d

/-- One who waits goes away. -/
def drop (d : Demand) (getter : Nat) : Demand :=
  match d.getters[getter]? with
  | some (.waiting _) => { d with getters := d.getters.set getter .dropped }
  | _ => d

/-- One who waits returns if the construction is over. -/
def deliver (d : Demand) (getter : Nat) : Demand :=
  match d.getters[getter]? with
  | some (.waiting generation) =>
      match d.cache.outcome? generation with
      | some outcome =>
          { d with getters := d.getters.set getter (.returned (outcome.result d.cache.kind)) }
      | none => d
  | _ => d

/-- What an event makes of a cache and its getters. -/
def step (d : Demand) : Event → Demand
  | .arrive => d.arrive
  | .enter getter settings => d.enter getter settings
  | .drop getter => d.drop getter
  | .deliver getter => d.deliver getter
  | .finish generation result => d.onCache (·.finish generation result)
  | .cancel => d.onCache (·.cancel)
  | .vacate => d.onCache (·.vacate)
  | .dispose holder session => d.onCache (·.dispose holder session)

/-- The cache of an engine after these events. -/
def after (kind : Kind) (events : List Event) : Demand := events.foldl step (ofKind kind)

/-! ## What is done without a pause -/

/-- Someone new asks for the session. -/
def get (d : Demand) (settings : Settings) : Demand :=
  [.arrive, .enter d.getters.length settings].foldl step d

/-- A construction ends, and its session is closed if it comes too late. -/
def conclude (d : Demand) (generation : Nat) : Except Fault Nat → Demand
  | .ok session =>
      [.finish generation (.ok session), .dispose (.construction generation) session].foldl step d
  | .error fault => d.step (.finish generation (.error fault))

/-- Closes the cache and the session it holds. -/
def tearDown (d : Demand) : Demand :=
  match d.cache.slot with
  | .ready session => [.vacate, .dispose .closer session].foldl step d
  | _ => d.step .vacate

/-- Announces the end of the cache and closes it. -/
def shutDown (d : Demand) : Demand := (d.step .cancel).tearDown

/-! ## What is seen -/

/-- What one who asked was given, if it has returned. -/
def result? (d : Demand) (getter : Nat) : Option (Except Fault Nat) :=
  match d.getters[getter]? with
  | some (.returned result) => some result
  | _ => none

/-- Those who wait for a construction, in the order in which they came. -/
def waiting (d : Demand) (generation : Nat) : List Nat :=
  (List.range d.getters.length).filter fun i =>
    match d.getters[i]? with
    | some (.waiting g) => g == generation
    | _ => false

end Demand

end Swarmkeeper.Engine
