import Swarmkeeper.Engine.Kind
import Swarmkeeper.Engine.Library
import Swarmkeeper.Setting.Basic

/-!
An engine that can be used only if its library can be loaded. Whether it can is published; that is
settled by the first one who needs to know.
-/

namespace Swarmkeeper.Engine

/-- An engine. -/
structure Native where
  kind : Kind
  location : Location
  loader : Loader
  settings : Setting Settings
  /-- Whether the engine can be used, as far as is known. -/
  support : Setting Bool

namespace Native

/-- An engine of which nothing is known yet. -/
def ofLibrary (kind : Kind) (location : Location) (library : Library) (settings : Settings) :
    Native :=
  ⟨kind, location, .ofLibrary library, .ofValue settings, .ofValue false⟩

/-- Finds out whether the library can be loaded, and publishes what is new about that. -/
def refreshSupport (e : Native) (tree : Files.Tree) : Bool × Native :=
  let (isLoaded, loader) := e.loader.isLoaded tree
  (isLoaded, { e with
    loader
    support := (e.support.setIfChanged isLoaded).2 })

/-- A reader of whether the engine can be used. -/
def isSupported (e : Native) (tree : Files.Tree) : Receiver × Native :=
  let (_, e) := e.refreshSupport tree
  (.ofSetting e.support, e)

/-- The engine can be used. -/
def testConnection (e : Native) (tree : Files.Tree) : Bool × Native :=
  let (_, e) := e.isSupported tree
  (e.support.value, e)

/-- Loads the library, which has to succeed before anything else is done for a session. -/
def requireLibrary (e : Native) (tree : Files.Tree) : Except LibraryFault Unit × Native :=
  let (outcome, loader) := e.loader.ensure tree
  let (_, e) := { e with loader }.refreshSupport tree
  (outcome, e)

end Native

end Swarmkeeper.Engine
