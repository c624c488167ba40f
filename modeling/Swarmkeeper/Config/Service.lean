import Swarmkeeper.Service.Backoff

/-!
Where the download service is, and how it is started and watched.
-/

namespace Swarmkeeper.Config

open Swarmkeeper.Json

/-- Settings of the download service. All times are in milliseconds. -/
structure Service where
  /-- Host and port on which the service listens. -/
  address : String
  /-- What to run to start the service; nothing if it is started elsewhere. -/
  program : Option String
  args : List String
  /-- The time from the start of the program to the first probe. -/
  warmup : UInt64
  probeAttempts : UInt32
  probeInterval : UInt64
  connectTimeout : UInt64
  /-- The time between two probes of a running service. -/
  healthInterval : UInt64
  retry : Service.RetryPolicy
deriving DecidableEq

namespace Service

/-- The settings unless others are given. -/
def standard : Service where
  address := "127.0.0.1:48620"
  program := none
  args := []
  warmup := 1500
  probeAttempts := 10
  probeInterval := 200
  connectTimeout := 2000
  healthInterval := 1000
  retry := .standard

/-- The fields of the settings. -/
def fields : List (RecordField Service) :=
  [.of "address" .text (·.address) fun x s => { s with address := x },
   .of "program" (.optional .path) (·.program) fun x s => { s with program := x },
   .of "args" (.list .text) (·.args) fun x s => { s with args := x },
   .of "warmup" .word64 (·.warmup) fun x s => { s with warmup := x },
   .of "probe_attempts" .word32 (·.probeAttempts) fun x s => { s with probeAttempts := x },
   .of "probe_interval" .word64 (·.probeInterval) fun x s => { s with probeInterval := x },
   .of "connect_timeout" .word64 (·.connectTimeout) fun x s => { s with connectTimeout := x },
   .of "health_interval" .word64 (·.healthInterval) fun x s => { s with healthInterval := x },
   .of "retry" Swarmkeeper.Service.RetryPolicy.codec (·.retry) fun x s => { s with retry := x }]

/-- The settings as a record. -/
def codec : Codec Service := Record.codec "ServiceConfig" fields standard

end Service

end Swarmkeeper.Config
