import BareMetal.Api.Store
import BareMetal.Api.Workload
import BareMetal.Config
import BareMetal.Pass.Run
import BareMetal.Pass.Startup
import BareMetal.Watch.Task

/-!
# The service

The allocator as a service of a management cluster: what its passes ask goes to the API servers,
and its tasks run beside a server that publishes metrics.  The service ends with the first task
that ends.
-/

namespace BareMetal

/-- What a service remembers. -/
structure Service where
  /-- The namespace whose machines are listed; all namespaces when there is none. -/
  space : Option String := none
  /-- The clock. -/
  clock : Clock
  /-- What the service saw and counted. -/
  memory : Memory := {}
  /-- The workload clusters that are connected. -/
  connections : Api.Connections := Dict.empty

namespace Service

/-- Answers a query of a pass with the help of the API servers. -/
def answer : (query : PassQuery) → StateT Service Api.Correspondence query.Answer
  | .store call => fun service => do
      return (← Api.sendTo .management (Api.perform service.space call), service)
  | .stampNode cluster uuid providerId => fun service => do
      let now := service.clock.shows service.clock.readings
      let (reply, connections) ←
        Api.setProviderId now service.connections cluster uuid providerId
      return (reply, { service with connections })
  | .bindingsFor machine => fun service =>
      return (service.memory.index.bindingsFor machine, service)
  | .machinesFor server => fun service =>
      return (service.memory.index.machinesFor server, service)
  | .learn event => fun service =>
      return ((), { service with memory.index := service.memory.index.learn event })
  | .count counter => fun service =>
      return ((), { service with memory.tally := service.memory.tally.add counter 1 })
  | .now => fun service =>
      return (service.clock.shows service.clock.readings,
        { service with clock.readings := service.clock.readings + 1 })

/-- Makes a pass with the help of the API servers. -/
def make {α : Type} (service : Service) (pass : Pass α) : Api.Correspondence (α × Service) :=
  Program.interpret answer pass service

/-- Starts a service.  It starts also if it cannot be made ready, since the watchers fill the
index anyway. -/
def start (service : Service) : Api.Correspondence Service := do
  let (_, service) ← service.make startup.run
  return service

end Service

/-! ## The end of a service -/

/-- A part of a service that runs until it fails or is told to end. -/
inductive ServicePart where
  /-- A task of the allocator. -/
  | task (task : Task)
  /-- The server that publishes metrics. -/
  | metricsServer
  deriving DecidableEq

/-- What a part is called in messages. -/
def ServicePart.title : ServicePart → String
  | task (.passes collection) => collection.kind.name ++ " controller"
  | task .bindingIndex => "ServerBinding index watcher"
  | task .machineIndex => "MetalMachine index watcher"
  | metricsServer => "metrics server"

/-- How a service ends when one of its parts ends. -/
def ServicePart.endService (part : ServicePart) : Except PassError Unit → Except PassError Unit
  | .ok () => .ok ()
  | .error error => .error (.watch (part.title ++ " error: " ++ error.message))

/-- Why metrics cannot be served at an address that something else serves already. -/
def addressInUse (address : String) : PassError :=
  .metrics ("failed to bind " ++ address ++ ": Address already in use (os error 98)")

/-- Why a service whose kubeconfig leads nowhere cannot be made. -/
def noManagement : PassError := .store (.api "the kubeconfig leads to no server")

end BareMetal
