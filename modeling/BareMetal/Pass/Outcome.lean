import BareMetal.Object.Key
import BareMetal.Object.Selector
import BareMetal.Store.Error

/-!
# Outcomes of passes

A pass over an object either has nothing left to do, or waits for somebody else, or fails.
Waiting is no failure: the object is looked at again after a fixed time.
-/

namespace BareMetal

/-- What a pass waits for. -/
inductive WaitReason where
  /-- The owner machine is not set or not there. -/
  | ownerMachineMissing
  /-- The cluster is not there or its infrastructure is not ready. -/
  | clusterNotReady
  /-- The cluster is paused. -/
  | clusterPaused
  /-- The owner machine has no bootstrap data. -/
  | bootstrapDataMissing
  /-- No server of the class could be claimed. -/
  | noEligibleServers
  /-- The binding cannot be seen yet. -/
  | bindingNotVisible
  /-- The binding was not found ready yet. -/
  | bindingNotReady
  /-- The provider ID could not be stamped on the workload node. -/
  | providerIdNotSet
  /-- The binding was deleted and has to disappear. -/
  | bindingReleasing
  deriving DecidableEq

namespace WaitReason

/-- The word for a reason in metrics. -/
def label : WaitReason → String
  | ownerMachineMissing => "owner_machine_missing"
  | clusterNotReady => "cluster_not_ready"
  | clusterPaused => "cluster_paused"
  | bootstrapDataMissing => "bootstrap_data_missing"
  | noEligibleServers => "no_eligible_servers"
  | bindingNotVisible => "binding_not_visible"
  | bindingNotReady => "binding_not_ready"
  | providerIdNotSet => "provider_id_not_set"
  | bindingReleasing => "binding_releasing"

/-- All reasons. -/
def all : List WaitReason :=
  [ownerMachineMissing, clusterNotReady, clusterPaused, bootstrapDataMissing, noEligibleServers,
    bindingNotVisible, bindingNotReady, providerIdNotSet, bindingReleasing]

end WaitReason

/-- How a pass ends that does not fail. -/
inductive Outcome where
  /-- Nothing is left to do until the object changes. -/
  | done
  /-- The object is to be looked at again. -/
  | requeue (reason : WaitReason)
  deriving DecidableEq

/-- The word for an outcome in metrics. -/
def Outcome.label : Outcome → String
  | done => "done"
  | requeue reason => reason.label

/-- Why a pass, or the allocator as a whole, failed. -/
inductive PassError where
  /-- The store failed. -/
  | store (error : StoreError)
  /-- A class has a malformed selector. -/
  | malformedSelector (fault : SelectorFault)
  /-- Something is set up wrongly. -/
  | invalidConfig (detail : String)
  /-- A machine names a server that is not accepted. -/
  | serverNotAccepted (server : String)
  /-- A machine names a server that another machine holds. -/
  | serverAlreadyClaimed (server : String) (holder : ObjectKey)
  /-- A watcher or the metrics server ended. -/
  | watch (detail : String)
  /-- The metrics cannot be served. -/
  | metrics (detail : String)
  deriving DecidableEq

/-- The word for the kind of a failure. -/
def PassError.word : PassError → String
  | store error => "Store." ++ error.word
  | malformedSelector _ => "InvalidSelector"
  | invalidConfig _ => "InvalidConfig"
  | serverNotAccepted _ => "ServerNotAccepted"
  | serverAlreadyClaimed _ _ => "ServerAlreadyClaimed"
  | watch _ => "Watch"
  | metrics _ => "Metrics"

/-- The message for a failure. -/
def PassError.message : PassError → String
  | store error => "Store error: " ++ error.message
  | malformedSelector fault => "Invalid label selector: " ++ fault.message
  | invalidConfig detail => "Invalid configuration: " ++ detail
  | serverNotAccepted server => "Server not accepted: " ++ server
  | serverAlreadyClaimed server holder =>
      "Server already claimed: server " ++ server ++ " is bound to " ++ holder.display
  | watch detail => "Resource watch failed: " ++ detail
  | metrics detail => "Metrics error: " ++ detail

end BareMetal
