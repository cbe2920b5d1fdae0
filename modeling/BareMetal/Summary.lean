import BareMetal.Tally
import BareMetal.Text.Quoted
import BareMetal.Time.Span

/-!
# Summaries

One-line summaries of the parts of an allocator, as they appear in logs: the name of the part and
the settings worth telling, two points standing for all else.
-/

namespace BareMetal.Summary

/-- A summary from the name of a part and the fields worth telling, in which others are left
out. -/
def partly (name : String) (fields : List (String × String)) : String :=
  name ++ " \x7b " ++ String.join (fields.map fun field => field.1 ++ ": " ++ field.2 ++ ", ") ++
    ".. \x7d"

/-- A text that may be missing. -/
def optional : Option String → String
  | none => "None"
  | some text => "Some(" ++ Text.quote text ++ ")"

/-- The summary of what makes the passes. -/
def reconciler (requeueAfter : Span) : String :=
  partly "Reconciler" [("requeue_after", requeueAfter.display)]

/-- The summary of the counters. -/
def metrics (tally : Tally) : String :=
  partly "Metrics" [
    ("allocations", toString tally.allocations.toNat),
    ("claim_conflicts", toString tally.claimConflicts.toNat),
    ("no_eligible_servers", toString tally.noEligibleServers.toNat)]

/-- The summary of the store in memory. -/
def memoryStore : String := partly "MockMetalStore" []

/-- The summary of the workload nodes in memory. -/
def memoryNodes : String := partly "MockWorkloadClient" []

/-- The summary of the store behind the API server. -/
def apiStore (space : Option String) : String := partly "KubeStore" [("namespace", optional space)]

/-- The summary of the workload clusters behind their API servers. -/
def apiNodes : String := partly "KubeWorkloadClient" []

/-- The summary of what watches the collections. -/
def watcher (debounce : Span) (concurrency : Nat) : String :=
  partly "Watcher" [("settings",
    "WatchSettings \x7b debounce: " ++ debounce.display ++ ", concurrency: " ++
      toString concurrency ++ " \x7d")]

end BareMetal.Summary
