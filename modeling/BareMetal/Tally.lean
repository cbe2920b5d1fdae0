import BareMetal.Net.Url
import BareMetal.Text.WholeFloat

/-!
# Tallies

Counts of what an allocator did, and the page on which they are published: one family of samples
after the other in the Prometheus text format.
-/

namespace BareMetal

/-- What is counted without labels. -/
inductive Counter where
  /-- Bindings created for machines that asked for a class. -/
  | allocations
  /-- Bindings that another allocator had created first. -/
  | claimConflicts
  /-- Allocations for which no server was left. -/
  | noEligibleServers
  deriving DecidableEq

/-- The counter with a word. -/
def Counter.ofWord? : (word : String) → Option Counter
  | "allocations" => some allocations
  | "claim_conflicts" => some claimConflicts
  | "no_eligible_servers" => some noEligibleServers
  | _ => none

/-- How often passes over one kind of objects had one result. -/
structure PassCount where
  /-- The kind of objects. -/
  kind : String
  /-- The result of the passes. -/
  result : String
  /-- How many there were. -/
  count : UInt64
  deriving DecidableEq

/-- Counts of what an allocator did. -/
structure Tally where
  /-- Passes by kind and result, in the order in which they first came up. -/
  passes : List PassCount := []
  /-- Bindings created for machines that asked for a class. -/
  allocations : UInt64 := 0
  /-- Bindings that another allocator had created first. -/
  claimConflicts : UInt64 := 0
  /-- Allocations for which no server was left. -/
  noEligibleServers : UInt64 := 0
  deriving DecidableEq

namespace Tally

/-- The count of a counter. -/
def get (tally : Tally) : Counter → UInt64
  | .allocations => tally.allocations
  | .claimConflicts => tally.claimConflicts
  | .noEligibleServers => tally.noEligibleServers

/-- Adds to a counter. -/
def add (tally : Tally) (counter : Counter) (amount : UInt64) : Tally :=
  match counter with
  | .allocations => { tally with allocations := tally.allocations + amount }
  | .claimConflicts => { tally with claimConflicts := tally.claimConflicts + amount }
  | .noEligibleServers => { tally with noEligibleServers := tally.noEligibleServers + amount }

/-- Counts a pass.  Labels are told apart only by their joined text, and a sample keeps the labels
under which it first came up. -/
def addPass (kind result : String) : List PassCount → List PassCount
  | [] => [⟨kind, result, 1⟩]
  | sample :: rest =>
      if sample.kind ++ sample.result == kind ++ result then
        { sample with count := sample.count + 1 } :: rest
      else sample :: addPass kind result rest

/-- Counts a pass over an object of a kind. -/
def record (tally : Tally) (kind result : String) : Tally :=
  { tally with passes := addPass kind result tally.passes }

/-- Counts a number of passes alike. -/
def recordTimes (tally : Tally) (kind result : String) : (times : Nat) → Tally
  | 0 => tally
  | times + 1 => (tally.record kind result).recordTimes kind result times

/-! ## The published page -/

/-- One character of a label's value. -/
def escapeChar (c : Char) : String :=
  if c = '\\' then "\\\\" else if c = '\n' then "\\n" else if c = '"' then "\\\"" else c.toString

/-- A label with its value. -/
def writeLabel (name value : String) : String :=
  name ++ "=\"" ++ String.join (value.toList.map escapeChar) ++ "\""

/-- The heading of a family of counters. -/
def heading (name help : String) : String :=
  "# HELP " ++ name ++ " " ++ help ++ "\n# TYPE " ++ name ++ " counter\n"

/-- A family with a single sample. -/
def family (name help : String) (count : UInt64) : String :=
  heading name help ++ name ++ " " ++ Text.wholeFloat count.toNat ++ "\n"

/-- Whether a sample may stand before another: by kind, then by result. -/
def inLabelOrder (left right : PassCount) : Bool :=
  if left.kind = right.kind then decide (left.result ≤ right.result)
  else decide (left.kind ≤ right.kind)

/-- The family of passes; it is left out while there is no sample. -/
def passFamily (passes : List PassCount) : String :=
  let name := "metal_allocator_reconciliations_total"
  let sample (pass : PassCount) : String :=
    name ++ "\x7b" ++ writeLabel "kind" pass.kind ++ "," ++ writeLabel "result" pass.result ++
      "\x7d " ++ Text.wholeFloat pass.count.toNat ++ "\n"
  if passes.isEmpty then ""
  else
    heading name "Reconciliations by kind and result" ++
      String.join ((passes.mergeSort inLabelOrder).map sample)

/-- The page with all counts. -/
def page (tally : Tally) : String :=
  family "metal_allocator_allocations_total" "Server bindings created by the allocator"
      tally.allocations ++
    family "metal_allocator_claim_conflicts_total"
      "Binding creates rejected because the server was already claimed" tally.claimConflicts ++
    family "metal_allocator_no_eligible_servers_total"
      "Allocation attempts that found no eligible server" tally.noEligibleServers ++
    passFamily tally.passes

/-- The status and the body with which a request for a path is answered.  There are a page of
counts and a page that says that the allocator lives; both can only be read. -/
def respond (tally : Tally) (method path : String) : Nat × String :=
  let page? :=
    match path with
    | "/metrics" => some tally.page
    | "/healthz" => some "ok"
    | _ => none
  match page?, method with
  | none, _ => (404, "")
  | some body, "GET" => (200, body)
  | some _, "HEAD" => (200, "")
  | some _, _ => (405, "")

/-- Whether a text is the word for a method. -/
def isMethod (word : String) : Bool :=
  !word.isEmpty &&
    word.toList.all fun c => c.isAlphanum || "!#$%&'*+-.^_`|~".toList.contains c

/-- The status and the body with which a request is answered, unless there is no such request. -/
def answer? (tally : Tally) (method url : String) : Option (Nat × String) := do
  guard (isMethod method)
  let target ← Url.read? url.toList
  return tally.respond method (String.ofList target.path)

end Tally

end BareMetal
