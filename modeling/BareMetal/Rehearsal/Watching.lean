import BareMetal.Rehearsal.Step
import BareMetal.Rehearsal.Stream
import BareMetal.Watch.Keeping
import BareMetal.Watch.Rest

/-!
# Rehearsed watching

The tasks of an allocator at work on a stage.  Time goes from one instant to the next at which
something happens; at each instant the steps written down for it come first, then what the watchers
tell, turn by turn, then the passes that are due.  In a turn the watchers of a worker take it one
after the other to tell what they have at hand; one that gave the worker something to do lets the
others go first.  Times are in nanoseconds since the start.
-/

namespace BareMetal

/-- A task at work. -/
structure Worker where
  /-- The watchers of the task's collections, in the order in which they take their turns. -/
  streams : List Stream
  /-- What the worker keeps. -/
  keeping : Keeping
  /-- The worker's rest after errors. -/
  rest : Rest := {}
  /-- Whether the worker does nothing any more. -/
  hasEnded : Bool := false

/-- A worker at the start of its task. -/
def Worker.ofTask (task : Task) : Worker where
  streams := task.sources.map fun collection => { collection }
  keeping := Keeping.ofTask task

/-- Whether a worker makes passes. -/
def Worker.makesPasses (worker : Worker) : Bool :=
  match worker.keeping with
  | .passes _ _ _ => true
  | _ => false

/-- A step with the time at which it is performed. -/
structure TimedStep where
  /-- When the step is performed. -/
  time : Nat
  /-- The step. -/
  step : Step

/-- The tasks of an allocator at work. -/
structure Watching where
  /-- The stage on which they work. -/
  stage : Stage
  /-- What their watchers are served from. -/
  feed : Feed
  /-- The name of the allocator. -/
  allocator : String
  /-- How long passes wait until their objects have come to rest. -/
  debounce : Nat
  /-- The tasks. -/
  workers : List Worker
  /-- The steps that are still to be performed, earliest first. -/
  timeline : List TimedStep := []
  /-- What time it is. -/
  now : Nat := 0

namespace Watching

/-- Performs the steps that are due. -/
def performSteps (watching : Watching) : Watching :=
  let (due, timeline) := watching.timeline.span fun timed => timed.time ≤ watching.now
  let stage := due.foldl (fun stage timed => (stage.perform timed.step).2) watching.stage
  { watching with stage, timeline }

/-! ## Watchers -/

/-- How a watcher stopped telling. -/
inductive Halt where
  /-- It has nothing more to tell. -/
  | silent
  /-- It gave the worker something to do. -/
  | stirring
  /-- It failed. -/
  | failed
  /-- It told what the worker cannot follow. -/
  | fatal

/-- Lets a worker follow one event. -/
def follow (source : Collection) (event : WatchEvent Watched) (watching : Watching)
    (worker : Worker) : Watching × Worker :=
  let allocator := watching.stage.allocator watching.allocator
  let (keeping, index) :=
    worker.keeping.follow watching.debounce watching.now source event allocator.memory.index
  let stage := watching.stage.setAllocator watching.allocator
    { allocator with memory.index := index }
  ({ watching with stage }, { worker with keeping })

/-- Lets a watcher tell a worker what it has at hand, until something stops it.  Gives what it still
has at hand. -/
def tell (source : Collection) : List (WatchEvent Watched) → Watching → Worker →
    Halt × List (WatchEvent Watched) × Watching × Worker
  | [], watching, worker => (.silent, [], watching, worker)
  | .failed :: rest, watching, worker =>
      let (watching, worker) := follow source .failed watching worker
      (.failed, rest, watching, { worker with rest := worker.rest.after watching.now })
  | event :: rest, watching, worker =>
      if worker.keeping.canFollow event then
        let stirs := worker.keeping.isStirredBy source event
        let (watching, worker) := follow source event watching worker
        if stirs then (.stirring, rest, watching, { worker with rest := worker.rest.worked })
        else tell source rest watching worker
      else (.fatal, rest, watching, worker)

/-- Lets a watcher take its turn: it receives an answer, tells what it has at hand and, if nothing
stops it, asks for more. -/
def goOn (stream : Stream) (watching : Watching) (worker : Worker) :
    Halt × Stream × Watching × Worker :=
  let (stream, feed) := stream.receive watching.now watching.stage.store watching.feed
  let (halt, atHand, watching, worker) :=
    tell stream.collection stream.atHand { watching with feed } worker
  let stream := { stream with atHand }
  match halt with
  | .silent => (halt, stream.ask, watching, worker)
  | _ => (halt, stream, watching, worker)

/-- Lets watchers go on one after the other.  Those that gave something to do are collected in
`again`, the silent ones in `later`.  After a failure none goes on. -/
def goRound (again later : List Stream) :
    List Stream → Watching → Worker → List Stream × List Stream × Watching × Worker
  | [], watching, worker => (again, later, watching, worker)
  | stream :: rest, watching, worker =>
      match goOn stream watching worker with
      | (.silent, stream, watching, worker) =>
          goRound again (later ++ [stream]) rest watching worker
      | (.stirring, stream, watching, worker) =>
          goRound (again ++ [stream]) later rest watching worker
      | (.failed, stream, watching, worker) =>
          ([], rest ++ again ++ [stream] ++ later, watching, worker)
      | (.fatal, _, watching, worker) => ([], [], watching, { worker with hasEnded := true })

/-- Lets watchers go round until all are silent, but not more often than a number of times. -/
def goRounds : (rounds : Nat) → (again later : List Stream) → Watching → Worker →
    Watching × Worker
  | 0, again, later, watching, worker =>
      (watching, { worker with streams := again ++ later })
  | _ + 1, [], later, watching, worker => (watching, { worker with streams := later })
  | rounds + 1, again, later, watching, worker =>
      let (again, later, watching, worker) := goRound [] later again watching worker
      goRounds rounds again later watching worker

/-- Lets a worker take a turn, unless it rests. -/
def takeTurn (watching : Watching) (worker : Worker) : Watching × Worker :=
  if worker.hasEnded || watching.now < worker.rest.endsAt then (watching, worker)
  else
    let (again, later, watching, worker) := goRound [] [] worker.streams watching worker
    let events := again.foldl (fun total stream => total + stream.atHand.length) 0
    goRounds (events + 1) again later watching worker

/-! ## Passes -/

/-- The pass over a known object. -/
def passOver : Watched → Pass (Except PassError Outcome)
  | .metalMachine machine => machinePass machine.key
  | .serverBinding binding => bindingPass (Resource.anyName binding)
  | .server server => serverPass (Resource.anyName server)
  | .serverClass object => classPass (Resource.anyName object)

/-- Lets a worker make a pass that is due, if the object is known. -/
def makePass (watching : Watching) (worker : Worker) (address : ObjectAddress) :
    Watching × Worker :=
  match worker.keeping.get? address with
  | none => (watching, worker)
  | some object =>
      let name := watching.allocator
      let (result, stage) := watching.stage.act name (passOver object)
      let (delay, allocator) := (stage.allocator name).conclude stage.requeueAfter address.kind
        object.key result
      let keeping := match delay with
        | none => worker.keeping
        | some delay =>
            worker.keeping.ask watching.debounce (watching.now + delay.nanos) address
      ({ watching with stage := stage.setAllocator name allocator }, { worker with keeping })

/-- Lets a worker make the passes that are due. -/
def makePasses (watching : Watching) (worker : Worker) : Watching × Worker :=
  if worker.hasEnded then (watching, worker)
  else
    let (due, keeping) := worker.keeping.takeDue watching.now
    due.foldl (fun state pass => makePass state.1 state.2 pass.address)
      (watching, { worker with keeping })

/-! ## Time -/

/-- Lets each worker do something in turn. -/
def eachWorker (work : Watching → Worker → Watching × Worker) :
    List Worker → Watching → List Worker × Watching
  | [], watching => ([], watching)
  | worker :: rest, watching =>
      let (watching, worker) := work watching worker
      let (workers, watching) := eachWorker work rest watching
      (worker :: workers, watching)

/-- Lets all workers do something in turn. -/
def letAll (work : Watching → Worker → Watching × Worker) (watching : Watching) : Watching :=
  let (workers, watching) := eachWorker work watching.workers watching
  { watching with workers }

/-- When a watcher of a worker goes on. -/
def nextTurn? (now : Nat) (worker : Worker) : Option Nat :=
  (worker.streams.filterMap fun stream => stream.next? (max now worker.rest.endsAt)).min?

/-- When something happens to a worker. -/
def nextOfWorker? (now : Nat) (worker : Worker) : Option Nat :=
  if worker.hasEnded then none
  else
    let pass := worker.keeping.nextPass?.map fun time => max now time
    ((nextTurn? now worker).toList ++ pass.toList).min?

/-- When something happens next, in view of what happened until now. -/
def next? (watching : Watching) : Option Nat :=
  let steps := watching.timeline.head?.map fun timed => max watching.now timed.time
  (watching.workers.filterMap (nextOfWorker? watching.now) ++ steps.toList).min?

/-- Whether no watcher goes on at once. -/
def isQuiet (watching : Watching) : Bool :=
  watching.workers.all fun worker =>
    worker.hasEnded || (nextTurn? watching.now worker).all fun time => watching.now < time

/-- What happens next at an instant. -/
def happen (now : Nat) (watching : Watching) : Watching :=
  let watching := ({ watching with now }.performSteps).letAll takeTurn
  if watching.isQuiet then watching.letAll makePasses else watching

/-- Lets time go on until nothing more happens up to a limit, but not for more than a number of
turns. -/
def runFor (limit : Nat) : (turns : Nat) → Watching → Watching
  | 0, watching => watching
  | turns + 1, watching =>
      match watching.next? with
      | none => watching
      | some now => if now ≤ limit then runFor limit turns (watching.happen now) else watching

/-- How many turns a time can have in which something happens. -/
def turns (limit : Nat) : Nat := 2 * limit + 10000

/-- Lets time go on up to a limit. -/
def run (limit : Nat) (watching : Watching) : Watching :=
  watching.runFor limit (turns limit)

/-- The time up to which watching goes on if it is to last for a while: every step of the timeline
is performed. -/
def limit (duration : Nat) (watching : Watching) : Nat :=
  (watching.timeline.map TimedStep.time).foldl max duration

/-- Lets the workers that make passes end. -/
def endPasses (watching : Watching) : Watching :=
  { watching with workers := watching.workers.map fun worker =>
      { worker with hasEnded := worker.hasEnded || worker.makesPasses } }

/-- How long watching goes on after its workers were told to end: five seconds. -/
def farewell : Nat := 5000000000

/-- Lets time go on for a while, and after that, if the workers are told to end, for five seconds
more. -/
def rehearse (duration : Nat) (stops : Bool) (watching : Watching) : Watching :=
  let limit := watching.limit duration
  let watching := watching.run limit
  if stops then watching.endPasses.run (limit + farewell) else watching

/-- The times of steps that are performed one after the other: none before the one in front. -/
def inOrder (earliest : Nat) : List TimedStep → List TimedStep
  | [] => []
  | timed :: rest =>
      let time := max earliest timed.time
      { timed with time } :: inOrder time rest

end Watching

end BareMetal
