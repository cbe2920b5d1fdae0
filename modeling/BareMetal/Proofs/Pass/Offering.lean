import BareMetal.Proofs.Pass.Allocation
import BareMetal.Proofs.Pass.Running

/-!
# What the store has to offer

Which server a machine gets when nothing else happens, told from the store alone: whether it may
hold the server that it names, and which server of a class is the first to be claimed.  The parts of
allocation end as these say, and besides the claim they change only what the allocator remembers.
-/

namespace BareMetal

open Store

variable {α β : Type} {world : Surroundings} {machine : MetalMachine} {server : String}
  {serverClass : Reference}

/-- The surroundings of an allocator that remembers something else. -/
def Surroundings.withMemory (world : Surroundings) (memory : Memory) : Surroundings :=
  { world with memory }

/-- An attempt that fails ends what was to follow. -/
theorem Attempt.run_bind_of_error {first : Attempt β} {rest : β → Attempt α} {error : PassError}
    {later : Surroundings} (ran : first.run.run world = (.error error, later)) :
    (first >>= rest).run.run world = (.error error, later) :=
  Pass.run_bind_of ran

theorem Attempt.run_count_bind {counter : Counter} (rest : Unit → Attempt α)
    (world : Surroundings) :
    ((Pass.count counter : Attempt Unit) >>= rest).run.run world = (rest ()).run.run
      (world.withMemory { world.memory with tally := world.memory.tally.add counter 1 }) :=
  rfl

/-- An attempt that needs what it looks up fails without it. -/
theorem Attempt.run_attemptGet_bind {call : StoreCall} {what : String}
    {look : Store → Option call.Result} (rest : call.Result → Attempt α) (world : Surroundings)
    (reads : ∀ now : Store, now.perform call = (found what (look now), now)) :
    (Attempt.call call >>= rest).run.run world =
      match look world.store with
      | some value => (rest value).run.run world
      | none => (.error (.store (.notFound what)), world) := by
  have looked : (Attempt.call call).run.run world =
      ((found what (look world.store)).mapError .store, world) := by
    unfold Attempt.call
    rw [Attempt.run_get_bind _ world reads]
    cases look world.store <;> rfl
  cases sought : look world.store with
  | some value =>
      rw [sought] at looked
      exact Attempt.run_bind_of_ok looked
  | none =>
      rw [sought] at looked
      exact Attempt.run_bind_of_error looked

/-- An attempt that goes on with what a call gives it. -/
theorem Attempt.run_attemptCall_bind_of_ok {call : StoreCall} {value : call.Result}
    {after : Store} (rest : call.Result → Attempt α) {world : Surroundings}
    (performed : world.store.perform call = (.ok value, after)) :
    (Attempt.call call >>= rest).run.run world = (rest value).run.run (world.withStore after) := by
  have called : (Attempt.call call).run.run world = (.ok value, world.withStore after) := by
    unfold Attempt.call
    rw [Attempt.run_call_bind, performed]
    rfl
  exact Attempt.run_bind_of_ok called

/-! ## The server of a class -/

namespace Store

/-- The first of some candidates that may be claimed and has no binding. -/
def firstFree? (store : Store) (candidates : List Server) : Option Server :=
  candidates.find? fun server =>
    server.isClaimable && (store.serverBindings.get? server.anyName).isNone

/-- The first of some candidates to be claimed; while creating bindings is refused, an attempt to
claim any fails. -/
def tryFirst (store : Store) (candidates : List Server) : Except PassError (Option String) :=
  match store.createFailure with
  | none => .ok ((store.firstFree? candidates).map Server.anyName)
  | some message =>
      if candidates.any Server.isClaimable then .error (.store (.invalidRequest message))
      else .ok none

/-- Whether a binding of a name is there. -/
def isBound (store : Store) (name : String) : Bool := (store.serverBindings.get? name).isSome

/-- The first of several names without a binding. -/
def firstUnbound? (store : Store) (names : List String) : Option String :=
  names.find? fun name => !store.isBound name

/-- What is counted after several names were tried until one was without a binding. -/
def tallyAfter (store : Store) (names : List String) (tally : Tally) : Tally :=
  let tried := tally.add .claimConflicts (.ofNat (names.takeWhile store.isBound).length)
  if (store.firstUnbound? names).isSome then tried.add .allocations 1 else tried

/-- The names of the candidates that are tried: those that may be claimed. -/
def triedNames (candidates : List Server) : List String :=
  (candidates.filter Server.isClaimable).map Server.anyName

/-- The server of a class to be claimed. -/
def offer (store : Store) (className : String) : Except PassError (Option String) :=
  match store.serverClasses.get? className with
  | none => .error (.store (.notFound ("ServerClass " ++ className)))
  | some serverClass =>
      match qualifiedServers serverClass.spec
          (serverClass.availableServers.filterMap store.servers.get?) with
      | .error fault => .error (.malformedSelector fault)
      | .ok candidates => store.tryFirst candidates

/-- The store after the server that was found for a machine was claimed, if one was. -/
def taking (store : Store) (machine : MetalMachine) (serverClass : Option Reference) :
    Except PassError (Option String) → Store
  | .ok (some server) => store.withCreated (claim machine server serverClass)
  | _ => store

theorem tryFirst_of_accepts {store : Store} (accepts : store.createFailure = none)
    (candidates : List Server) :
    store.tryFirst candidates = .ok ((store.firstFree? candidates).map Server.anyName) := by
  rw [tryFirst, accepts]

theorem tryFirst_cons_of_not_isClaimable {store : Store} {server : Server}
    (unfit : server.isClaimable = false) (rest : List Server) :
    store.tryFirst (server :: rest) = store.tryFirst rest := by
  simp [tryFirst, firstFree?, unfit]

theorem triedNames_cons_of_isClaimable {server : Server} (fit : server.isClaimable = true)
    (rest : List Server) : triedNames (server :: rest) = server.anyName :: triedNames rest := by
  simp [triedNames, fit]

theorem triedNames_cons_of_not_isClaimable {server : Server} (unfit : server.isClaimable = false)
    (rest : List Server) : triedNames (server :: rest) = triedNames rest := by
  simp [triedNames, unfit]

/-- The first candidate to be claimed is the first without a binding that is tried. -/
theorem map_firstFree? (store : Store) (candidates : List Server) :
    (store.firstFree? candidates).map Server.anyName =
      store.firstUnbound? (triedNames candidates) := by
  rw [firstFree?, firstUnbound?, triedNames, List.find?_map, List.find?_filter]
  have same : ∀ server : Server,
      (server.isClaimable && (store.serverBindings.get? server.anyName).isNone) =
        decide (server.isClaimable = true ∧ (!store.isBound server.anyName) = true) := by
    intro server
    cases bound : store.serverBindings.get? server.anyName <;> simp [isBound, bound]
  exact congrArg (fun fits => (candidates.find? fits).map Server.anyName) (funext same)

section

variable {store : Store} {name : String}

theorem firstUnbound?_cons_of_free (free : store.isBound name = false) (rest : List String) :
    store.firstUnbound? (name :: rest) = some name := by
  simp [firstUnbound?, free]

theorem firstUnbound?_cons_of_bound (bound : store.isBound name = true) (rest : List String) :
    store.firstUnbound? (name :: rest) = store.firstUnbound? rest := by
  simp [firstUnbound?, bound]

theorem tallyAfter_nil (store : Store) (tally : Tally) : store.tallyAfter [] tally = tally := by
  simp [tallyAfter, firstUnbound?, Tally.add]

theorem tallyAfter_cons_of_free (free : store.isBound name = false) (rest : List String)
    (tally : Tally) : store.tallyAfter (name :: rest) tally = tally.add .allocations 1 := by
  simp [tallyAfter, firstUnbound?_cons_of_free free, free, Tally.add]

theorem tallyAfter_cons_of_bound (bound : store.isBound name = true) (rest : List String)
    (tally : Tally) : store.tallyAfter (name :: rest) tally =
      store.tallyAfter rest (tally.add .claimConflicts 1) := by
  have counted : tally.add .claimConflicts (.ofNat ((rest.takeWhile store.isBound).length + 1)) =
      (tally.add .claimConflicts 1).add .claimConflicts
        (.ofNat (rest.takeWhile store.isBound).length) := by
    simp only [Tally.add, UInt64.ofNat_add, UInt64.add_assoc, UInt64.add_comm]
    rfl
  rw [tallyAfter, tallyAfter, List.takeWhile_cons_of_pos bound, List.length_cons, counted,
    firstUnbound?_cons_of_bound bound]

end

end Store

theorem presentServers_run (names : List String) (world : Surroundings) :
    (presentServers names).run.run world =
      (.ok (names.filterMap world.store.servers.get?), world) := by
  induction names with
  | nil => rfl
  | cons name rest ih =>
      unfold presentServers
      rw [Attempt.run_get_bind _ world fun _ => rfl]
      cases found : world.store.servers.get? name with
      | none =>
          rw [List.filterMap_cons_none found]
          exact ih
      | some server =>
          rw [List.filterMap_cons_some found]
          exact Attempt.run_bind_of_ok ih

/-- The first free candidate is claimed, and those that were tried before it are counted. -/
theorem claimFirst_run (machine : MetalMachine) (serverClass : Reference)
    (candidates : List Server) (world : Surroundings) :
    ∃ memory, (claimFirst machine serverClass candidates).run.run world =
        (world.store.tryFirst candidates, (world.withStore (world.store.taking machine serverClass
          (world.store.tryFirst candidates))).withMemory memory) ∧
      (world.store.createFailure = none → memory.tally =
        world.store.tallyAfter (triedNames candidates) world.memory.tally) := by
  induction candidates generalizing world with
  | nil =>
      have nothing : world.store.tryFirst [] = .ok none := by
        unfold tryFirst
        split <;> rfl
      rw [nothing]
      exact ⟨world.memory, rfl, fun _ => (world.store.tallyAfter_nil _).symm⟩
  | cons server rest ih =>
      unfold claimFirst
      cases fit : server.isClaimable with
      | false =>
          have unfit : (server.isInUse || !server.isClean) = true := by
            rwa [Server.isClaimable_eq, Bool.not_eq_false'] at fit
          rw [tryFirst_cons_of_not_isClaimable fit, triedNames_cons_of_not_isClaimable fit,
            if_pos unfit]
          exact ih world
      | true =>
          have not_unfit : ¬(server.isInUse || !server.isClean) = true := by
            rwa [Server.isClaimable_eq, Bool.not_eq_true', ← Bool.not_eq_true] at fit
          rw [if_neg not_unfit, Attempt.run_call_bind]
          cases refuses : world.store.createFailure with
          | some message =>
              have refused : world.store.tryFirst (server :: rest) =
                  .error (.store (.invalidRequest message)) := by
                simp [tryFirst, refuses, fit]
              rw [refused, perform, createServerBinding_of_refused refuses]
              exact ⟨world.memory, rfl,
                fun accepts => absurd accepts (Option.some_ne_none message)⟩
          | none =>
              rw [triedNames_cons_of_isClaimable fit]
              cases bound : world.store.serverBindings.get? server.anyName with
              | none =>
                  have first :
                      world.store.tryFirst (server :: rest) = .ok (some server.anyName) := by
                    simp [tryFirst_of_accepts refuses, firstFree?, fit, bound]
                  have created := createServerBinding_of_free
                    (claim machine server.anyName serverClass) refuses bound
                  rw [first, perform, created]
                  dsimp only
                  rw [Attempt.run_learn_bind, Attempt.run_count_bind]
                  have free : world.store.isBound server.anyName = false := by
                    simp [isBound, bound]
                  exact ⟨_, rfl, fun _ => (tallyAfter_cons_of_free free _ _).symm⟩
              | some binding =>
                  have skipped : world.store.tryFirst (server :: rest) =
                      world.store.tryFirst rest := by
                    simp [tryFirst_of_accepts refuses, firstFree?, bound]
                  have taken : world.store.serverBindings.get? ((claim machine server.anyName
                      serverClass).metadata.name.getD "") = some binding := bound
                  have bound : world.store.isBound server.anyName = true := by
                    simp [isBound, bound]
                  rw [skipped, perform, createServerBinding_of_taken refuses taken]
                  dsimp only
                  rw [Attempt.run_count_bind]
                  -- The conflict is counted before the other servers are tried.
                  obtain ⟨memory, ran, counted⟩ := ih (world.withMemory
                    { world.memory with tally := world.memory.tally.add .claimConflicts 1 })
                  refine ⟨memory, ran, fun _ => ?_⟩
                  rw [tallyAfter_cons_of_bound bound]
                  exact counted refuses

/-- The available servers of a class that are there are qualified before one is claimed. -/
theorem claimFromClass_run_of_stored {className : String} {stored : ServerClass}
    (found : world.store.serverClasses.get? className = some stored) (machine : MetalMachine) :
    (claimFromClass machine className).run.run world =
      (match qualifiedServers stored.spec
          (stored.availableServers.filterMap world.store.servers.get?) with
        | .error fault => throw (.malformedSelector fault)
        | .ok candidates => claimFirst machine (.toObject stored) candidates :
          Attempt (Option String)).run.run world := by
  unfold claimFromClass
  rw [Attempt.run_attemptGet_bind _ world fun _ => rfl, found]
  exact Attempt.run_bind_of_ok (presentServers_run stored.availableServers world)

theorem claimFromClass_run (machine : MetalMachine) (className : String) (world : Surroundings) :
    ∃ memory, (claimFromClass machine className).run.run world =
      (world.store.offer className, (world.withStore (world.store.taking machine
        ((world.store.serverClasses.get? className).map .toObject)
          (world.store.offer className))).withMemory memory) := by
  unfold offer
  cases found : world.store.serverClasses.get? className with
  | none =>
      unfold claimFromClass
      rw [Attempt.run_attemptGet_bind _ world fun _ => rfl, found]
      exact ⟨world.memory, rfl⟩
  | some stored =>
      rw [claimFromClass_run_of_stored found]
      dsimp only
      cases qualified : qualifiedServers stored.spec
          (stored.availableServers.filterMap world.store.servers.get?) with
      | error fault => exact ⟨world.memory, rfl⟩
      | ok candidates =>
          obtain ⟨memory, ran, _⟩ := claimFirst_run machine (.toObject stored) candidates world
          exact ⟨memory, ran⟩

/-- A machine that names a class gets a server that it holds. -/
theorem serverFromClass_run_of_held {binding : ServerBinding} {rest : List ServerBinding}
    (held : world.held machine.key = binding :: rest) :
    ∃ memory, (serverFromClass machine).run.run world =
      (.ok (some binding.anyName), world.withMemory memory) := by
  unfold serverFromClass
  rw [Attempt.run_bind_of_ok (heldBindings_run machine.key world), held]
  exact ⟨_, rfl⟩

section

variable (classed : machine.spec.serverClassRef = some serverClass)
  (nothing : world.store.HoldsNothing machine.key)

include classed nothing

/-- A machine that names a class and holds nothing turns to the class. -/
theorem serverFromClass_run_of_classed : ∃ index, (serverFromClass machine).run.run world =
    (claimFromClass machine serverClass.name).run.run (world.withIndex index) := by
  unfold serverFromClass
  rw [Attempt.run_bind_of_ok (heldBindings_run machine.key world),
    Surroundings.held_eq_nil_iff.2 nothing, classed]
  exact ⟨_, rfl⟩

/-- It gets the server that the class offers. -/
theorem serverFromClass_run_of_holdsNothing : ∃ memory, (serverFromClass machine).run.run world =
    (world.store.offer serverClass.name, (world.withStore (world.store.taking machine
      ((world.store.serverClasses.get? serverClass.name).map .toObject)
        (world.store.offer serverClass.name))).withMemory memory) := by
  obtain ⟨index, ran⟩ := serverFromClass_run_of_classed classed nothing
  rw [ran]
  exact claimFromClass_run machine serverClass.name _

end

/-! ## The server that a machine names -/

/-- Whether the machine of a key holds the server that it names already; otherwise it may claim it,
unless there is an error. -/
def Store.mayHold (store : Store) (machine : ObjectKey) (server : String) :
    Except PassError Bool :=
  match store.serverBindings.get? server with
  | some binding =>
      if binding.isHeldBy machine then .ok true
      else .error (.serverAlreadyClaimed server binding.holder)
  | none =>
      match store.servers.get? server with
      | none => .error (.store (.notFound ("Server " ++ server)))
      | some found =>
          if !found.isAccepted then .error (.serverNotAccepted server)
          else
            match store.createFailure with
            | some message => .error (.store (.invalidRequest message))
            | none => .ok false

theorem bound_of_mayHold {store : Store} {machine : ObjectKey}
    (holds : store.mayHold machine server = .ok true) : ∃ binding,
      store.serverBindings.get? server = some binding ∧ binding.isHeldBy machine = true := by
  unfold mayHold at holds
  cases bound : store.serverBindings.get? server with
  | some binding =>
      rw [bound] at holds
      cases held : binding.isHeldBy machine with
      | false => simp [held] at holds
      | true => exact ⟨binding, rfl, held⟩
  | none =>
      rw [bound] at holds
      dsimp only at holds
      split at holds
      · contradiction
      · split at holds
        · contradiction
        · split at holds <;> simp at holds

/-- A machine that names a server holds it, or claims it if it may. -/
theorem ensureNamed_run (named : machine.namedServer? = some server) (world : Surroundings) :
    ∃ memory, (ensureNamed machine server).run.run world =
      match world.store.mayHold machine.key server with
      | .error error => (.error error, world)
      | .ok true => (.ok none, world)
      | .ok false => (.ok (some .bindingNotVisible), (world.withStore (world.store.withCreated
          (claim machine server machine.spec.serverClassRef))).withMemory memory) := by
  have own : machine.ownClaim? = some (claim machine server machine.spec.serverClassRef) := by
    rw [MetalMachine.ownClaim?, named]
    rfl
  unfold ensureNamed mayHold
  rw [Attempt.run_get_bind _ world fun _ => rfl]
  cases bound : world.store.serverBindings.get? server with
  | some binding =>
      refine ⟨world.memory, ?_⟩
      cases held : binding.isHeldBy machine.key <;> simp [found, held] <;> rfl
  | none =>
      simp only [found]
      unfold claimNamed
      rw [Attempt.run_attemptGet_bind _ world fun _ => rfl]
      cases known : world.store.servers.get? server with
      | none => exact ⟨world.memory, rfl⟩
      | some present =>
          cases accepted : present.isAccepted with
          | false =>
              refine ⟨world.memory, ?_⟩
              simp [accepted]
              rfl
          | true =>
              dsimp only
              rw [own, accepted, Bool.not_true, if_neg Bool.false_ne_true,
                if_neg Bool.false_ne_true]
              dsimp only
              rw [Attempt.run_call_bind]
              cases refuses : world.store.createFailure with
              | some message =>
                  rw [perform, createServerBinding_of_refused refuses]
                  exact ⟨world.memory, rfl⟩
              | none =>
                  have created := createServerBinding_of_free
                    (claim machine server machine.spec.serverClassRef) refuses bound
                  rw [perform, created]
                  exact ⟨_, Attempt.run_learn_bind _ _⟩

end BareMetal
