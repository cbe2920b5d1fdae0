import BareMetal.Pass.ServerClass
import BareMetal.Proofs.Fleet
import BareMetal.Proofs.Pass.Offering
import BareMetal.Proofs.Selection

/-!
# What a pass over a class leaves behind

A pass over a class that is there lists the class's members in its status, the free ones apart from
those in use, and takes the restrictions off the class `any`.  It fails only if the selector of
another class is malformed.  Nothing but the class changes, and a second pass writes nothing.
-/

namespace BareMetal

open Store

/-! ## The lists of a status -/

/-- The lists of a class's status divide the stored servers of some kind. -/
structure ServerClassStatus.Divides (status : ServerClassStatus) (servers : Dict String Server)
    (isMember : Server → Prop) : Prop where
  /-- The free servers ascend by the octets of their names. -/
  available : status.serversAvailable.Pairwise fun earlier later =>
    Text.octets earlier < Text.octets later
  /-- So do the servers in use. -/
  inUse : status.serversInUse.Pairwise fun earlier later =>
    Text.octets earlier < Text.octets later
  /-- No server is in both lists. -/
  disjoint : ∀ name ∈ status.serversAvailable, name ∉ status.serversInUse
  /-- Both lists together have the names of the stored servers of the kind. -/
  together : ∀ name, name ∈ status.serversAvailable ∨ name ∈ status.serversInUse ↔
    ∃ server, servers.get? name = some server ∧ isMember server
  /-- A server of the kind is listed as in use exactly if it is. -/
  divided : ∀ name server, servers.get? name = some server → isMember server →
    (name ∈ status.serversInUse ↔ server.isInUse = true)

/-- The names of the stored servers that belong to a class and pass a test, ascending. -/
def Store.memberNames (store : Store) (spec : ServerClassSpec) (test : Server → Bool) :
    List String :=
  ((store.servers.values.filter (Server.belongs spec)).filter test).map Server.anyName

section

variable {store : Store} {spec : ServerClassSpec} (named : store.ServersByName)

include named

theorem Store.ServersByName.map_values : store.servers.values.map Server.anyName =
    store.servers.keys :=
  Dict.map_values_eq_keys fun _ _ => named.anyName_eq

theorem Store.ServersByName.pairwise_memberNames (test : Server → Bool) :
    (store.memberNames spec test).Pairwise (· < ·) := by
  have ascending := store.servers.pairwise_keys
  rw [← named.map_values] at ascending
  exact ascending.sublist ((List.filter_sublist.trans List.filter_sublist).map _)

theorem Store.ServersByName.mem_memberNames (formed : spec.IsWellFormed) (test : Server → Bool)
    (name : String) : name ∈ store.memberNames spec test ↔ ∃ server,
      store.servers.get? name = some server ∧ server.IsMember spec ∧ test server = true := by
  simp only [memberNames, List.mem_map, List.mem_filter, Dict.mem_values,
    Server.belongs_iff formed]
  constructor
  · rintro ⟨server, ⟨⟨⟨key, found⟩, member⟩, passes⟩, rfl⟩
    rw [named.anyName_eq found]
    exact ⟨server, found, member, passes⟩
  · rintro ⟨server, found, member, passes⟩
    exact ⟨server, ⟨⟨⟨name, found⟩, member⟩, passes⟩, named.anyName_eq found⟩

/-- Stored servers are listed in the order of their names, so that sorting them does nothing. -/
theorem Store.ServersByName.qualifiedServers_values (formed : spec.IsWellFormed) :
    qualifiedServers spec store.servers.values =
      .ok (store.servers.values.filter (Server.belongs spec)) := by
  rw [qualifiedServers_eq formed, List.mergeSort_of_pairwise]
  have ascending := store.servers.pairwise_keys
  rw [← named.map_values, List.pairwise_map] at ascending
  refine (ascending.imp_of_mem fun {earlier later} front back before => ?_).filter _
  obtain ⟨first, first_found⟩ := Dict.mem_values.1 front
  obtain ⟨second, second_found⟩ := Dict.mem_values.1 back
  rw [named.anyName_eq first_found, named.anyName_eq second_found] at before
  simpa [Server.inNameOrder, named first earlier first_found, named second later second_found]
    using Std.le_of_lt before

/-- The status that is worked out for a class divides the class's members. -/
theorem Store.ServersByName.divides (formed : spec.IsWellFormed) :
    (ServerClassStatus.ofServers (store.servers.values.filter (Server.belongs spec))).Divides
      store.servers (Server.IsMember · spec) := by
  have free_iff := named.mem_memberNames formed fun server => !server.isInUse
  have used_iff := named.mem_memberNames formed Server.isInUse
  constructor
  case available => exact (named.pairwise_memberNames _).imp Text.octets_lt_of_lt
  case inUse => exact (named.pairwise_memberNames _).imp Text.octets_lt_of_lt
  case disjoint =>
    intro name free used
    obtain ⟨server, found, _, idle⟩ := (free_iff name).1 free
    obtain ⟨other, other_found, _, busy⟩ := (used_iff name).1 used
    cases found.symm.trans other_found
    simp [busy] at idle
  case together =>
    intro name
    refine (or_congr (free_iff name) (used_iff name)).trans ?_
    constructor
    · rintro (⟨server, found, member, _⟩ | ⟨server, found, member, _⟩)
      · exact ⟨server, found, member⟩
      · exact ⟨server, found, member⟩
    · rintro ⟨server, found, member⟩
      cases use : server.isInUse with
      | false => exact .inl ⟨server, found, member, by simp [use]⟩
      | true => exact .inr ⟨server, found, member, use⟩
  case divided =>
    intro name server found member
    refine (used_iff name).trans ?_
    constructor
    · rintro ⟨other, other_found, _, busy⟩
      cases found.symm.trans other_found
      exact busy
    · exact fun busy => ⟨server, found, member, busy⟩

end

/-! ## Revising a class -/

/-- The filter that a class has after a pass: the class `any` keeps its environment alone. -/
def ServerClassSpec.kept (name : String) (spec : ServerClassSpec) : ServerClassSpec :=
  if name = ServerClass.anyClass then
    { selector := none, qualifiers := {}, environmentRef := spec.environmentRef }
  else spec

/-- A store differs from another at most in what a class tells and in the version of the class. -/
structure Store.Revises (before after : Store) (name : String) (first last : ServerClass) :
    Prop where
  /-- The class is still there. -/
  stored : after.serverClasses.get? name = some last
  /-- Of its metadata at most the version differs. -/
  metadata : last.metadata =
    { first.metadata with resourceVersion := last.metadata.resourceVersion }
  /-- The other classes are as they were. -/
  others : ∀ other, other ≠ name → after.serverClasses.get? other = before.serverClasses.get? other
  /-- So is everything else but the version of the store. -/
  frame : after =
    { before with version := after.version, serverClasses := after.serverClasses }

/-- A class with its next version. -/
def Store.stampedClass (store : Store) (serverClass : ServerClass) : ServerClass :=
  { serverClass with metadata.resourceVersion := some store.nextVersion }

/-- The store after the write of a class. -/
def Store.withClass (store : Store) (name : String) (serverClass : ServerClass) : Store :=
  { store with
    version := store.version + 1
    serverClasses := store.serverClasses.insert name (store.stampedClass serverClass) }

section

variable {store before after : Store} {name : String} {serverClass first last : ServerClass}

theorem Store.Revises.refl (found : store.serverClasses.get? name = some serverClass) :
    store.Revises store name serverClass serverClass :=
  ⟨found, rfl, fun _ _ => rfl, rfl⟩

theorem Store.Revises.trans {middle : Store} {current : ServerClass}
    (front : before.Revises middle name first current)
    (back : middle.Revises after name current last) : before.Revises after name first last where
  stored := back.stored
  metadata := by
    rw [back.metadata, front.metadata]
  others other different := (back.others other different).trans (front.others other different)
  frame := by
    rw [back.frame, front.frame]

theorem Store.revises_withClass (same : serverClass.metadata = first.metadata) :
    store.Revises (store.withClass name serverClass) name first
      (store.stampedClass serverClass) where
  stored := Dict.get?_insert_self ..
  metadata := by
    rw [stampedClass, same]
  others other different := Dict.get?_insert_of_ne different ..
  frame := rfl

theorem Store.Revises.servers (revises : before.Revises after name first last) :
    after.servers = before.servers := by
  rw [revises.frame]

theorem Store.changeServerClass_of_get? {change : ServerClass → ServerClass}
    (found : store.serverClasses.get? name = some serverClass)
    (same : (change serverClass).metadata = serverClass.metadata) :
    store.changeServerClass name change = (.ok (), store.withClass name (change serverClass)) := by
  rw [changeServerClass, found, withClass, stampedClass, same]

theorem Qualifiers.eq_of_isEmpty {qualifiers : Qualifiers} (empty : qualifiers.isEmpty = true) :
    qualifiers = {} := by
  cases qualifiers
  simpa [isEmpty, and_assoc] using empty

theorem ServerClassSpec.kept_eq_self_iff {spec : ServerClassSpec} :
    spec.kept name = spec ↔ ¬(name = ServerClass.anyClass ∧ spec.isRestricted = true) := by
  by_cases builtin : name = ServerClass.anyClass
  · simp only [kept, isRestricted, builtin, if_true, true_and, Bool.or_eq_true_iff, not_or]
    constructor
    · intro same
      rw [← same]
      exact ⟨nofun, nofun⟩
    · rintro ⟨unselected, unqualified⟩
      obtain ⟨selector, qualifiers, environment⟩ := spec
      obtain rfl : selector = none := by simpa using unselected
      obtain rfl : qualifiers = {} := Qualifiers.eq_of_isEmpty (by simpa using unqualified)
      rfl
  · simp [kept, builtin]

theorem ServerClassSpec.kept_kept (spec : ServerClassSpec) :
    (spec.kept name).kept name = spec.kept name := by
  unfold kept
  split <;> rfl

theorem ServerClassSpec.isWellFormed_kept {spec : ServerClassSpec} :
    (spec.kept name).IsWellFormed ↔ (name ≠ ServerClass.anyClass → spec.IsWellFormed) := by
  unfold kept
  split
  · rename_i builtin
    exact ⟨fun _ other => absurd builtin other, fun _ _ selected => nomatch selected⟩
  · rename_i other
    exact ⟨fun formed _ => formed, fun formed => formed other⟩

/-! ## A pass over a class -/

variable {world : Surroundings}

/-- The class `any` loses its restrictions; nothing is written where there are none. -/
theorem resetAny_run (found : world.store.serverClasses.get? name = some serverClass) :
    ∃ reset current, (resetAny name serverClass.spec).run.run world =
        (.ok (serverClass.spec.kept name), world.withStore reset) ∧
      world.store.Revises reset name serverClass current ∧
      current.spec = serverClass.spec.kept name ∧ current.status = serverClass.status ∧
      (serverClass.spec.kept name = serverClass.spec → reset = world.store) := by
  by_cases resets : name = ServerClass.anyClass ∧ serverClass.spec.isRestricted = true
  · have kept : serverClass.spec.unrestricted = serverClass.spec.kept name :=
      (if_pos resets.1).symm
    have performed : world.store.perform
        (.updateServerClassSpec name serverClass.spec.unrestricted) =
          (.ok (), world.store.withClass name
            { serverClass with spec := serverClass.spec.unrestricted }) :=
      changeServerClass_of_get? found rfl
    have revises : world.store.Revises (world.store.withClass name
        { serverClass with spec := serverClass.spec.unrestricted }) name serverClass _ :=
      revises_withClass rfl
    refine ⟨_, _, ?_, revises, kept, rfl, fun same => ?_⟩
    · rw [resetAny, if_pos resets, Attempt.run_attemptCall_bind_of_ok _ performed, kept]
      rfl
    · exact absurd resets (ServerClassSpec.kept_eq_self_iff.1 same)
  · have kept := ServerClassSpec.kept_eq_self_iff.2 resets
    refine ⟨_, _, ?_, Revises.refl found, kept.symm, rfl, fun _ => rfl⟩
    rw [kept, resetAny, if_neg resets]
    rfl

/-- The status of a class with a filter. -/
def Store.classStatus (store : Store) (spec : ServerClassSpec) : ServerClassStatus :=
  .ofServers (store.servers.values.filter (Server.belongs spec))

theorem classPass_run_of_get? (found : world.store.serverClasses.get? name = some serverClass) :
    (classPass name).run world = (refreshClass name serverClass).run.run world := by
  rw [classPass, Pass.run_get_bind _ world fun _ => rfl, found]
  rfl

/-- A malformed selector ends the pass over a class that is not reset. -/
theorem classPass_run_of_malformed {fault : SelectorFault}
    (found : world.store.serverClasses.get? name = some serverClass)
    (other : name ≠ ServerClass.anyClass) (first : serverClass.spec.FirstFault fault) :
    (classPass name).run world = (.error (.malformedSelector fault), world) := by
  have unreset : resetAny name serverClass.spec = pure serverClass.spec :=
    if_neg fun resets => other resets.1
  have listed : world.store.perform .listServers = (.ok world.store.servers.values, world.store) :=
    rfl
  rw [classPass_run_of_get? found, refreshClass, unreset, pure_bind,
    Attempt.run_attemptCall_bind_of_ok _ listed, qualifiedServers_eq_error_iff.2 first]
  rfl

/-- The last step of a pass over a class: it tells of a status that is not the one it found. -/
def reportStatus (name : String) (known : Option ServerClassStatus) (status : ServerClassStatus) :
    Attempt Outcome := do
  if known ≠ some status then
    Attempt.call (.updateServerClassStatus name status)
  return .done

theorem reportStatus_run (status : ServerClassStatus)
    (found : world.store.serverClasses.get? name = some serverClass) :
    ∃ after last, (reportStatus name serverClass.status status).run.run world =
        (.ok .done, world.withStore after) ∧
      world.store.Revises after name serverClass last ∧
      last.spec = serverClass.spec ∧ last.status = some status ∧
      (serverClass.status = some status → after = world.store) := by
  by_cases known : serverClass.status = some status
  · refine ⟨_, _, ?_, Revises.refl found, rfl, known, fun _ => rfl⟩
    rw [reportStatus, if_neg (not_not.2 known)]
    rfl
  · have performed : world.store.perform (.updateServerClassStatus name status) =
        (.ok (), world.store.withClass name { serverClass with status := some status }) :=
      changeServerClass_of_get? found rfl
    have revises : world.store.Revises (world.store.withClass name
        { serverClass with status := some status }) name serverClass _ :=
      revises_withClass rfl
    refine ⟨_, _, ?_, revises, rfl, rfl, fun same => absurd same known⟩
    rw [reportStatus, if_pos known, Attempt.run_attemptCall_bind_of_ok _ performed]
    rfl

/-- With a selector that is well formed the class gets the status that is worked out for it. -/
theorem classPass_run_of_wellFormed (named : world.store.ServersByName)
    (found : world.store.serverClasses.get? name = some serverClass)
    (formed : (serverClass.spec.kept name).IsWellFormed) :
    ∃ after last, (classPass name).run world = (.ok .done, world.withStore after) ∧
      world.store.Revises after name serverClass last ∧
      last.spec = serverClass.spec.kept name ∧
      last.status = some (world.store.classStatus last.spec) ∧
      (serverClass.spec.kept name = serverClass.spec →
        serverClass.status = some (world.store.classStatus serverClass.spec) →
          after = world.store) := by
  obtain ⟨reset, current, resets, revised, spec_eq, status_eq, idle⟩ := resetAny_run found
  have listed : (world.withStore reset).store.perform .listServers =
      (.ok world.store.servers.values, reset) := by
    rw [← revised.servers]
    rfl
  have stored : (world.withStore reset).store.serverClasses.get? name = some current :=
    revised.stored
  obtain ⟨after, last, reports, revises, last_spec, last_status, last_idle⟩ :=
    reportStatus_run (world.store.classStatus current.spec) stored
  refine ⟨after, last, ?_, revised.trans revises, last_spec.trans spec_eq, ?_, ?_⟩
  · rw [classPass_run_of_get? found, refreshClass, Attempt.run_bind_of_ok resets,
      Attempt.run_attemptCall_bind_of_ok _ listed, named.qualifiedServers_values formed,
      ← status_eq, ← spec_eq]
    exact reports
  · rw [last_spec, last_status]
  · intro same status_same
    rw [← same, ← spec_eq, ← status_eq] at status_same
    exact (last_idle status_same).trans (idle same)

theorem Server.isMember_kept_anyClass_iff {server : Server} {spec : ServerClassSpec} :
    server.IsMember (spec.kept ServerClass.anyClass) ↔
      server.spec.accepted = true ∧ server.spec.cordoned = false := by
  constructor
  · exact fun member => ⟨member.accepted, member.uncordoned⟩
  · exact fun ⟨accepted, uncordoned⟩ =>
      ⟨accepted, uncordoned, nofun, ⟨.inl rfl, .inl rfl, .inl rfl⟩⟩

/-- How a pass over a class that is there ends and what it leaves behind. -/
structure Refreshes (name : String) (serverClass : ServerClass) (world : Surroundings)
    (result : Except PassError Outcome) (later : Surroundings) : Prop where
  /-- It fails exactly if the class is not `any` and has a malformed selector, and tells of the
  first fault. -/
  fails_iff : ∀ error, result = .error error ↔ name ≠ ServerClass.anyClass ∧
    ∃ fault, serverClass.spec.FirstFault fault ∧ error = .malformedSelector fault
  /-- If it fails, nothing is written. -/
  failed : ∀ error, result = .error error → later.store = world.store
  /-- Otherwise it is done. -/
  done : ∀ outcome, result = .ok outcome → outcome = .done
  /-- The class then has its filter, without restrictions if it is `any`, and a status that divides
  its members; nothing else differs. -/
  refreshed : ∀ outcome, result = .ok outcome → ∃ last status,
    world.store.Revises later.store name serverClass last ∧
    last.spec = serverClass.spec.kept name ∧ last.status = some status ∧
    status.Divides later.store.servers (Server.IsMember · last.spec)
  /-- A second pass writes nothing. -/
  repeated : ∀ next : Surroundings, next.store = later.store →
    ((classPass name).run next).2.store = next.store
  /-- The status of `any` divides the accepted servers that are not cordoned. -/
  approved : name = ServerClass.anyClass → ∃ last status,
    later.store.serverClasses.get? name = some last ∧ last.status = some status ∧
    status.Divides later.store.servers fun server =>
      server.spec.accepted = true ∧ server.spec.cordoned = false

section

variable (found : world.store.serverClasses.get? name = some serverClass)

include found

theorem refreshes_of_malformed {fault : SelectorFault} (other : name ≠ ServerClass.anyClass)
    (first : serverClass.spec.FirstFault fault) :
    Refreshes name serverClass world ((classPass name).run world).1
      ((classPass name).run world).2 := by
  rw [classPass_run_of_malformed found other first]
  constructor
  case fails_iff =>
    intro error
    constructor
    · exact fun failed => ⟨other, fault, first, (Except.error.inj failed).symm⟩
    · rintro ⟨_, told, first_told, rfl⟩
      rw [first.unique first_told]
  case failed => exact fun _ _ => rfl
  case done => exact nofun
  case refreshed => exact nofun
  case repeated =>
    intro next same
    have found_again : next.store.serverClasses.get? name = some serverClass := by
      rw [same]
      exact found
    rw [classPass_run_of_malformed found_again other first]
  case approved => exact fun builtin => absurd builtin other

theorem refreshes_of_wellFormed (named : world.store.ServersByName)
    (formed : (serverClass.spec.kept name).IsWellFormed) :
    Refreshes name serverClass world ((classPass name).run world).1
      ((classPass name).run world).2 := by
  obtain ⟨after, last, ran, revises, last_spec, last_status, _⟩ :=
    classPass_run_of_wellFormed named found formed
  have named_after : after.ServersByName := by
    unfold ServersByName
    rw [revises.servers]
    exact named
  have divides : (world.store.classStatus last.spec).Divides after.servers
      (Server.IsMember · last.spec) := by
    rw [revises.servers, last_spec]
    exact named.divides formed
  rw [ran]
  constructor
  case fails_iff =>
    refine fun error => ⟨nofun, fun ⟨other, fault, first, _⟩ => ?_⟩
    have formed := ServerClassSpec.isWellFormed_kept.1 formed other
    exact absurd first (ServerClassSpec.isWellFormed_iff.1 formed fault)
  case failed => exact nofun
  case done => exact fun outcome ended => (Except.ok.inj ended).symm
  case refreshed => exact fun _ _ => ⟨last, _, revises, last_spec, last_status, divides⟩
  case repeated =>
    intro next same
    have same : next.store = after := same
    have found_again : next.store.serverClasses.get? name = some last := by
      rw [same]
      exact revises.stored
    have kept : last.spec.kept name = last.spec := by
      rw [last_spec]
      exact ServerClassSpec.kept_kept _
    have formed_again : (last.spec.kept name).IsWellFormed := by
      rw [kept, last_spec]
      exact formed
    obtain ⟨again, _, ran_again, _, _, _, idle⟩ :=
      classPass_run_of_wellFormed (same ▸ named_after) found_again formed_again
    rw [ran_again]
    refine idle kept ?_
    rw [last_status, same, classStatus, classStatus, revises.servers]
  case approved =>
    rintro rfl
    have approved : (Server.IsMember · last.spec) = fun server =>
        server.spec.accepted = true ∧ server.spec.cordoned = false := by
      rw [last_spec]
      exact funext fun server => propext Server.isMember_kept_anyClass_iff
    rw [approved] at divides
    exact ⟨last, _, revises.stored, last_status, divides⟩

/-- A pass over a class brings it up to date. -/
theorem classPass_refreshes (named : world.store.ServersByName) :
    Refreshes name serverClass world ((classPass name).run world).1
      ((classPass name).run world).2 := by
  by_cases formed : (serverClass.spec.kept name).IsWellFormed
  · exact refreshes_of_wellFormed found named formed
  · obtain ⟨other, malformed⟩ := Classical.not_imp.1 (mt ServerClassSpec.isWellFormed_kept.2 formed)
    obtain ⟨fault, first⟩ : ∃ fault, serverClass.spec.FirstFault fault := by
      simpa [ServerClassSpec.isWellFormed_iff] using malformed
    exact refreshes_of_malformed found other first

end

end

/-- The class `any` with a malformed selector, a qualifier that no server fits and no status. -/
def tampered : ServerClass where
  metadata := { name := some ServerClass.anyClass, resourceVersion := some "1" }
  spec := {
    selector := some { matchExpressions := [⟨"rack", "Gt", ["4"]⟩] }
    qualifiers := { cpu := [{ manufacturer := "none" }] }
    environmentRef := some (.ofName "boot") }

/-- A store with that class, a free server, one in use, one set aside and one not accepted. -/
def assorted : Store :=
  ((((({} : Store).addServerClass tampered).addServer (Laboratory.server "d")).addServer
    { Laboratory.server "c" with status := some { inUse := true } }).addServer
    { Laboratory.server "b" with spec := { accepted := true, cordoned := true } }).addServer
    { Laboratory.server "a" with spec := { accepted := false } }

/-- The pass takes the restrictions off and lists the free server and the one in use. -/
theorem classPass_refreshes_assorted : assorted.ServersByName ∧
    assorted.serverClasses.get? ServerClass.anyClass = some tampered ∧
    Refreshes ServerClass.anyClass tampered (Laboratory.surroundings assorted {})
      ((classPass ServerClass.anyClass).run (Laboratory.surroundings assorted {})).1
      ((classPass ServerClass.anyClass).run (Laboratory.surroundings assorted {})).2 ∧
    ∃ last, ((classPass ServerClass.anyClass).run
        (Laboratory.surroundings assorted {})).2.store.serverClasses.get? ServerClass.anyClass =
          some last ∧
      last.spec = { environmentRef := some (.ofName "boot") } ∧
      last.status = some { serversAvailable := ["d"], serversInUse := ["c"] } := by
  have named : assorted.ServersByName := serversByName_of_all (by decide +kernel)
  have found : (Laboratory.surroundings assorted {}).store.serverClasses.get?
      ServerClass.anyClass = some tampered := rfl
  have formed : (tampered.spec.kept ServerClass.anyClass).IsWellFormed := nofun
  obtain ⟨after, last, ran, revises, last_spec, last_status, _⟩ :=
    classPass_run_of_wellFormed named found formed
  refine ⟨named, found, classPass_refreshes found named, last, ?_, last_spec, ?_⟩
  · rw [ran]
    exact revises.stored
  · rw [last_status, last_spec]
    decide +kernel

end BareMetal
