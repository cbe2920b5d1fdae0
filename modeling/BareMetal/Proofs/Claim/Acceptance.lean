import BareMetal.Proofs.Hearing
import BareMetal.Proofs.Pass.Release
import BareMetal.Proofs.Pass.Restoring

/-!
# Claims of servers that are not accepted

A server that is not accepted is not to be given away.  Passes over machines see to that.  A pass
over a server does not: it claims the server for a machine that names it, accepted or not.
-/

namespace BareMetal

open Store

variable {α : Type} {subject : Subject} {world : Surroundings} {name server : String}

/-- A server is accepted that is stored under a name, or goes by it. -/
def Store.Accepts (store : Store) (name : String) : Prop :=
  ∃ stored server, store.servers.get? stored = some server ∧
    (stored = name ∨ server.anyName = name) ∧ server.isAccepted = true

/-- A pass creates the binding of a name when it runs to its end with nothing else happening. -/
def Subject.Creates (subject : Subject) (world : Surroundings) (name : String) : Prop :=
  world.store.serverBindings.get? name = none ∧
    ((subject.pass.run world).2.store.serverBindings.get? name).isSome = true

/-! ## New bindings -/

/-- What a pass was told of servers is so, and the bindings that are new since it started have
names of a kind. -/
structure Informed (start : Store) (Kind : String → Prop) (told : Hearsay) (now : Store) :
    Prop where
  /-- Servers are as they were. -/
  servers : now.servers = start.servers
  /-- Servers that the pass was told to be accepted are. -/
  accepted : ∀ shown ∈ told, ∀ name, ShowsAccepted name shown → start.Accepts name
  /-- Bindings were there or have a name of the kind. -/
  bindings : ∀ name binding, now.serverBindings.get? name = some binding →
    (start.serverBindings.get? name).isSome = true ∨ Kind name

theorem Informed.step {start now after : Store} {Kind : String → Prop} {told : Hearsay}
    (informed : Informed start Kind told now) {query : PassQuery} {answer : query.Answer}
    (answered : query.Answered now answer after)
    (creates : ∀ binding, query = .store (.createServerBinding binding) →
      Kind (binding.metadata.name.getD "")) :
    Informed start Kind (told ++ [⟨query, answer⟩]) after := by
  have shows_accepted : ∀ name, ShowsAccepted name ⟨query, answer⟩ → start.Accepts name := by
    intro name shows
    cases shows with
    | @found looked server named accepted =>
        have found := eq_some_of_found (congrArg Prod.fst answered)
        exact ⟨looked, server, informed.servers ▸ found, named, accepted⟩
  have same_or_new : after.servers = now.servers ∧
      ∀ name binding, after.serverBindings.get? name = some binding →
        (∃ old, now.serverBindings.get? name = some old) ∨ Kind name := by
    cases query with
    | store call =>
        obtain rfl : (now.perform call).2 = after := congrArg Prod.snd answered
        refine ⟨now.perform_servers call, fun name binding found => ?_⟩
        rcases perform_of_get? found with ⟨old, found_old, _⟩ | ⟨created, called, named, _⟩
        · exact .inl ⟨old, found_old⟩
        · exact .inr (named ▸ creates created (congrArg PassQuery.store called))
    | _ =>
        obtain rfl : after = now := answered
        exact ⟨rfl, fun name binding found => .inl ⟨binding, found⟩⟩
  refine ⟨same_or_new.1.trans informed.servers, ?_, ?_⟩
  · intro shown member name shows
    rcases List.mem_append.1 member with earlier | last
    · exact informed.accepted shown earlier name shows
    · cases List.mem_singleton.1 last
      exact shows_accepted name shows
  · intro name binding found
    rcases same_or_new.2 name binding found with ⟨old, found_old⟩ | new
    · exact informed.bindings name old found_old
    · exact .inr new

/-- A pass that only creates bindings with names of a kind leaves no other new ones. -/
theorem Subject.Creates.kind (creates : subject.Creates world name) (Kind : String → Prop)
    (kind : ∀ told now binding, Informed world.store Kind told now →
      subject.Warrants told (.store (.createServerBinding binding)) →
        Kind (binding.metadata.name.getD "")) : Kind name := by
  have step : ∀ told (query : PassQuery) now answer after, subject.Warrants told query →
      query.Answered now answer after → Informed world.store Kind told now →
        Informed world.store Kind (told ++ [⟨query, answer⟩]) after := by
    intro told query now answer after warranted answered informed
    refine informed.step answered fun binding same => kind told now binding informed ?_
    exact same ▸ warranted
  have start : Informed world.store Kind [] world.store :=
    ⟨rfl, fun _ member => (nomatch member), fun _ binding found =>
      .inl (Option.isSome_iff_exists.2 ⟨binding, found⟩)⟩
  obtain ⟨later, _, informed⟩ := Pass.run_of_heeds step (subject.pass_warranted []) start
  obtain ⟨binding, found⟩ := Option.isSome_iff_exists.1 creates.2
  rcases informed.bindings name binding found with there | new
  · rw [creates.1] at there
    exact nomatch there
  · exact new

/-- Only a pass over the server itself claims a server that is not accepted. -/
theorem Subject.Creates.subject_eq (creates : subject.Creates world name)
    (unaccepted : ¬world.store.Accepts name) : subject = .server name := by
  cases subject with
  | machine key =>
      have accepted : world.store.Accepts name := creates.kind _ fun told now binding informed
          warranted => by
        cases warranted with
        | passive passive => exact passive.elim
        | claims read entitles =>
            obtain ⟨shown, member, shows⟩ := entitles.accepted
            exact informed.accepted shown member _ shows
      exact absurd accepted unaccepted
  | server other =>
      have same : name = other := creates.kind (· = other) fun told now binding _ mending => by
        cases mending with
        | passive passive => exact passive.elim
        | claims saw names stays => rfl
      rw [same]
  | binding | serverClass =>
      have never : False := creates.kind (fun _ => False) fun _ _ _ _ passive => passive
      exact never.elim

/-! ## Healing -/

/-- A pass over a server claims it exactly if it is free and the pass finds a machine that names
it and is not marked for deletion. -/
theorem creates_server_iff : (Subject.server server).Creates world server ↔
    world.store.serverBindings.get? server = none ∧ world.store.createFailure = none ∧
      ∃ machine ∈ world.namers server, machine.isDeleting = false := by
  refine and_congr_right fun free => ?_
  rw [Subject.pass, ← Surroundings.heir?_isSome_iff]
  cases found : world.heir? server with
  | none =>
      obtain ⟨index, ran⟩ := serverPass_run_of_no_heir free found
      simp [ran, free]
  | some machine =>
      cases refuses : world.store.createFailure with
      | some message =>
          obtain ⟨index, ran⟩ := serverPass_run_of_refused free found refuses
          simp [ran, free]
      | none =>
          obtain ⟨index, ran⟩ := serverPass_run_of_heir free found refuses
          have created : ((world.store.withCreated (claim machine server
              machine.spec.serverClassRef)).serverBindings.get? server).isSome = true :=
            congrArg Option.isSome (Dict.get?_insert_self _ _ _)
          rw [ran]
          exact iff_of_true created ⟨rfl, rfl⟩

/-- A pass claims a server that is not accepted exactly if it is a pass over that server, which is
free, and finds a machine that names the server and is not marked for deletion. -/
theorem claims_unaccepted_iff (unaccepted : ¬world.store.Accepts name) :
    subject.Creates world name ↔ subject = .server name ∧
      world.store.serverBindings.get? name = none ∧ world.store.createFailure = none ∧
        ∃ machine ∈ world.namers name, machine.isDeleting = false := by
  constructor
  · intro creates
    obtain rfl := creates.subject_eq unaccepted
    exact ⟨rfl, creates_server_iff.1 creates⟩
  · rintro ⟨rfl, claims⟩
    exact creates_server_iff.2 claims

/-- A store with a machine that names a server which is not accepted, and without bindings. -/
def rejecting : Store :=
  (((Laboratory.store []).addServer { Laboratory.server "s" with spec.accepted := false }
    ).addMetalMachine (Laboratory.machine "a" { serverRef := some (.ofName "s") }))

theorem not_accepts_rejecting : ¬rejecting.Accepts "s" := by
  have none_accepted : rejecting.servers.entries.all (fun entry => !entry.2.isAccepted) = true := by
    decide +kernel
  rintro ⟨stored, server, found, _, accepted⟩
  have rejected := List.all_eq_true.1 none_accepted _ (Dict.get?_eq_some_iff.1 found)
  simp [accepted] at rejected

/-- From a store without bindings a pass claims a server that is not accepted. -/
theorem server_claimed_unaccepted : (∀ name, rejecting.serverBindings.get? name = none) ∧
    (Subject.server "s").Creates (Laboratory.surroundings rejecting {}) "s" ∧
      ¬rejecting.Accepts "s" :=
  ⟨fun _ => rfl, ⟨rfl, by decide +kernel⟩, not_accepts_rejecting⟩

/-- A pass over the machine itself does not claim the server. -/
theorem claims_unaccepted_iff_rejecting : ¬rejecting.Accepts "s" ∧
    (Subject.server "s").Creates (Laboratory.surroundings rejecting {}) "s" ∧
      ¬(Subject.machine (Laboratory.key "a")).Creates (Laboratory.surroundings rejecting {})
        "s" := by
  have unaccepted : ¬(Laboratory.surroundings rejecting {}).store.Accepts "s" :=
    not_accepts_rejecting
  have found : ((Laboratory.surroundings rejecting {}).namers "s").any
      (fun machine => !machine.isDeleting) = true := by decide +kernel
  obtain ⟨machine, member, stays⟩ := List.any_eq_true.1 found
  refine ⟨unaccepted, (claims_unaccepted_iff unaccepted).2 ⟨rfl, rfl, rfl, machine, member, ?_⟩,
    fun creates => nomatch ((claims_unaccepted_iff unaccepted).1 creates).1⟩
  simpa using stays

end BareMetal
