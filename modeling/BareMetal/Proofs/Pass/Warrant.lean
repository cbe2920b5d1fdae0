import BareMetal.Proofs.Pass.Hearsay
import BareMetal.Proofs.Pass.Allocation
import BareMetal.Proofs.Pass.Healing

/-!
# What warrants the writes of a pass

A pass over a machine claims a server only if it was told that the server is accepted and that the
machine lacks one.  It deletes bindings only for a machine that is marked for deletion, and makes a
machine name only a server that it was told the machine holds.  A pass over a server claims it only
for a machine that it was told to name the server.
-/

namespace BareMetal

variable {α : Type} {told later : Hearsay} {key : ObjectKey} {machine copy : MetalMachine}

/-! ## Rules -/

/-- An answer that shows a server to be accepted, under a name or by the name that it goes by. -/
inductive ShowsAccepted (name : String) : Told PassQuery PassQuery.Answer → Prop
  /-- The server was looked up. -/
  | found {looked : String} {server : Server} (named : looked = name ∨ server.anyName = name)
      (accepted : server.isAccepted = true) :
      ShowsAccepted name ⟨.store (.getServer looked), .ok server⟩

/-- An answer that shows a server to be without a binding. -/
inductive ShowsFree (name : String) : Told PassQuery PassQuery.Answer → Prop
  /-- The binding was looked up. -/
  | missing (what : String) :
      ShowsFree name ⟨.store (.getServerBinding name), .error (.notFound what)⟩

/-- A pass was told what is stored under the key of a machine. -/
def Hearsay.Reads (told : Hearsay) (key : ObjectKey) (machine : MetalMachine) : Prop :=
  (⟨.store (.getMetalMachine key), .ok machine⟩ : Told PassQuery PassQuery.Answer) ∈ told

/-- A pass saw a machine in the store, looked up or listed. -/
def Hearsay.Saw (told : Hearsay) (machine : MetalMachine) : Prop :=
  (∃ key, told.Reads key machine) ∨ ∃ machines, machine ∈ machines ∧
    (⟨.store .listMetalMachines, .ok machines⟩ : Told PassQuery PassQuery.Answer) ∈ told

/-- A pass was told that a machine holds a server: it saw the binding or created it. -/
def Hearsay.Grants (told : Hearsay) (machine : MetalMachine) (server : String) : Prop :=
  told.Shows machine.key server ∨ ∃ serverClass created,
    (⟨.store (.createServerBinding (claim machine server serverClass)), .ok created⟩ :
      Told PassQuery PassQuery.Answer) ∈ told

/-- A pass was told that a machine may claim a server. -/
structure Hearsay.Entitles (told : Hearsay) (machine : MetalMachine) (server : String) : Prop where
  /-- The server is accepted. -/
  accepted : ∃ shown ∈ told, ShowsAccepted server shown
  /-- The machine names the server, which is free, or it names none and holds none. -/
  lacks : (machine.namedServer? = some server ∧ ∃ shown ∈ told, ShowsFree server shown) ∨
    (machine.spec.serverRef = none ∧ ∃ shown ∈ told, ShowsNone machine.key shown)

/-- What a pass over the machine of a key may ask after what it was told. -/
inductive Warranted (key : ObjectKey) (told : Hearsay) : PassQuery → Prop
  /-- It may look around and report a status. -/
  | passive {query : PassQuery} (passive : query.IsPassive) : Warranted key told query
  /-- It may claim a server for the machine. -/
  | claims {machine : MetalMachine} {server : String} {serverClass : Option Reference}
      (read : told.Reads key machine) (entitles : told.Entitles machine server) :
      Warranted key told (.store (.createServerBinding (claim machine server serverClass)))
  /-- It may delete bindings for a machine that is marked for deletion. -/
  | deletes {machine : MetalMachine} (read : told.Reads key machine)
      (deleting : machine.isDeleting = true) (name : String) :
      Warranted key told (.store (.deleteServerBinding name))
  /-- It may write back the machine with a server that the machine named or holds. -/
  | writes {machine copy : MetalMachine} (read : told.Reads key machine)
      (key_eq : copy.key = machine.key)
      (backed : ∀ server, copy.namedServer? = some server →
        machine.namedServer? = some server ∨ told.Grants machine server) :
      Warranted key told (.store (.updateMetalMachine copy))

/-- What a pass over a server may ask after what it was told. -/
inductive Mending (server : String) (told : Hearsay) : PassQuery → Prop
  /-- It may look around and report a status. -/
  | passive {query : PassQuery} (passive : query.IsPassive) : Mending server told query
  /-- It may claim the server for a machine that names it. -/
  | claims {machine : MetalMachine} {serverClass : Option Reference} (saw : told.Saw machine)
      (names : machine.namedServer? = some server) (stays : machine.isDeleting = false) :
      Mending server told (.store (.createServerBinding (claim machine server serverClass)))

/-! ## What a pass was told stays -/

theorem Hearsay.Reads.of_grows (read : told.Reads key machine) (grows : told <+: later) :
    later.Reads key machine :=
  grows.subset read

theorem exists_shown_of_grows {Shown : Told PassQuery PassQuery.Answer → Prop}
    (shown : ∃ shown ∈ told, Shown shown) (grows : told <+: later) :
    ∃ shown ∈ later, Shown shown := by
  obtain ⟨answer, member, shows⟩ := shown
  exact ⟨answer, grows.subset member, shows⟩

theorem Hearsay.Grants.of_grows {server : String} (grants : told.Grants machine server)
    (grows : told <+: later) : later.Grants machine server := by
  rcases grants with shows | ⟨serverClass, created, member⟩
  · exact .inl (shows.of_grows grows)
  · exact .inr ⟨serverClass, created, grows.subset member⟩

theorem Hearsay.Entitles.of_grows {server : String} (entitles : told.Entitles machine server)
    (grows : told <+: later) : later.Entitles machine server where
  accepted := exists_shown_of_grows entitles.accepted grows
  lacks := entitles.lacks.imp
    (fun named => ⟨named.1, exists_shown_of_grows named.2 grows⟩)
    (fun serverless => ⟨serverless.1, exists_shown_of_grows serverless.2 grows⟩)

/-- A passive part of a pass over a machine is warranted. -/
theorem Pass.IsPassive.warranted {pass : Pass α} (passive : pass.IsPassive) (key : ObjectKey)
    (told : Hearsay) : pass.Heeds (Warranted key) (fun _ _ => True) told :=
  passive.heeds (fun _ _ => .passive) told

/-! ## Allocation -/

/-- A copy on which a pass works: it makes the claims and asks for the server of the machine. -/
structure IsCopy (machine copy : MetalMachine) : Prop where
  /-- It has the key of the machine. -/
  key_eq : copy.key = machine.key
  /-- It asks for what the machine asks. -/
  spec_eq : copy.spec = machine.spec
  /-- It makes the claims of the machine. -/
  claim_eq : claim copy = claim machine

theorem IsCopy.namedServer?_eq (copies : IsCopy machine copy) :
    copy.namedServer? = machine.namedServer? := by
  rw [MetalMachine.namedServer?, copies.spec_eq, MetalMachine.namedServer?]

theorem presentServers_heeds {permits : Hearsay → PassQuery → Prop}
    (reads : ∀ told query, query.IsPassive → permits told query) (names : List String) :
    (presentServers names).Heeds permits (fun result later => ∀ servers, result = .ok servers →
      ∀ server ∈ servers, server.isAccepted = true →
        ∃ shown ∈ later, ShowsAccepted server.anyName shown) told := by
  induction names generalizing told with
  | nil =>
      rintro _ ⟨⟩ server member
      exact nomatch member
  | cons name rest ih =>
      unfold presentServers
      refine Attempt.heeds_call_bind (reads _ _ trivial) fun reply => ?_
      split
      · rename_i server
        refine Attempt.heeds_bind ih (fun others later grows shown => ?_)
          fun _ _ _ failed => nomatch failed
        rintro _ ⟨⟩ other member accepted
        rcases List.mem_cons.1 member with rfl | member
        · exact ⟨_, grows.subset (List.mem_append_right _ List.mem_cons_self),
            .found (.inr rfl) accepted⟩
        · exact shown other member accepted
      · exact ih
      · exact fun _ failed => nomatch failed

theorem mem_of_mem_qualifying {serverClass : ServerClassSpec} {servers belonging : List Server}
    (qualified : qualifying serverClass servers = .ok belonging) {server : Server}
    (member : server ∈ belonging) : server ∈ servers ∧ server.isAccepted = true := by
  induction servers generalizing belonging with
  | nil =>
      cases qualified
      exact nomatch member
  | cons first rest ih =>
      unfold qualifying at qualified
      cases belongs : first.qualifies serverClass with
      | error fault =>
          rw [belongs] at qualified
          exact nomatch qualified
      | ok fits =>
          cases others : qualifying serverClass rest with
          | error fault =>
              rw [belongs, others] at qualified
              exact nomatch qualified
          | ok found =>
              rw [belongs, others] at qualified
              obtain rfl := Except.ok.inj qualified
              have in_rest : server ∈ found → server ∈ first :: rest ∧ server.isAccepted = true :=
                fun among => (ih others among).imp_left (List.mem_cons_of_mem first)
              cases fits with
              | false => exact in_rest member
              | true =>
                  rcases List.mem_cons.1 member with rfl | among
                  · refine ⟨List.mem_cons_self, Bool.of_not_eq_false fun rejected => ?_⟩
                    have rejected : server.spec.accepted = false := rejected
                    simp [Server.qualifies, rejected] at belongs
                  · exact in_rest among

/-- Qualified servers are accepted. -/
theorem mem_of_mem_qualifiedServers {serverClass : ServerClassSpec}
    {servers candidates : List Server}
    (qualified : qualifiedServers serverClass servers = .ok candidates) {server : Server}
    (member : server ∈ candidates) : server ∈ servers ∧ server.isAccepted = true := by
  have sorted : ∃ belonging, qualifying serverClass servers = .ok belonging ∧
      candidates = belonging.mergeSort Server.inNameOrder := by
    unfold qualifiedServers at qualified
    cases others : qualifying serverClass servers with
    | error fault =>
        rw [others] at qualified
        split at qualified
        · exact nomatch qualified
        · rename_i selector _
          cases valid : selector.validate <;> rw [valid] at qualified <;> exact nomatch qualified
    | ok belonging =>
        refine ⟨belonging, rfl, ?_⟩
        rw [others] at qualified
        split at qualified
        · exact (Except.ok.inj qualified).symm
        · rename_i selector _
          cases valid : selector.validate with
          | error fault =>
              rw [valid] at qualified
              exact nomatch qualified
          | ok _ =>
              rw [valid] at qualified
              exact (Except.ok.inj qualified).symm
  obtain ⟨belonging, belongs, rfl⟩ := sorted
  exact mem_of_mem_qualifying belongs (List.mem_mergeSort.1 member)

/-- A server that was found for a machine is one that the machine holds. -/
def FoundServer (machine : MetalMachine) (result : Except PassError (Option String))
    (later : Hearsay) : Prop :=
  ∀ server, result = .ok (some server) → later.Grants machine server

section

variable (read : told.Reads key machine) (copies : IsCopy machine copy)

include read copies

theorem claimFirst_warranted {serverClass : Reference} {candidates : List Server}
    (entitles : ∀ server ∈ candidates, told.Entitles machine server.anyName) :
    (claimFirst copy serverClass candidates).Heeds (Warranted key) (FoundServer machine) told := by
  induction candidates generalizing told with
  | nil => exact fun _ found => nomatch found
  | cons server rest ih =>
      unfold claimFirst
      rw [copies.claim_eq]
      split
      · exact ih read fun other member => entitles other (List.mem_cons_of_mem _ member)
      · refine Attempt.heeds_call_bind (.claims read (entitles server List.mem_cons_self))
          fun reply => ?_
        split
        · refine ⟨.passive trivial, fun _ => ⟨.passive trivial, fun _ => ?_⟩⟩
          rintro _ ⟨⟩
          exact .inr ⟨_, _, List.mem_append_left _ (List.mem_append_left _
            (List.mem_append_right _ List.mem_cons_self))⟩
        · refine ⟨.passive trivial, fun _ => ih ?_ fun other member => ?_⟩
          · exact List.mem_append_left _ (List.mem_append_left _ read)
          · exact (entitles other (List.mem_cons_of_mem _ member)).of_grows
              ((List.prefix_append _ _).trans (List.prefix_append _ _))
        · exact fun _ failed => nomatch failed

theorem claimFromClass_warranted (serverless : machine.spec.serverRef = none)
    (none_held : ∃ shown ∈ told, ShowsNone machine.key shown) (className : String) :
    (claimFromClass copy className).Heeds (Warranted key) (FoundServer machine) told := by
  unfold claimFromClass
  refine Attempt.heeds_attemptCall_bind (.passive trivial) (fun serverClass => ?_)
    fun _ _ _ failed => nomatch failed
  refine Attempt.heeds_bind (presentServers_heeds (fun _ _ => .passive) _)
    (fun servers later grows looked => ?_) fun _ _ _ failed => nomatch failed
  have grows : told <+: later := (List.prefix_append _ _).trans grows
  split
  · exact fun _ failed => nomatch failed
  · rename_i candidates qualified
    refine claimFirst_warranted (read.of_grows grows) copies fun server member => ?_
    obtain ⟨present, accepted⟩ := mem_of_mem_qualifiedServers qualified member
    exact ⟨looked server present accepted,
      .inr ⟨serverless, exists_shown_of_grows none_held grows⟩⟩

theorem serverFromClass_warranted (serverless : machine.spec.serverRef = none) :
    (serverFromClass copy).Heeds (Warranted key) (FoundServer machine) told := by
  unfold serverFromClass
  rw [copies.key_eq]
  have looks : (heldBindings machine.key).Heeds (Warranted key) (fun result later => ∀ found,
      result = .ok found → FoundHeld machine.key (.ok found) later ∧
        FoundNone machine.key (.ok found) later) told := by
    refine (heldBindings_heeds fun _ _ => .passive).weaken ?_
    rintro _ later _ shown found rfl
    exact shown
  refine Attempt.heeds_bind looks (fun found later grows shown => ?_)
    fun _ _ _ failed => nomatch failed
  cases found with
  | cons binding others =>
      rintro _ ⟨⟩
      exact .inl (shown.1 _ rfl binding List.mem_cons_self)
  | nil =>
      dsimp only
      split
      · exact fun _ failed => nomatch failed
      · exact claimFromClass_warranted (read.of_grows grows) copies serverless (shown.2 rfl) _

theorem claimNamed_warranted {server : String} (names : machine.namedServer? = some server)
    (free : ∃ shown ∈ told, ShowsFree server shown) :
    (claimNamed copy server).Heeds (Warranted key) (fun _ _ => True) told := by
  have own : copy.ownClaim? = some (claim machine server copy.spec.serverClassRef) := by
    rw [MetalMachine.ownClaim?, copies.namedServer?_eq, names, copies.claim_eq]
    rfl
  unfold claimNamed
  rw [own]
  refine Attempt.heeds_attemptCall_bind (.passive trivial) (fun found => ?_) fun _ _ => trivial
  have grows := List.prefix_append told [⟨.store (.getServer server), .ok found⟩]
  dsimp only
  split
  · trivial
  · rename_i accepted
    have shown : ShowsAccepted server ⟨.store (.getServer server), .ok found⟩ :=
      .found (.inl rfl) (by simpa using accepted)
    refine Attempt.heeds_call_bind (.claims (read.of_grows grows)
      ⟨⟨_, List.mem_append_right _ List.mem_cons_self, shown⟩,
        .inl ⟨names, exists_shown_of_grows free grows⟩⟩) fun reply => ?_
    split
    · exact ⟨.passive trivial, fun _ => trivial⟩
    · trivial
    · trivial

theorem ensureNamed_warranted {server : String} (names : machine.namedServer? = some server) :
    (ensureNamed copy server).Heeds (Warranted key) (fun _ _ => True) told := by
  unfold ensureNamed
  refine Attempt.heeds_call_bind (.passive trivial) fun reply => ?_
  split
  · split <;> trivial
  · exact claimNamed_warranted (read.of_grows (List.prefix_append _ _)) copies names
      ⟨_, List.mem_append_right _ List.mem_cons_self, .missing _⟩
  · trivial

end

/-! ## Passes over machines -/

/-- A machine may be written back under its key with a server that it named or holds. -/
structure Backed (machine copy : MetalMachine) (told : Hearsay) : Prop where
  /-- It has the key of the machine. -/
  key_eq : copy.key = machine.key
  /-- The server that it names the machine named or holds. -/
  named : ∀ server, copy.namedServer? = some server →
    machine.namedServer? = some server ∨ told.Grants machine server

theorem Backed.of_grows (backed : Backed machine copy told) (grows : told <+: later) :
    Backed machine copy later where
  key_eq := backed.key_eq
  named server names := (backed.named server names).imp_right fun grants => grants.of_grows grows

theorem IsCopy.backed (copies : IsCopy machine copy) (told : Hearsay) : Backed machine copy told :=
  ⟨copies.key_eq, fun _ names => .inl (copies.namedServer?_eq ▸ names)⟩

theorem MetalMachine.isCopy_addFinalizer (machine : MetalMachine) :
    IsCopy machine machine.addFinalizer :=
  ⟨by simp, by simp, by simp⟩

theorem MetalMachine.isCopy_clearInvalid (machine : MetalMachine) :
    IsCopy machine machine.addFinalizer.clearInvalid :=
  ⟨by simp, by simp, by simp⟩

/-- Provider and status of a machine do not matter. -/
theorem Backed.report {other : MetalMachine} (backed : Backed machine copy told)
    (metadata : other.metadata = copy.metadata)
    (serverRef : other.spec.serverRef = copy.spec.serverRef) (grows : told <+: later) :
    Backed machine other later := by
  have named_eq : other.namedServer? = copy.namedServer? :=
    congrArg (Option.map Reference.name) serverRef
  refine ⟨(congrArg Metadata.key metadata).trans backed.key_eq, fun server names => ?_⟩
  exact (backed.of_grows grows).named server (named_eq ▸ names)

theorem reportReady_warranted (backed : Backed machine copy told) (cluster : ObjectKey)
    (server : String) : (reportReady copy cluster server).Heeds (Warranted key)
      (fun ended later => Backed machine ended.2 later) told := by
  unfold reportReady
  refine ⟨.passive trivial, fun reply => ?_⟩
  have grows := List.prefix_append told [⟨_, reply⟩]
  rcases reply with error | binding
  · cases error <;> exact backed.report rfl rfl grows
  · cases ready : binding.isReady with
    | false =>
        simp only [Program.bind, ready]
        exact backed.report rfl rfl grows
    | true =>
        simp only [Program.bind, ready]
        refine ⟨.passive trivial, fun stamped => ?_⟩
        have grows_stamped := grows.trans (List.prefix_append _ [⟨_, stamped⟩])
        cases stamped <;> exact ⟨.passive trivial, fun _ =>
          backed.report rfl rfl (grows_stamped.trans (List.prefix_append _ _))⟩

theorem allocate_warranted (read : told.Reads key machine) (cluster : ObjectKey) :
    (allocate machine cluster).Heeds (Warranted key)
      (fun ended later => Backed machine ended.2 later) told := by
  have copies := machine.isCopy_clearInvalid
  unfold allocate
  dsimp only
  split
  · exact (machine.isCopy_addFinalizer.backed told).report rfl rfl List.prefix_rfl
  · rename_i _ reference names
    have names : machine.namedServer? = some reference.name := by
      rw [MetalMachine.spec_addFinalizer] at names
      rw [MetalMachine.namedServer?, names, Option.map_some]
    refine Program.heeds_bind.2 ((ensureNamed_warranted read copies names).weaken ?_)
    intro result later _ _
    split
    · exact copies.backed later
    · exact copies.backed later
    · exact reportReady_warranted (copies.backed later) cluster _
  · rename_i _ serverless _
    rw [MetalMachine.spec_addFinalizer] at serverless
    refine Program.heeds_bind.2 ((serverFromClass_warranted read copies serverless).weaken ?_)
    intro result later _ found
    split
    · exact copies.backed later
    · exact ⟨.passive trivial, fun _ => copies.backed _⟩
    · rename_i server
      refine reportReady_warranted ?_ cluster server
      refine ⟨copies.key_eq, fun named names => .inr ?_⟩
      obtain rfl : server = named := Option.some.inj names
      exact found server rfl

theorem finishMachine_warranted (read : told.Reads key machine) (backed : Backed machine copy told)
    (result : Except PassError α) :
    (finishMachine machine copy result).Heeds (Warranted key) (fun _ _ => True) told := by
  have reports : ∀ told, (commitMachineStatus machine copy).Heeds (Warranted key)
      (fun committed later => (pure (settled result committed) : Pass _).Heeds (Warranted key)
        (fun _ _ => True) later) told := fun told =>
    (Pass.IsPassive.warranted (commitMachineStatus_plain machine copy).passive key told).weaken
      fun _ _ _ _ => trivial
  unfold finishMachine
  refine Program.heeds_bind.2 ?_
  unfold commitMachine
  split
  · refine ⟨.writes read backed.key_eq backed.named, fun reply => ?_⟩
    cases reply with
    | error _ => trivial
    | ok _ => exact reports _
  · exact reports told

theorem deleteBindings_warranted (read : told.Reads key machine)
    (deleting : machine.isDeleting = true) (names : List String) :
    (deleteBindings names).Heeds (Warranted key) (fun _ _ => True) told := by
  induction names generalizing told with
  | nil => trivial
  | cons name rest ih =>
      refine Attempt.heeds_attemptCall_bind (.deletes read deleting name)
        (fun _ => ⟨.passive trivial, fun _ => ih ?_⟩) fun _ _ => trivial
      exact List.mem_append_left _ (List.mem_append_left _ read)

theorem release_warranted (read : told.Reads key machine) (deleting : machine.isDeleting = true) :
    (release machine).Heeds (Warranted key) (fun ended later => Backed machine ended.2 later ∧
      Hearsay.Reads later key machine) told := by
  have released : ∀ later, Backed machine machine.released later :=
    fun _ => ⟨rfl, fun _ names => nomatch names⟩
  have unchanged : ∀ later, Backed machine machine later :=
    fun _ => ⟨rfl, fun _ names => .inl names⟩
  have deletes : (deleteHeldBindings machine).Heeds (Warranted key)
      (fun _ later => Hearsay.Reads later key machine) told := by
    unfold deleteHeldBindings
    have looks := Pass.IsPassive.warranted (heldBindings_quiet machine.key).passive key told
    refine Program.heeds_bind.2 (looks.weaken fun found now grows _ => ?_)
    have read_now := read.of_grows grows
    cases found with
    | error _ => exact read_now
    | ok found =>
        have looks_again := Pass.IsPassive.warranted (heldNamedServer_plain machine).passive key now
        refine Program.heeds_bind.2 (looks_again.weaken fun named later grows _ => ?_)
        have read_later := read_now.of_grows grows
        cases named with
        | error _ => exact read_later
        | ok named =>
            refine Program.heeds_bind.2
              ((deleteBindings_warranted read_later deleting _).weaken fun deleted last grows _ => ?_)
            cases deleted <;> exact read_later.of_grows grows
  unfold release
  refine Program.heeds_bind.2 (deletes.weaken fun result later _ read_later => ?_)
  split
  · exact ⟨unchanged later, read_later⟩
  · exact ⟨unchanged later, read_later⟩
  · exact ⟨released later, read_later⟩

theorem currentMachinePass_warranted (read : told.Reads key machine) :
    (currentMachinePass key machine).Heeds (Warranted key) (fun _ _ => True) told := by
  unfold currentMachinePass
  cases deleting : machine.isDeleting with
  | true =>
      rw [if_pos rfl]
      split
      · refine Program.heeds_bind.2 ((release_warranted read deleting).weaken ?_)
        exact fun ended later _ ⟨backed, read_later⟩ =>
          finishMachine_warranted read_later backed ended.1
      · trivial
  | false =>
      rw [if_neg Bool.false_ne_true]
      have looks := Pass.IsPassive.warranted (gates_plain key machine).passive key told
      refine Program.heeds_bind.2 (looks.weaken fun gate later grows _ => ?_)
      split
      · trivial
      · trivial
      · refine Program.heeds_bind.2 ((allocate_warranted (read.of_grows grows) _).weaken ?_)
        exact fun ended last grows_last backed =>
          finishMachine_warranted (read.of_grows (grows.trans grows_last)) backed ended.1

/-- What a pass over a machine writes is warranted by what it was told. -/
theorem machinePass_warranted (key : ObjectKey) (told : Hearsay) :
    (machinePass key).Heeds (Warranted key) (fun _ _ => True) told := by
  refine ⟨.passive trivial, fun reply => ?_⟩
  rcases reply with error | machine
  · cases error with
    | notFound what => exact ⟨.passive trivial, fun _ => trivial⟩
    | _ => trivial
  · refine ⟨.passive trivial, fun _ => currentMachinePass_warranted ?_⟩
    exact List.mem_append_left _ (List.mem_append_right _ List.mem_cons_self)

/-! ## Passes over servers -/

section

variable {server : String}

/-- The machines that were found were seen and name the server. -/
def FoundNaming (server : String) (result : Except PassError (List MetalMachine))
    (later : Hearsay) : Prop :=
  ∀ found, result = .ok found → ∀ machine ∈ found,
    machine.namesServer server = true ∧ later.Saw machine

theorem checkMachines_mending (keys : List ObjectKey) :
    (checkMachines server keys).Heeds (Mending server) (FoundNaming server) told := by
  induction keys generalizing told with
  | nil =>
      rintro _ ⟨⟩ machine member
      exact nomatch member
  | cons key rest ih =>
      unfold checkMachines
      refine Attempt.heeds_call_bind (.passive trivial) fun reply => ?_
      split
      · rename_i machine
        split
        · rename_i names
          refine Attempt.heeds_bind ih (fun others later grows shown => ?_)
            fun _ _ _ failed => nomatch failed
          rintro _ ⟨⟩ other member
          rcases List.mem_cons.1 member with rfl | member
          · have read := grows.subset (List.mem_append_right _ List.mem_cons_self)
            exact ⟨names, .inl ⟨key, read⟩⟩
          · exact shown other member
        · exact ⟨.passive trivial, fun _ => ih⟩
      · exact ⟨.passive trivial, fun _ => ih⟩
      · exact fun _ failed => nomatch failed

theorem listMachines_mending :
    (listMachines server).Heeds (Mending server) (FoundNaming server) told := by
  refine Attempt.heeds_attemptCall_bind (.passive trivial) (fun machines => ?_)
    fun _ _ _ failed => nomatch failed
  refine Attempt.heeds_learnAll_bind (fun _ _ => .passive trivial) fun later grows => ?_
  rintro _ ⟨⟩ machine member
  obtain ⟨among, names⟩ := List.mem_filter.1 member
  have listed := grows.subset (List.mem_append_right told List.mem_cons_self)
  exact ⟨names, .inr ⟨machines, among, listed⟩⟩

theorem namingMachines_mending :
    (namingMachines server).Heeds (Mending server) (FoundNaming server) told := by
  refine ⟨.passive trivial, fun keys => ?_⟩
  refine Attempt.heeds_bind (checkMachines_mending keys) (fun known later _ known_seen => ?_)
    fun _ _ _ failed => nomatch failed
  have sorts : ∀ (found : List MetalMachine) (last : Hearsay),
      FoundNaming server (.ok found) last →
        FoundNaming server (.ok (found.mergeSort MetalMachine.inKeyOrder)) last := by
    rintro found last seen _ ⟨⟩ machine member
    exact seen found rfl machine (List.mem_mergeSort.1 member)
  split
  · refine Attempt.heeds_bind listMachines_mending (fun found last _ seen => ?_)
      fun _ _ _ failed => nomatch failed
    exact sorts found last fun _ same => Except.ok.inj same ▸ seen
  · exact sorts known later fun _ same => Except.ok.inj same ▸ known_seen

theorem healFrom_mending {machines : List MetalMachine}
    (seen : ∀ machine ∈ machines, machine.namesServer server = true ∧ told.Saw machine) :
    (healFrom machines).Heeds (Mending server) (fun _ _ => True) told := by
  induction machines with
  | nil => trivial
  | cons machine rest ih =>
      have tries_rest := ih fun other member => seen other (List.mem_cons_of_mem _ member)
      obtain ⟨names, saw⟩ := seen machine List.mem_cons_self
      unfold healFrom
      split
      · exact tries_rest
      · rename_i stays
        rw [MetalMachine.ownClaim?_of_namesServer names]
        refine Attempt.heeds_call_bind (.claims saw
          (MetalMachine.namedServer?_of_namesServer names) (Bool.eq_false_iff.2 stays))
          fun reply => ?_
        split
        · exact ⟨.passive trivial, fun _ => trivial⟩
        · trivial
        · trivial

/-- A pass over a server claims it only for a machine that it saw to name it. -/
theorem serverPass_mending (server : String) (told : Hearsay) :
    (serverPass server).Heeds (Mending server) (fun _ _ => True) told := by
  have heals : ∀ told, (healBinding server).Heeds (Mending server) (fun _ _ => True) told :=
    fun told => Attempt.heeds_bind namingMachines_mending
      (fun found later _ seen => healFrom_mending seen) fun _ _ => trivial
  refine Pass.heeds_call_bind (.passive trivial) fun reply => ?_
  split
  · trivial
  · refine Program.heeds_bind.2 ((heals _).weaken fun result _ _ _ => ?_)
    cases result <;> trivial
  · trivial

end

end BareMetal
