import BareMetal.Proofs.Pass.Allocation

/-!
# What passes over metal machines come to

The gates in front of allocation only read.  What a pass over a machine that stays leaves behind is
therefore what allocation and the commit leave behind.
-/

namespace BareMetal

variable {terms : Terms Store} {Held : String → Store → Prop} {Fact : Store → Prop}
  {machine : MetalMachine} {store : Store}

/-- The results with which a pass over a machine ends in front of its gates. -/
inductive Shut : Except PassError Outcome → Prop
  /-- The owner machine is not set or not there. -/
  | ownerMachineMissing : Shut (.ok (.requeue .ownerMachineMissing))
  /-- The owner machine does not name its cluster. -/
  | clusterUnnamed (owner : ObjectKey) : Shut (.error (.invalidConfig
      ("Machine " ++ owner.display ++ " does not name its cluster")))
  /-- The cluster is not there or its infrastructure is not ready. -/
  | clusterNotReady : Shut (.ok (.requeue .clusterNotReady))
  /-- The cluster is paused. -/
  | clusterPaused : Shut (.ok (.requeue .clusterPaused))
  /-- The owner machine has no bootstrap data. -/
  | bootstrapDataMissing : Shut (.ok (.requeue .bootstrapDataMissing))

/-- The pass ends in front of the gates unless they let it through. -/
def ShutUnlessPassed : Except PassError Gate → Prop
  | .ok (.passed _) => True
  | .ok (.closed reason) => Shut (.ok (.requeue reason))
  | .error error => Shut (.error error)

theorem shutUnlessPassed_clusterGate (clusterKey : ObjectKey) (cluster : Cluster)
    (owner : Machine) : ShutUnlessPassed (.ok (clusterGate clusterKey cluster owner)) := by
  unfold clusterGate
  split
  · exact .clusterPaused
  · split
    · exact .clusterNotReady
    · split
      · exact .bootstrapDataMissing
      · trivial

theorem ownerGates_secures (key ownerKey : ObjectKey) (owner : Machine) :
    (ownerGates key ownerKey owner).Secures terms
      (fun result later => ShutUnlessPassed result ∧ terms.rely store later) store := by
  unfold ownerGates
  split
  · exact fun later _ acted => ⟨.clusterUnnamed _, acted⟩
  · refine Attempt.secures_get_bind (fun _ => rfl) ?present ?missing
    case present =>
      exact fun now _ acted cluster _ later _ acted_later =>
        ⟨shutUnlessPassed_clusterGate _ cluster owner, terms.rely_trans acted acted_later⟩
    case missing =>
      exact fun now _ acted _ later _ acted_later =>
        ⟨.clusterNotReady, terms.rely_trans acted acted_later⟩

/-- The gates leave the store to the others. -/
theorem gates_secures (key : ObjectKey) (machine : MetalMachine) :
    (gates key machine).Secures terms
      (fun result later => ShutUnlessPassed result ∧ terms.rely store later) store := by
  unfold gates
  split
  · exact fun later _ acted => ⟨.ownerMachineMissing, acted⟩
  · refine Attempt.secures_get_bind (fun _ => rfl) ?present ?missing
    case present =>
      exact fun now _ acted owner _ => (ownerGates_secures key _ owner).weaken
        fun _ _ _ ⟨shut, acted_later⟩ => ⟨shut, terms.rely_trans acted acted_later⟩
    case missing =>
      exact fun now _ acted _ later _ acted_later =>
        ⟨.ownerMachineMissing, terms.rely_trans acted acted_later⟩

theorem Prepared.of_rely {now later : Store} {after : MetalMachine}
    (prepared : Prepared terms Held machine now after later) (acted : terms.rely store now) :
    Prepared terms Held machine store after later := by
  cases prepared with
  | idle metadata serverRef serverClassRef ready unchanged =>
      exact .idle metadata serverRef serverClassRef ready (terms.rely_trans acted unchanged)
  | holds server metadata named serverRef serverClassRef held =>
      exact .holds server metadata named serverRef serverClassRef held

theorem Prepared.metadata {after : MetalMachine} {later : Store}
    (prepared : Prepared terms Held machine store after later) :
    after.metadata = machine.addFinalizer.metadata := by
  cases prepared <;> assumption

theorem Prepared.serverClassRef {after : MetalMachine} {later : Store}
    (prepared : Prepared terms Held machine store after later) :
    after.spec.serverClassRef = machine.spec.serverClassRef := by
  cases prepared <;> assumption

theorem Prepared.key_eq {after : MetalMachine} {later : Store}
    (prepared : Prepared terms Held machine store after later) : after.key = machine.key := by
  rw [MetalMachine.key, prepared.metadata, ← MetalMachine.key, MetalMachine.key_addFinalizer]

theorem Prepared.resourceVersion_eq {after : MetalMachine} {later : Store}
    (prepared : Prepared terms Held machine store after later) :
    after.metadata.resourceVersion = machine.metadata.resourceVersion := by
  rw [prepared.metadata]
  unfold MetalMachine.addFinalizer
  split <;> rfl

/-- A prepared machine names the server that it named before. -/
theorem Prepared.names_keep {after : MetalMachine} {later : Store}
    (prepared : Prepared terms Held machine store after later) {reference : Reference}
    (named : machine.spec.serverRef = some reference) :
    after.spec.serverRef = some reference := by
  cases prepared with
  | idle _ serverRef => rw [serverRef, named]
  | holds _ _ _ serverRef =>
      rcases serverRef with absent | same
      · exact nomatch absent.symm.trans named
      · rw [same, named]

/-- A server that a prepared machine names was named before or is held. -/
theorem Prepared.backed {after : MetalMachine} {later : Store}
    (prepared : Prepared terms Held machine store after later) {reference : Reference}
    (named : after.spec.serverRef = some reference) :
    machine.spec.serverRef = some reference ∨ Held reference.name later := by
  cases prepared with
  | idle _ serverRef => exact .inl (serverRef ▸ named)
  | holds server _ names _ _ held =>
      rw [MetalMachine.namedServer?, named] at names
      obtain rfl : reference.name = server := Option.some.inj names
      exact .inr held

/-- A pass over a machine that stays leaves behind what the commit of the prepared copy leaves
behind. -/
theorem currentMachinePass_secures (stays : machine.isDeleting = false)
    (grants : Grants terms machine Held store)
    (unchanged : ∀ later, terms.invariant later → terms.rely store later → Fact later)
    (commits : ∀ after later, terms.invariant later →
      Prepared terms Held machine store after later →
        (commitMachine machine after).Secures terms (fun _ now => ∀ later, terms.invariant later →
          terms.rely now later → Fact later) later) (key : ObjectKey) :
    (currentMachinePass key machine).Secures terms (fun _ => Fact) store := by
  unfold currentMachinePass
  rw [stays]
  refine Pass.secures_bind.2 ((gates_secures key machine).weaken ?_)
  rintro result now _ ⟨_, acted⟩
  match result with
  | .error _ =>
      exact fun later sound acted_later => unchanged later sound
        (terms.rely_trans acted acted_later)
  | .ok (.closed _) =>
      exact fun later sound acted_later => unchanged later sound
        (terms.rely_trans acted acted_later)
  | .ok (.passed cluster) =>
      unfold withCommit
      refine Pass.secures_bind.2 ((allocate_secures (grants.of_rely acted) cluster).weaken ?_)
      rintro ⟨_, after⟩ later sound prepared
      unfold finishMachine
      refine Pass.secures_bind.2 ((commits after later sound (prepared.of_rely acted)).weaken ?_)
      exact fun _ last _ ends end_ sound_end acted_end => ends end_ sound_end acted_end

/-- A pass over the machine of a key starts from what is stored under that key. -/
theorem machinePass_secures {goal : Except PassError Outcome → Store → Prop} {key : ObjectKey}
    (present : ∀ now, terms.invariant now → terms.rely store now → ∀ machine,
      now.metalMachines.get? key = some machine →
        (currentMachinePass key machine).Secures terms goal now)
    (absent : ∀ now, terms.invariant now → terms.rely store now →
      now.metalMachines.get? key = none → ∀ later, terms.invariant later →
        terms.rely now later → goal (.ok .done) later) :
    (machinePass key).Secures terms goal store := by
  unfold machinePass
  refine Pass.secures_get_bind (fun _ => rfl) ?_ ?_
  · exact fun now sound acted machine found =>
      Pass.secures_learn_bind (present now sound acted machine found)
  · exact fun now sound acted missing =>
      Pass.secures_learn_bind (Pass.secures_pure.2 (absent now sound acted missing))

end BareMetal
