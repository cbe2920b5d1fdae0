import BareMetal.Api.Workload
import BareMetal.Proofs.Api.Paths
import BareMetal.Proofs.Api.Sending
import BareMetal.Proofs.Fleet
import Mathlib.Data.List.Induction

/-!
# Calls to workload clusters

A call that sets a provider ID needs a client of its cluster.  It uses the one that an earlier call
left, or reads the cluster's secret to get one; it asks for the nodes, and patches the only one if
need be.  Calls follow each other, the servers answer each request as they like, and a client is
given up as soon as the nodes of its cluster cannot be listed.  What has a name that fits in no path
is not asked for.
-/

namespace BareMetal

namespace Api

/-- A request with the answer that it got. -/
abbrev Letter := Told Dispatch fun _ => Option Answer

section

variable {α : Type} (react : List Letter → Dispatch → Option Answer) (told : List Letter)
  (destination : Destination) (request? : Option Request) (read : Json → Option α)

end

/-! ## Calls -/

/-- A call, with all that decides how it goes. -/
structure Visit where
  /-- The cluster. -/
  cluster : ObjectKey
  /-- The identifier of the server whose node is meant. -/
  uuid : String
  /-- The provider ID for the node. -/
  providerId : String
  /-- Where secrets lead. -/
  lead : Lead
  /-- How servers answer, which may depend on what the call was told before. -/
  react : List Letter → Dispatch → Option Answer

/-- What can be seen of a call that came to its end. -/
structure Account where
  /-- The call. -/
  visit : Visit
  /-- Its requests with their answers, first request first. -/
  letters : List Letter
  /-- What it gave. -/
  result : Except StoreError Unit

/-- Makes a call with the connections that there are. -/
def Visit.make (visit : Visit) (connections : Connections) : Account × Connections :=
  let ((result, connections), letters) :=
    (setProviderIdBy visit.lead connections visit.cluster visit.uuid visit.providerId).play
      visit.react []
  (⟨visit, letters, result⟩, connections)

/-- The request for the secret of a cluster, if it can be sent. -/
def secretRequest? (cluster : ObjectKey) : Option Request :=
  secretKind.getRequest? (some cluster.space) (cluster.name ++ "-kubeconfig")

/-- The request for the nodes of a server. -/
def nodesRequest (uuid : String) : Request where
  method := .get
  path := "/api/v1/nodes"
  query := [("labelSelector", serverUuidLabel ++ "=" ++ uuid)]

/-- The request that gives a node a provider ID, if it can be sent. -/
def stampRequest? (node : Node) (providerId : String) : Option Request :=
  nodeKind.patchRequest? none node.metadata.anyName (nodePatch providerId)

/-- The secret's request is answered in a call. -/
def Account.ReadsSecret (account : Account) (outcome : Except Failure (Dict String (List UInt8))) :
    Prop :=
  ∃ request answer, secretRequest? account.visit.cluster = some request ∧
    ⟨⟨.management, request⟩, answer⟩ ∈ account.letters ∧ received readSecret? answer = outcome

/-- The nodes' request is answered in a call. -/
def Account.ListsNodes (account : Account) (server : String)
    (outcome : Except Failure (List Node)) : Prop :=
  ∃ answer, ⟨⟨.workload server, nodesRequest account.visit.uuid⟩, answer⟩ ∈ account.letters ∧
    received (readItems? Node.read?) answer = outcome

/-- The requests that went to the management cluster. -/
def managementRequests (letters : List Letter) : List Request :=
  letters.filterMap fun letter =>
    match letter.query.destination with
    | .management => some letter.query.request
    | .workload _ => none

/-- The patches that were sent, and where they were sent. -/
def sentPatches (letters : List Letter) : List Dispatch :=
  (letters.map (·.query)).filter fun dispatch => dispatch.request.method = .patch

/-- A patch was answered with the node that it changed. -/
def PatchAccepted (letters : List Letter) : Prop :=
  ∃ letter ∈ letters, letter.query.request.method = .patch ∧
    ∃ changed, received Node.read? letter.answer = .ok changed

namespace Account

/-- A call has a client and uses it to ask for the nodes. -/
def HasClient (account : Account) : Prop := ∃ server outcome, account.ListsNodes server outcome

/-- A call cannot list the nodes. -/
def FailsToList (account : Account) : Prop :=
  ∃ server failure, account.ListsNodes server (.error failure)

end Account

/-! ## How a call gets a client -/

namespace Visit

variable {visit : Visit} {known : Option String}

/-- How a call gets a client, or fails to, if one for a server may be known. -/
inductive Connects (visit : Visit) :
    (known : Option String) → List Letter → Except StoreError String → Prop
  /-- A client is known. -/
  | remembered (server : String) : Connects visit (some server) [] (.ok server)
  /-- The secret cannot be asked for. -/
  | unsendable (unmade : secretRequest? visit.cluster = none) (error : StoreError) :
      Connects visit none [] (.error error)
  /-- The secret was asked for, and nothing came of it. -/
  | misled {request : Request} (made : secretRequest? visit.cluster = some request)
      (answer : Option Answer) (error : StoreError)
      (fails : ∀ data server, received readSecret? answer = .ok data →
        visit.lead (visit.cluster.name ++ "-kubeconfig") data ≠ .ok server) :
      Connects visit none [⟨⟨.management, request⟩, answer⟩] (.error error)
  /-- The secret was asked for, and led to a server. -/
  | led {request : Request} (made : secretRequest? visit.cluster = some request)
      {answer : Option Answer} {data : Dict String (List UInt8)} {server : String}
      (reads : received readSecret? answer = .ok data)
      (leads : visit.lead (visit.cluster.name ++ "-kubeconfig") data = .ok server) :
      Connects visit none [⟨⟨.management, request⟩, answer⟩] (.ok server)

/-- What a call does with a client for a server, and what it hears when it asks for the nodes. -/
inductive Stamps (visit : Visit) (server : String) :
    List Letter → Except StoreError Unit → Except Failure (List Node) → Prop
  /-- The nodes cannot be listed. -/
  | unlisted {answer : Option Answer} {failure : Failure}
      (fails : received (readItems? Node.read?) answer = .error failure) (error : StoreError) :
      Stamps visit server [⟨⟨.workload server, nodesRequest visit.uuid⟩, answer⟩] (.error error)
        (.error failure)
  /-- There is no node, or more than one. -/
  | unclear {answer : Option Answer} {nodes : List Node}
      (lists : received (readItems? Node.read?) answer = .ok nodes)
      (several : ∀ node, nodes ≠ [node]) (error : StoreError) :
      Stamps visit server [⟨⟨.workload server, nodesRequest visit.uuid⟩, answer⟩] (.error error)
        (.ok nodes)
  /-- The node has the provider ID. -/
  | stamped {answer : Option Answer} {node : Node}
      (lists : received (readItems? Node.read?) answer = .ok [node])
      (same : node.providerId = some visit.providerId) :
      Stamps visit server [⟨⟨.workload server, nodesRequest visit.uuid⟩, answer⟩] (.ok ())
        (.ok [node])
  /-- The node cannot be asked to change. -/
  | unsendable {answer : Option Answer} {node : Node}
      (lists : received (readItems? Node.read?) answer = .ok [node])
      (differs : node.providerId ≠ some visit.providerId)
      (unmade : stampRequest? node visit.providerId = none) (error : StoreError) :
      Stamps visit server [⟨⟨.workload server, nodesRequest visit.uuid⟩, answer⟩] (.error error)
        (.ok [node])
  /-- The node is asked to change, and may refuse. -/
  | patched {patch : Request} {answer : Option Answer} {node : Node}
      (lists : received (readItems? Node.read?) answer = .ok [node])
      (differs : node.providerId ≠ some visit.providerId)
      (made : stampRequest? node visit.providerId = some patch)
      (reply : Option Answer) {result : Except StoreError Unit}
      (accepts : result = .ok () ↔ ∃ changed, received Node.read? reply = .ok changed) :
      Stamps visit server [⟨⟨.workload server, nodesRequest visit.uuid⟩, answer⟩,
        ⟨⟨.workload server, patch⟩, reply⟩] result (.ok [node])

/-- How a call goes if a client for a server may be known, and what it hears from which server when
it asks for the nodes, if it does. -/
inductive Goes (visit : Visit) : (known : Option String) → List Letter →
    Except StoreError Unit → (listing : Option (String × Except Failure (List Node))) → Prop
  /-- The call gets no client. -/
  | lost {known : Option String} {letters : List Letter} {error : StoreError}
      (connects : visit.Connects known letters (.error error)) :
      Goes visit known letters (.error error) none
  /-- The call gets a client. -/
  | found {known : Option String} {front back : List Letter} {server : String}
      {result : Except StoreError Unit} {outcome : Except Failure (List Node)}
      (connects : visit.Connects known front (.ok server))
      (stamps : visit.Stamps server back result outcome) :
      Goes visit known (front ++ back) result (some (server, outcome))

end Visit

/-! ## What can be seen of a call -/

namespace Visit

variable {visit : Visit} {known : Option String} {letters : List Letter} {server : String}
  {reply : Except StoreError String} {result : Except StoreError Unit}
  {outcome : Except Failure (List Node)}
  {listing : Option (String × Except Failure (List Node))}

theorem method_secretRequest? {cluster : ObjectKey} {request : Request}
    (made : secretRequest? cluster = some request) : request.method = .get := by
  obtain ⟨path, -, made⟩ := Option.bind_eq_some_iff.1 made
  obtain ⟨target, -, rfl⟩ := Option.map_eq_some_iff.1 made
  rfl

/-- Whatever is asked for a client is read from the management cluster. -/
theorem Connects.reads (connects : visit.Connects known letters reply) :
    ∀ letter ∈ letters,
      letter.query.destination = .management ∧ letter.query.request.method = .get := by
  cases connects with
  | remembered | unsendable => simp
  | misled made | led made => simpa using method_secretRequest? made

theorem Connects.managementRequests_eq (connects : visit.Connects known letters reply) :
    managementRequests letters =
      if known.isSome then [] else (secretRequest? visit.cluster).toList := by
  cases connects with
  | remembered => rfl
  | unsendable unmade => simp [unmade, managementRequests]
  | misled made | led made => simp [made, managementRequests]

theorem Connects.sentPatches_eq (connects : visit.Connects known letters reply) :
    sentPatches letters = [] := by
  simp only [sentPatches, List.filter_eq_nil_iff, List.mem_map]
  rintro _ ⟨letter, member, rfl⟩
  simp [(connects.reads letter member).2]

/-- Whatever is done with a client goes to its server. -/
theorem Stamps.destination (stamps : visit.Stamps server letters result outcome) :
    ∀ letter ∈ letters, letter.query.destination = .workload server := by
  cases stamps <;> simp

theorem isPatch_of_stampRequest? {node : Node} {providerId : String} {request : Request}
    (made : stampRequest? node providerId = some request) :
    request.IsPatch (nodePatch providerId) :=
  isPatch_of_patchRequest? made

/-- The nodes are heard of in a call that asks for them first and sends only patches then. -/
theorem hears_iff_of_patches {uuid other : String} {answer : Option Answer} {back : List Letter}
    {heard : Except Failure (List Node)}
    (patches : ∀ letter ∈ back, letter.query.request.method = .patch) :
    (∃ told, ⟨⟨.workload other, nodesRequest uuid⟩, told⟩ ∈
        (⟨⟨.workload server, nodesRequest uuid⟩, answer⟩ : Letter) :: back ∧
      received (readItems? Node.read?) told = heard) ↔
      server = other ∧ received (readItems? Node.read?) answer = heard := by
  constructor
  · rintro ⟨told, member, hears⟩
    rcases List.mem_cons.1 member with same | behind
    · cases same
      exact ⟨rfl, hears⟩
    · exact nomatch patches _ behind
  · rintro ⟨rfl, hears⟩
    exact ⟨answer, List.mem_cons_self, hears⟩

/-- What is heard of the nodes is heard once. -/
theorem Stamps.hears_iff (stamps : visit.Stamps server letters result outcome) {other : String}
    {heard : Except Failure (List Node)} :
    (∃ answer, ⟨⟨.workload other, nodesRequest visit.uuid⟩, answer⟩ ∈ letters ∧
      received (readItems? Node.read?) answer = heard) ↔ server = other ∧ outcome = heard := by
  cases stamps with
  | unlisted lists | unclear lists | stamped lists | unsendable lists =>
      rw [hears_iff_of_patches (by simp), lists]
  | patched lists differs made =>
      rw [hears_iff_of_patches (by simpa using (isPatch_of_stampRequest? made).method), lists]

/-- A call hears of the nodes what it is said to hear. -/
theorem Goes.listsNodes_iff (goes : visit.Goes known letters result listing) {other : String}
    {heard : Except Failure (List Node)} :
    (Account.mk visit letters result).ListsNodes other heard ↔ listing = some (other, heard) := by
  cases goes with
  | lost connects =>
      simp only [reduceCtorEq, iff_false]
      rintro ⟨answer, member, -⟩
      exact nomatch (connects.reads _ member).1
  | found connects stamps =>
      rw [Option.some.injEq, Prod.mk.injEq, ← stamps.hears_iff]
      constructor
      · rintro ⟨answer, member, hears⟩
        rcases List.mem_append.1 member with before | behind
        · exact nomatch (connects.reads _ before).1
        · exact ⟨answer, behind, hears⟩
      · rintro ⟨answer, member, hears⟩
        exact ⟨answer, List.mem_append_right _ member, hears⟩

theorem Stamps.managementRequests_eq (stamps : visit.Stamps server letters result outcome) :
    managementRequests letters = [] := by
  simp only [managementRequests, List.filterMap_eq_nil_iff]
  intro letter member
  rw [stamps.destination letter member]

/-- The secret is asked for exactly if no client is known, and the request can be sent. -/
theorem Goes.managementRequests_eq (goes : visit.Goes known letters result listing) :
    managementRequests letters =
      if known.isSome then [] else (secretRequest? visit.cluster).toList := by
  cases goes with
  | lost connects => exact connects.managementRequests_eq
  | found connects stamps =>
      rw [← connects.managementRequests_eq, managementRequests, List.filterMap_append]
      exact (congrArg _ stamps.managementRequests_eq).trans (List.append_nil _)

/-- The only node is patched if it has another provider ID, and the patch can be sent. -/
theorem Stamps.sentPatches_eq (stamps : visit.Stamps server letters result outcome) :
    (∀ node, outcome = .ok [node] → node.providerId ≠ some visit.providerId →
      sentPatches letters =
        ((stampRequest? node visit.providerId).map (⟨.workload server, ·⟩)).toList) ∧
    ((∀ node, outcome = .ok [node] → node.providerId = some visit.providerId) →
      sentPatches letters = []) := by
  cases stamps with
  | unlisted => exact ⟨fun _ same => (nomatch same), fun _ => rfl⟩
  | unclear lists several =>
      exact ⟨fun node same => absurd (Except.ok.inj same) (several node), fun _ => rfl⟩
  | stamped lists stamped =>
      refine ⟨?_, fun _ => rfl⟩
      rintro _ ⟨⟩ differs
      exact absurd stamped differs
  | unsendable lists differs unmade =>
      refine ⟨?_, fun same => absurd (same _ rfl) differs⟩
      rintro _ ⟨⟩ -
      rw [unmade]
      rfl
  | patched lists differs made =>
      refine ⟨?_, fun same => absurd (same _ rfl) differs⟩
      rintro _ ⟨⟩ -
      simp [made, sentPatches, (isPatch_of_stampRequest? made).method, nodesRequest]

/-- A call succeeds with a client if there is one node that has the provider ID, or takes it. -/
theorem Stamps.ok_iff (stamps : visit.Stamps server letters result outcome) :
    result = .ok () ↔ ∃ node, outcome = .ok [node] ∧
      (node.providerId = some visit.providerId ∨ PatchAccepted letters) := by
  cases stamps with
  | unlisted => simp
  | unclear lists several => simp [several]
  | stamped lists same => simp [same]
  | unsendable lists differs unmade => simp [differs, PatchAccepted, nodesRequest]
  | patched lists differs made reply accepts =>
      simp [differs, PatchAccepted, nodesRequest, accepts, (isPatch_of_stampRequest? made).method]

theorem Goes.sentPatches_eq (goes : visit.Goes known letters result listing) :
    (∀ server node, listing = some (server, .ok [node]) →
      node.providerId ≠ some visit.providerId → sentPatches letters =
        ((stampRequest? node visit.providerId).map (⟨.workload server, ·⟩)).toList) ∧
    ((∀ server node, listing = some (server, .ok [node]) →
      node.providerId = some visit.providerId) → sentPatches letters = []) := by
  cases goes with
  | lost connects => exact ⟨fun _ _ same => (nomatch same), fun _ => connects.sentPatches_eq⟩
  | found connects stamps =>
      obtain ⟨patches, leaves⟩ := stamps.sentPatches_eq
      have behind : ∀ front back : List Letter,
          sentPatches (front ++ back) = sentPatches front ++ sentPatches back := by
        simp [sentPatches]
      rw [behind, connects.sentPatches_eq, List.nil_append]
      constructor
      · rintro _ node ⟨⟩ differs
        exact patches node rfl differs
      · intro same
        apply leaves
        rintro node rfl
        exact same _ node rfl

theorem Connects.patchAccepted_append_iff (connects : visit.Connects known letters reply)
    (back : List Letter) : PatchAccepted (letters ++ back) ↔ PatchAccepted back := by
  constructor
  · rintro ⟨letter, member, method, accepted⟩
    rcases List.mem_append.1 member with before | behind
    · exact nomatch (connects.reads letter before).2.symm.trans method
    · exact ⟨letter, behind, method, accepted⟩
  · rintro ⟨letter, member, patched⟩
    exact ⟨letter, List.mem_append_right _ member, patched⟩

theorem Goes.ok_iff (goes : visit.Goes known letters result listing) :
    result = .ok () ↔ ∃ server node, listing = some (server, .ok [node]) ∧
      (node.providerId = some visit.providerId ∨ PatchAccepted letters) := by
  cases goes with
  | lost connects => simp
  | found connects stamps =>
      rw [stamps.ok_iff, connects.patchAccepted_append_iff]
      constructor
      · rintro ⟨node, rfl, fine⟩
        exact ⟨_, node, rfl, fine⟩
      · rintro ⟨_, node, ⟨⟩, fine⟩
        exact ⟨node, rfl, fine⟩

theorem Goes.hasClient_iff_isSome (goes : visit.Goes known letters result listing) :
    (Account.mk visit letters result).HasClient ↔ listing.isSome = true := by
  simp only [Account.HasClient, goes.listsNodes_iff]
  match listing with
  | none => simp
  | some (server, outcome) => simp

/-- A call has a client if one is known, or else if the secret leads to one. -/
theorem Goes.hasClient_iff (goes : visit.Goes known letters result listing) :
    (Account.mk visit letters result).HasClient ↔ known.isSome ∨ ∃ data server,
      (Account.mk visit letters result).ReadsSecret (.ok data) ∧
        visit.lead (visit.cluster.name ++ "-kubeconfig") data = .ok server := by
  rw [goes.hasClient_iff_isSome]
  cases goes with
  | lost connects =>
      simp only [Option.isSome_none, Bool.false_eq_true, false_iff]
      cases connects with
      | unsendable unmade =>
          rintro (impossible | ⟨data, server, ⟨request, answer, made, -⟩, -⟩)
          · exact nomatch impossible
          · simp [unmade] at made
      | misled made answer error fails =>
          rintro (impossible | ⟨data, server, ⟨request, told, -, member, reads⟩, leads⟩)
          · exact nomatch impossible
          · cases List.mem_singleton.1 member
            exact fails data server reads leads
  | found connects stamps =>
      simp only [Option.isSome_some, true_iff]
      cases connects with
      | remembered => exact .inl rfl
      | led made reads leads =>
          exact .inr ⟨_, _, ⟨_, _, made, List.mem_append_left _ List.mem_cons_self, reads⟩, leads⟩

end Visit

/-! ## Calls in a row -/

/-- A call on a cluster left its client to those that come after it: it had one, and no call on the
cluster failed to list the nodes since. -/
def RemembersClient (accounts : List Account) (cluster : ObjectKey) : Prop :=
  Since (fun _ account => account.visit.cluster = cluster ∧ account.HasClient ∧
      ¬account.FailsToList)
    (fun account => account.visit.cluster = cluster ∧ account.FailsToList) accounts

/-- Calls on other clusters make no difference to what is left for a cluster. -/
theorem remembersClient_filter_iff (accounts : List Account) (cluster : ObjectKey) :
    RemembersClient (accounts.filter fun account => account.visit.cluster = cluster) cluster ↔
      RemembersClient accounts cluster := by
  induction accounts using List.reverseRecOn with
  | nil => rfl
  | append_singleton accounts account ih =>
      rw [List.filter_append]
      by_cases own : account.visit.cluster = cluster
      · have kept : [account].filter (fun account => account.visit.cluster = cluster) =
            [account] := by simp [own]
        rw [kept, RemembersClient, RemembersClient, since_append_singleton,
          since_append_singleton, ← RemembersClient, ← RemembersClient, ih]
      · have dropped : [account].filter (fun account => account.visit.cluster = cluster) = [] := by
          simp [own]
        rw [dropped, List.append_nil, ih, RemembersClient, RemembersClient,
          since_append_singleton]
        simp [own]

/-- The path of the secret of a cluster. -/
def secretPath (cluster : ObjectKey) : String :=
  "/api/v1/namespaces/" ++ cluster.space ++ "/secrets/" ++ (cluster.name ++ "-kubeconfig")

/-- The path of a node. -/
def nodePath (node : Node) : String := "/api/v1/nodes/" ++ node.metadata.anyName

theorem secretRequest?_of_isPath {cluster : ObjectKey} (isPath : Url.IsPath (secretPath cluster)) :
    secretRequest? cluster = some { method := .get, path := secretPath cluster } := by
  have named : cluster.name ++ "-kubeconfig" ≠ "" := by simp
  have same : secretKind.path (some cluster.space) (cluster.name ++ "-kubeconfig") =
      secretPath cluster := by
    rw [Kind.path_some]
    rfl
  rw [← same] at isPath ⊢
  exact Kind.getRequest?_of_isPath named isPath

theorem stampRequest?_of_isPath {node : Node} (named : node.metadata.anyName ≠ "")
    (isPath : Url.IsPath (nodePath node)) (providerId : String) :
    stampRequest? node providerId = some {
      method := .patch
      path := nodePath node
      content := some (.mergePatch (nodePatch providerId)) } := by
  have same : nodeKind.path none node.metadata.anyName ++ "" = nodePath node := String.append_empty
  rw [← same] at isPath ⊢
  exact Kind.patchRequest?_of_isPath named isPath (nodePatch providerId)

/-- What can be seen of a call that comes after others. -/
structure Account.Follows (account : Account) (earlier : List Account) : Prop where
  /-- The secret is left alone if an earlier call left a client. -/
  spares : RemembersClient earlier account.visit.cluster → managementRequests account.letters = []
  /-- Otherwise it is read, if the request can be made. -/
  asks : ¬RemembersClient earlier account.visit.cluster →
    managementRequests account.letters = (secretRequest? account.visit.cluster).toList
  /-- It is read under its path, if that is one. -/
  asks_at : ¬RemembersClient earlier account.visit.cluster →
    Url.IsPath (secretPath account.visit.cluster) →
    managementRequests account.letters =
      [{ method := .get, path := secretPath account.visit.cluster }]
  /-- Earlier calls on other clusters make no difference. -/
  apart : RemembersClient (earlier.filter fun other => other.visit.cluster = account.visit.cluster)
    account.visit.cluster ↔ RemembersClient earlier account.visit.cluster
  /-- There is a client if one was left, or else if the secret leads to one. -/
  hasClient_iff : account.HasClient ↔
    RemembersClient earlier account.visit.cluster ∨ ∃ data server,
      account.ReadsSecret (.ok data) ∧
        account.visit.lead (account.visit.cluster.name ++ "-kubeconfig") data = .ok server
  /-- The only node is patched if it has another provider ID, and the request can be made. -/
  patches : ∀ server node, account.ListsNodes server (.ok [node]) →
    node.providerId ≠ some account.visit.providerId → sentPatches account.letters =
      ((stampRequest? node account.visit.providerId).map (⟨.workload server, ·⟩)).toList
  /-- It is patched under its path, if that is one. -/
  patches_at : ∀ server node, account.ListsNodes server (.ok [node]) →
    node.providerId ≠ some account.visit.providerId → node.metadata.anyName ≠ "" →
    Url.IsPath (nodePath node) → sentPatches account.letters = [⟨.workload server, {
      method := .patch
      path := nodePath node
      content := some (.mergePatch (nodePatch account.visit.providerId)) }⟩]
  /-- Nothing else is patched. -/
  leaves : (∀ server node, account.ListsNodes server (.ok [node]) →
    node.providerId = some account.visit.providerId) → sentPatches account.letters = []
  /-- The call succeeds if the only node has the provider ID, or takes it. -/
  ok_iff : account.result = .ok () ↔ ∃ server node, account.ListsNodes server (.ok [node]) ∧
    (node.providerId = some account.visit.providerId ∨ PatchAccepted account.letters)

section

variable {visit : Visit} {known : Option String} {letters : List Letter}
  {result : Except StoreError Unit} {listing : Option (String × Except Failure (List Node))}

/-- A call that goes as it should, with the client that earlier calls left, follows them. -/
theorem Visit.Goes.follows (goes : visit.Goes known letters result listing)
    {earlier : List Account} (left : known.isSome ↔ RemembersClient earlier visit.cluster) :
    (Account.mk visit letters result).Follows earlier := by
  have asked := goes.managementRequests_eq
  obtain ⟨patches, leaves⟩ := goes.sentPatches_eq
  simp only [← goes.listsNodes_iff] at patches leaves
  have asks : ¬RemembersClient earlier visit.cluster →
      managementRequests letters = (secretRequest? visit.cluster).toList := by
    intro forgotten
    rwa [if_neg (mt left.1 forgotten)] at asked
  constructor
  case spares =>
    intro remembered
    rwa [if_pos (left.2 remembered)] at asked
  case asks => exact asks
  case asks_at =>
    intro forgotten isPath
    rw [asks forgotten, secretRequest?_of_isPath isPath]
    rfl
  case apart => exact remembersClient_filter_iff earlier visit.cluster
  case hasClient_iff =>
    rw [← left]
    exact goes.hasClient_iff
  case patches => exact patches
  case patches_at =>
    intro server node lists differs named isPath
    rw [patches server node lists differs, stampRequest?_of_isPath named isPath]
    rfl
  case leaves => exact leaves
  case ok_iff =>
    simp only [goes.listsNodes_iff]
    exact goes.ok_iff

end

end Api

end BareMetal
