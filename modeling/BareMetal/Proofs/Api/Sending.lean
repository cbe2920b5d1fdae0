import BareMetal.Api.Store
import BareMetal.Proofs.Api.Paths
import BareMetal.Proofs.Program.Heeds

/-!
# What calls to the store send

A call that changes an object sends one merge patch to the object's own path, or to that of its
status, whatever it is answered.  It sends nothing at all if the name of the object can stand in no
path.
-/

namespace BareMetal.Api

/-! ## Patches -/

/-- A request changes what it is sent to by a merge patch. -/
structure Request.IsPatch (patch : Json) (request : Request) : Prop where
  /-- It asks for a change. -/
  method : request.method = .patch
  /-- The patch is what it sends along. -/
  content : request.content = some (.mergePatch patch)

theorem isPatch_of_patchRequest? {kind : Kind} {space : Option String} {name part : String}
    {patch : Json} {request : Request}
    (made : kind.patchRequest? space name patch part = some request) : request.IsPatch patch := by
  obtain ⟨path, -, made⟩ := Option.bind_eq_some_iff.1 made
  obtain ⟨target, -, rfl⟩ := Option.map_eq_some_iff.1 made
  exact ⟨rfl, rfl⟩

/-! ## Exchanges that send them -/

/-- How a server answers a request after others. -/
abbrev Reaction := List (Told Request fun _ => Option Answer) → Request → Option Answer

namespace Exchange

variable {α β : Type} {react : Reaction}

/-- The requests that an exchange sends, first request first. -/
def sent (exchange : Exchange α) (react : Reaction) : List Request :=
  (exchange.play react []).2.map Told.query

theorem sent_send (request? : Option Request) (read : Json → Option α) :
    (send request? read).sent react = request?.toList := by
  cases request? <;> rfl

/-- What becomes of the value of an exchange makes no difference to what it sends. -/
theorem sent_bind_pure (exchange : Exchange β) (f : β → α) :
    sent (exchange >>= fun value => pure (f value)) react = exchange.sent react := by
  rw [sent, Program.play_bind]
  rfl

/-- An exchange changes an object by a merge patch that goes to a path. -/
structure Patches (exchange : Exchange α) (request? : Option Request) (name path : String)
    (patch : Json) : Prop where
  /-- Whatever it is answered, it sends the request once and nothing else, or nothing at all if the
  request cannot be made. -/
  sends : ∀ react, exchange.sent react = request?.toList
  /-- The request carries the patch. -/
  isPatch : ∀ request ∈ request?, request.IsPatch patch
  /-- It is made for the path, if the object has a name and the path is one. -/
  sends_at : name ≠ "" → Url.IsPath path → ∀ react, exchange.sent react =
    [{ method := .patch, path := path, content := some (.mergePatch patch) }]

end Exchange

/-- A change of an object sends the patch that it was made with to the object's path, or to that of
a part of it. -/
theorem patches_patchObject {α : Type} [Resource α] (space : Option String)
    (name what : String) (patch : Json) (part : String) :
    (patchObject (α := α) space name what patch part).Patches
      ((Resource.kind α).patchRequest? space name patch part) name
      ((Resource.kind α).path space name ++ part) patch := by
  have sends : ∀ react, (patchObject (α := α) space name what patch part).sent react =
      ((Resource.kind α).patchRequest? space name patch part).toList :=
    fun _ => (Exchange.sent_bind_pure _ _).trans (Exchange.sent_send _ _)
  refine ⟨sends, fun request made => isPatch_of_patchRequest? made, fun named isPath react => ?_⟩
  rw [sends react, Kind.patchRequest?_of_isPath named isPath]
  rfl

theorem Exchange.Patches.discarding {α : Type} {exchange : Exchange (Except StoreError α)}
    {request? : Option Request} {name path : String} {patch : Json}
    (patches : exchange.Patches request? name path patch) :
    (Api.discarding exchange).Patches request? name path patch where
  sends react := (sent_bind_pure _ _).trans (patches.sends react)
  isPatch := patches.isPatch
  sends_at named isPath react :=
    (sent_bind_pure _ _).trans (patches.sends_at named isPath react)

/-! ## Calls that change an object -/

/-- The path of a metal machine. -/
def machinePath (key : ObjectKey) : String :=
  "/apis/infrastructure.cluster.x-k8s.io/v1alpha3/namespaces/" ++ key.space ++ "/metalmachines/" ++
    key.name

/-- The path of a binding. -/
def bindingPath (name : String) : String :=
  "/apis/infrastructure.cluster.x-k8s.io/v1alpha3/serverbindings/" ++ name

/-- The path of a class. -/
def classPath (name : String) : String :=
  "/apis/metal.dcops.microscaler.io/v1alpha1/serverclasses/" ++ name

theorem patches_patchMachine (key : ObjectKey) (patch : Json) (part : String) :
    (patchMachine key patch part).Patches
      (MetalMachine.kind.patchRequest? (some key.space) key.name patch part) key.name
      (machinePath key ++ part) patch := by
  have same : MetalMachine.kind.path (some key.space) key.name = machinePath key := by
    rw [Kind.path_some]
    rfl
  rw [← same]
  exact patches_patchObject _ _ _ _ _

theorem patches_patchByName (α : Type) [Resource α] (name : String) (patch : Json)
    (part : String) :
    (patchByName α name patch part).Patches ((Resource.kind α).patchRequest? none name patch part)
      name ((Resource.kind α).path none name ++ part) patch :=
  (patches_patchObject _ _ _ _ _).discarding

/-- A change of a machine goes to the machine itself. -/
theorem patches_updateMetalMachine (space : Option String) (machine : MetalMachine) :
    (perform space (.updateMetalMachine machine)).Patches
      (MetalMachine.kind.patchRequest? (some machine.key.space) machine.key.name
        (machinePatch machine))
      machine.key.name (machinePath machine.key) (machinePatch machine) := by
  have patches := patches_patchMachine machine.key (machinePatch machine) ""
  rw [String.append_empty] at patches
  exact patches

/-- A change of a filter goes to the class itself. -/
theorem patches_updateServerClassSpec (space : Option String) (name : String)
    (spec : ServerClassSpec) :
    (perform space (.updateServerClassSpec name spec)).Patches
      (ServerClass.kind.patchRequest? none name (classSpecPatch spec)) name (classPath name)
      (classSpecPatch spec) := by
  have patches := patches_patchByName ServerClass name (classSpecPatch spec) ""
  rw [String.append_empty] at patches
  exact patches

end BareMetal.Api
