import BareMetal.Proofs.Object.Selector
import BareMetal.Proofs.Qualification
import BareMetal.Proofs.Text.Octets

/-!
# What qualification selects

Whether a server is a member of a class is told from the texts of the class alone.  Qualification
fails exactly with the first requirement of the class's selector that is not well formed.  Otherwise
it gives the members, as often as they were given, in the order of their names; members of one name
stay in the order in which they were given.
-/

namespace BareMetal

/-! ## Members of a class -/

/-- Processor information has all that is wanted of it; an empty text wants nothing. -/
structure CpuInformation.Has (wanted actual : CpuInformation) : Prop where
  manufacturer : wanted.manufacturer = "" ∨ wanted.manufacturer = actual.manufacturer
  version : wanted.version = "" ∨ wanted.version = actual.version

/-- System information has all that is wanted of it; an empty text wants nothing. -/
structure SystemInformation.Has (wanted actual : SystemInformation) : Prop where
  manufacturer : wanted.manufacturer = "" ∨ wanted.manufacturer = actual.manufacturer
  productName : wanted.productName = "" ∨ wanted.productName = actual.productName
  version : wanted.version = "" ∨ wanted.version = actual.version
  serialNumber : wanted.serialNumber = "" ∨ wanted.serialNumber = actual.serialNumber
  skuNumber : wanted.skuNumber = "" ∨ wanted.skuNumber = actual.skuNumber
  family : wanted.family = "" ∨ wanted.family = actual.family

/-- A server is as one entry of each list of qualifiers says; a list without entries says
nothing. -/
structure Server.Satisfies (server : Server) (qualifiers : Qualifiers) : Prop where
  /-- The server reports a processor that is wanted. -/
  cpu : qualifiers.cpu = [] ∨
    ∃ wanted ∈ qualifiers.cpu, ∃ actual, server.spec.cpu = some actual ∧ wanted.Has actual
  /-- The server reports a system that is wanted. -/
  systemInformation : qualifiers.systemInformation = [] ∨
    ∃ wanted ∈ qualifiers.systemInformation, ∃ actual,
      server.spec.systemInformation = some actual ∧ wanted.Has actual
  /-- The server has a label that is wanted, with its value. -/
  labels : qualifiers.labelSelectors = [] ∨
    ∃ wanted ∈ qualifiers.labelSelectors, ∃ key value,
      wanted.get? key = some value ∧ server.labels.get? key = some value

/-- A server belongs to a class. -/
structure Server.IsMember (server : Server) (serverClass : ServerClassSpec) : Prop where
  /-- The operator approved it. -/
  accepted : server.spec.accepted = true
  /-- The operator did not set it aside. -/
  uncordoned : server.spec.cordoned = false
  /-- Its labels are as the class's selector asks for. -/
  selected : ∀ selector, serverClass.selector = some selector → selector.Holds server.labels
  /-- It is as the class's qualifiers say. -/
  qualified : server.Satisfies serverClass.qualifiers

theorem fieldFits_iff {wanted actual : String} :
    fieldFits wanted actual = true ↔ wanted = "" ∨ wanted = actual := by
  simp [fieldFits]

theorem CpuInformation.fits_iff {wanted actual : CpuInformation} :
    wanted.fits actual = true ↔ wanted.Has actual := by
  simp only [fits, Bool.and_eq_true_iff, fieldFits_iff]
  exact ⟨fun ⟨manufacturer, version⟩ => ⟨manufacturer, version⟩,
    fun ⟨manufacturer, version⟩ => ⟨manufacturer, version⟩⟩

theorem SystemInformation.fits_iff {wanted actual : SystemInformation} :
    wanted.fits actual = true ↔ wanted.Has actual := by
  simp only [fits, Bool.and_eq_true_iff, fieldFits_iff]
  constructor
  · rintro ⟨⟨⟨⟨⟨manufacturer, productName⟩, version⟩, serialNumber⟩, skuNumber⟩, family⟩
    exact ⟨manufacturer, productName, version, serialNumber, skuNumber, family⟩
  · rintro ⟨manufacturer, productName, version, serialNumber, skuNumber, family⟩
    exact ⟨⟨⟨⟨⟨manufacturer, productName⟩, version⟩, serialNumber⟩, skuNumber⟩, family⟩

theorem fitsOneOf_iff {α : Type} {fits : α → α → Bool} {criteria : List α} {actual : Option α} :
    fitsOneOf fits criteria actual = true ↔
      criteria = [] ∨ ∃ wanted ∈ criteria, ∃ given, actual = some given ∧
        fits wanted given = true := by
  rw [fitsOneOf, Bool.or_eq_true_iff, List.isEmpty_iff, Option.any_eq_true]
  simp only [List.any_eq_true]
  refine or_congr_right ⟨?_, ?_⟩
  · rintro ⟨given, reported, wanted, among, fit⟩
    exact ⟨wanted, among, given, reported, fit⟩
  · rintro ⟨wanted, among, given, reported, fit⟩
    exact ⟨given, reported, wanted, among, fit⟩

theorem hasOnePairOf_iff {selectors : List Labels} {labels : Labels} :
    hasOnePairOf selectors labels = true ↔
      selectors = [] ∨ ∃ wanted ∈ selectors, ∃ key value,
        wanted.get? key = some value ∧ labels.get? key = some value := by
  rw [hasOnePairOf, Bool.or_eq_true_iff, List.isEmpty_iff, List.any_eq_true]
  simp only [List.any_eq_true, Prod.exists, beq_iff_eq, Dict.get?_eq_some_iff]

theorem Server.passes_iff {server : Server} {qualifiers : Qualifiers} :
    server.passes qualifiers = true ↔ server.Satisfies qualifiers := by
  simp only [passes, Bool.and_eq_true_iff, fitsOneOf_iff, hasOnePairOf_iff,
    CpuInformation.fits_iff, SystemInformation.fits_iff]
  exact ⟨fun ⟨⟨cpu, system⟩, labels⟩ => ⟨cpu, system, labels⟩,
    fun ⟨cpu, system, labels⟩ => ⟨⟨cpu, system⟩, labels⟩⟩

variable {serverClass : ServerClassSpec} {server : Server}

theorem Server.belongs_eq (formed : serverClass.IsWellFormed) (server : Server) :
    server.belongs serverClass = (server.spec.accepted && !server.spec.cordoned &&
      serverClass.selector.all (Selector.accepts · server.labels) &&
        server.passes serverClass.qualifiers) := by
  rw [belongs, qualifies]
  cases accepted : server.spec.accepted <;> cases cordoned : server.spec.cordoned
  case true.false =>
    cases selected : serverClass.selector with
    | none => simp
    | some selector => simp [Selector.matches?, formed selector selected]
  all_goals simp

/-- With a well-formed selector the servers that belong to a class are its members. -/
theorem Server.belongs_iff (formed : serverClass.IsWellFormed) :
    server.belongs serverClass = true ↔ server.IsMember serverClass := by
  rw [belongs_eq formed]
  simp only [Bool.and_eq_true_iff, Bool.not_eq_true', Option.all_eq_true, passes_iff]
  constructor
  · rintro ⟨⟨⟨accepted, uncordoned⟩, selected⟩, qualified⟩
    refine ⟨accepted, uncordoned, fun selector asked => ?_, qualified⟩
    exact (Selector.accepts_iff (formed selector asked)).1 (selected selector asked)
  · rintro ⟨accepted, uncordoned, selected, qualified⟩
    refine ⟨⟨⟨accepted, uncordoned⟩, fun selector asked => ?_⟩, qualified⟩
    exact (Selector.accepts_iff (formed selector asked)).2 (selected selector asked)

/-! ## Malformed selectors -/

/-- The selector of a class has a requirement that is not well formed; the first one has this
fault. -/
def ServerClassSpec.FirstFault (serverClass : ServerClassSpec) (fault : SelectorFault) : Prop :=
  ∃ selector, serverClass.selector = some selector ∧ selector.FirstFault fault

theorem qualifiedServers_eq_error_iff {servers : List Server} {fault : SelectorFault} :
    qualifiedServers serverClass servers = .error fault ↔ serverClass.FirstFault fault := by
  constructor
  · intro failed
    by_cases formed : serverClass.IsWellFormed
    · exact nomatch (qualifiedServers_eq formed servers).symm.trans failed
    · obtain ⟨selector, malformed⟩ := not_forall.1 formed
      obtain ⟨selected, malformed⟩ := Classical.not_imp.1 malformed
      obtain ⟨first, faulty⟩ := Option.ne_none_iff_exists'.1 malformed
      have told := (qualifiedServers_of_malformed selected faulty servers).symm.trans failed
      cases told
      exact ⟨selector, selected, Selector.fault?_eq_some_iff.1 faulty⟩
  · rintro ⟨selector, selected, first⟩
    exact qualifiedServers_of_malformed selected (Selector.fault?_eq_some_iff.2 first) servers

example : qualifiedServers
    { selector := some { matchExpressions :=
        [⟨"rack", "In", ["a"]⟩, ⟨"", "Exists", []⟩, ⟨"row", "Gt", ["4"]⟩] } } [] =
      .error (.invalidRequirement ⟨"", "Exists", []⟩) := rfl

theorem ServerClassSpec.FirstFault.unique {fault other : SelectorFault}
    (first : serverClass.FirstFault fault) (first_other : serverClass.FirstFault other) :
    fault = other :=
  Except.error.inj ((qualifiedServers_eq_error_iff.2 first).symm.trans
    (qualifiedServers_eq_error_iff.2 first_other : qualifiedServers serverClass [] = _))

theorem ServerClassSpec.isWellFormed_iff : serverClass.IsWellFormed ↔
    ∀ fault, ¬serverClass.FirstFault fault := by
  simp only [IsWellFormed, FirstFault, not_exists, not_and, ← Selector.fault?_eq_some_iff,
    Option.eq_none_iff_forall_ne_some]
  exact ⟨fun formed fault selector selected => formed selector selected fault,
    fun formed selector selected fault => formed fault selector selected⟩

/-! ## The order of names -/

/-- A server may stand before another: it has no name, or the octets of its name do not come after
those of the other's. -/
def Server.ByName (earlier later : Server) : Prop :=
  ∀ name, earlier.metadata.name = some name →
    ∃ other, later.metadata.name = some other ∧ Text.octets name ≤ Text.octets other

theorem Server.inNameOrder_iff {earlier later : Server} :
    earlier.inNameOrder later = true ↔ earlier.ByName later := by
  unfold inNameOrder ByName
  cases earlier.metadata.name <;> cases later.metadata.name <;> simp [Text.octets_le_iff]

theorem Server.ByName.name_eq {first second : Server} (front : first.ByName second)
    (back : second.ByName first) : first.metadata.name = second.metadata.name := by
  cases named : first.metadata.name with
  | none =>
      refine (Option.eq_none_iff_forall_ne_some.2 fun name other_named => ?_).symm
      obtain ⟨_, is_named, _⟩ := back name other_named
      exact nomatch named.symm.trans is_named
  | some name =>
      obtain ⟨other, other_named, before⟩ := front name named
      obtain ⟨again, is_named, after⟩ := back other other_named
      obtain rfl : name = again := Option.some_inj.1 (named.symm.trans is_named)
      have equal := Std.le_antisymm (Text.octets_le_iff.1 before) (Text.octets_le_iff.1 after)
      rw [other_named, equal]

/-- A list in the order of its names, as a stable sort of another list gives it. -/
structure IsStableSort (input output : List Server) : Prop where
  /-- Nothing is lost and nothing comes in. -/
  perm : output.Perm input
  /-- No server stands before one that has to come earlier. -/
  ordered : output.Pairwise Server.ByName
  /-- Servers of one name, or of none, keep their order. -/
  stable : ∀ name, output.filter (·.metadata.name = name) = input.filter (·.metadata.name = name)

theorem isStableSort_mergeSort (servers : List Server) :
    IsStableSort servers (servers.mergeSort Server.inNameOrder) where
  perm := List.mergeSort_perm servers _
  ordered := (pairwise_mergeSort_inNameOrder servers).imp Server.inNameOrder_iff.1
  stable name := by
    -- Servers of one name are in order as they come, so that sorting finds them as they are.
    have alike : (servers.filter (·.metadata.name = name)).Pairwise fun earlier later =>
        earlier.inNameOrder later = true := by
      refine List.pairwise_of_forall_mem_list fun earlier front later back => ?_
      have same : earlier.metadata.name = later.metadata.name := by
        simp only [List.mem_filter, decide_eq_true_eq] at front back
        exact front.2.trans back.2.symm
      unfold Server.inNameOrder
      rw [same]
      cases later.metadata.name <;> simp
    have kept := (List.sublist_mergeSort Server.inNameOrder_trans Server.inNameOrder_total alike
      List.filter_sublist).filter (·.metadata.name = name)
    rw [List.filter_filter] at kept
    simp only [Bool.and_self] at kept
    have lengths := ((List.mergeSort_perm servers Server.inNameOrder).filter
      (·.metadata.name = name)).length_eq
    exact (kept.eq_of_length lengths.symm).symm

/-- Servers of different names have one order. -/
theorem IsStableSort.unique {servers others sorted resorted : List Server}
    (sorts : IsStableSort servers sorted) (resorts : IsStableSort others resorted)
    (distinct : (servers.map (·.metadata.name)).Nodup) (same : servers.Perm others) :
    sorted = resorted := by
  have alike : sorted.Perm resorted := sorts.perm.trans (same.trans resorts.perm.symm)
  refine alike.eq_of_pairwise ?_ sorts.ordered resorts.ordered
  intro first second among among' front back
  have first_mem : first ∈ servers := sorts.perm.mem_iff.1 among
  have second_mem : second ∈ servers := same.mem_iff.2 (resorts.perm.mem_iff.1 among')
  exact List.inj_on_of_nodup_map distinct first_mem second_mem (front.name_eq back)

/-! ## What is selected -/

/-- What it means that a function selects a class's members from lists of servers. -/
structure Selects (serverClass : ServerClassSpec)
    (select : List Server → Except SelectorFault (List Server)) : Prop where
  /-- It fails exactly if a requirement of the class's selector is not well formed, whatever the
  servers are. -/
  fails_iff : ∀ servers, (∃ fault, select servers = .error fault) ↔
    ∃ selector, serverClass.selector = some selector ∧
      ∃ requirement ∈ selector.matchExpressions, ¬requirement.IsWellFormed
  /-- The fault that it tells of is that of the first such requirement. -/
  tells : ∀ servers fault, select servers = .error fault → serverClass.FirstFault fault
  /-- Otherwise it sorts the members by name, and members of one name stay in order. -/
  gives : ∀ servers selected, select servers = .ok selected → ∃ isMember : Server → Bool,
    (∀ server, isMember server = true ↔ server.IsMember serverClass) ∧
      IsStableSort (servers.filter isMember) selected
  /-- If the names differ, the order of the servers does not matter. -/
  order_free : ∀ servers others, (servers.map (·.metadata.name)).Nodup → servers.Perm others →
    select servers = select others

theorem ServerClassSpec.exists_firstFault_iff : (∃ fault, serverClass.FirstFault fault) ↔
    ∃ selector, serverClass.selector = some selector ∧
      ∃ requirement ∈ selector.matchExpressions, ¬requirement.IsWellFormed := by
  rw [← not_iff_not, not_exists, ← isWellFormed_iff]
  simp only [IsWellFormed, Selector.fault?_eq_none_iff, not_exists, not_and, not_not]

theorem isStableSort_of_qualifiedServers {servers selected : List Server}
    (given : qualifiedServers serverClass servers = .ok selected) :
    serverClass.IsWellFormed ∧
      IsStableSort (servers.filter (Server.belongs serverClass)) selected := by
  have formed : serverClass.IsWellFormed :=
    ServerClassSpec.isWellFormed_iff.2 fun fault first =>
      nomatch given.symm.trans (qualifiedServers_eq_error_iff.2 first)
  rw [qualifiedServers_eq formed] at given
  cases given
  exact ⟨formed, isStableSort_mergeSort _⟩

/-- Qualification selects the members of a class. -/
theorem qualifiedServers_selects (serverClass : ServerClassSpec) :
    Selects serverClass (qualifiedServers serverClass) where
  fails_iff servers := by
    simp only [qualifiedServers_eq_error_iff]
    exact ServerClassSpec.exists_firstFault_iff
  tells servers fault failed := qualifiedServers_eq_error_iff.1 failed
  gives servers selected given := by
    obtain ⟨formed, sorts⟩ := isStableSort_of_qualifiedServers given
    exact ⟨Server.belongs serverClass, fun server => Server.belongs_iff formed, sorts⟩
  order_free servers others distinct same := by
    cases given : qualifiedServers serverClass servers with
    | error fault =>
        exact (qualifiedServers_eq_error_iff.2 (qualifiedServers_eq_error_iff.1 given)).symm
    | ok selected =>
        obtain ⟨formed, sorts⟩ := isStableSort_of_qualifiedServers given
        have regiven := qualifiedServers_eq formed others
        obtain ⟨_, resorts⟩ := isStableSort_of_qualifiedServers regiven
        have distinct_members := distinct.sublist
          ((List.filter_sublist (p := Server.belongs serverClass)).map (·.metadata.name))
        rw [regiven, sorts.unique resorts distinct_members (same.filter _)]

end BareMetal
