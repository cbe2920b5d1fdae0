import BareMetal.Proofs.Selection
import Mathlib.Data.List.Forall2
import Mathlib.Logic.Relation
import Mathlib.Order.Defs.Unbundled

/-!
# Classes that ask for less

A criterion that fits another one asks for no more than it, and this is a partial order.  A class
is loosened by taking its selector away, by putting criteria that ask for less in the place of
others, by adding entries to lists that have some, and by emptying lists.  However often a class is
loosened, the servers that belong to it stay in it.
-/

namespace BareMetal

/-! ## Criteria that fit one another -/

section

variable {first second third left right : String}

theorem wants_trans (front : first = "" ∨ first = second) (back : second = "" ∨ second = third) :
    first = "" ∨ first = third := by
  rcases front with empty | rfl
  · exact .inl empty
  · exact back

theorem wants_antisymm (front : left = "" ∨ left = right) (back : right = "" ∨ right = left) :
    left = right := by
  rcases front with rfl | same
  · rcases back with empty | same
    · exact empty.symm
    · exact same.symm
  · exact same

end

namespace CpuInformation

variable {first second third left right : CpuInformation}

theorem Has.refl (cpu : CpuInformation) : cpu.Has cpu := ⟨.inr rfl, .inr rfl⟩

theorem Has.trans (front : first.Has second) (back : second.Has third) : first.Has third where
  manufacturer := wants_trans front.manufacturer back.manufacturer
  version := wants_trans front.version back.version

theorem Has.antisymm (front : left.Has right) (back : right.Has left) : left = right := by
  have manufacturer := wants_antisymm front.manufacturer back.manufacturer
  have version := wants_antisymm front.version back.version
  cases left
  cases right
  simp only [mk.injEq]
  exact ⟨manufacturer, version⟩

/-- Whether processor information fits is a partial order. -/
theorem isPartialOrder_fits :
    IsPartialOrder CpuInformation fun wanted actual => wanted.fits actual = true where
  refl cpu := fits_iff.2 (.refl cpu)
  trans _ _ _ front back := fits_iff.2 ((fits_iff.1 front).trans (fits_iff.1 back))
  antisymm _ _ front back := (fits_iff.1 front).antisymm (fits_iff.1 back)

end CpuInformation

namespace SystemInformation

variable {first second third left right : SystemInformation}

theorem Has.refl (system : SystemInformation) : system.Has system :=
  ⟨.inr rfl, .inr rfl, .inr rfl, .inr rfl, .inr rfl, .inr rfl⟩

theorem Has.trans (front : first.Has second) (back : second.Has third) : first.Has third where
  manufacturer := wants_trans front.manufacturer back.manufacturer
  productName := wants_trans front.productName back.productName
  version := wants_trans front.version back.version
  serialNumber := wants_trans front.serialNumber back.serialNumber
  skuNumber := wants_trans front.skuNumber back.skuNumber
  family := wants_trans front.family back.family

theorem Has.antisymm (front : left.Has right) (back : right.Has left) : left = right := by
  have manufacturer := wants_antisymm front.manufacturer back.manufacturer
  have productName := wants_antisymm front.productName back.productName
  have version := wants_antisymm front.version back.version
  have serialNumber := wants_antisymm front.serialNumber back.serialNumber
  have skuNumber := wants_antisymm front.skuNumber back.skuNumber
  have family := wants_antisymm front.family back.family
  cases left
  cases right
  simp only [mk.injEq]
  exact ⟨manufacturer, productName, version, serialNumber, skuNumber, family⟩

/-- Whether system information fits is a partial order. -/
theorem isPartialOrder_fits :
    IsPartialOrder SystemInformation fun wanted actual => wanted.fits actual = true where
  refl system := fits_iff.2 (.refl system)
  trans _ _ _ front back := fits_iff.2 ((fits_iff.1 front).trans (fits_iff.1 back))
  antisymm _ _ front back := (fits_iff.1 front).antisymm (fits_iff.1 back)

end SystemInformation

/-! ## Lists of entries -/

/-- All pairs of some labels are among others. -/
def Labels.Extends (labels fewer : Labels) : Prop :=
  ∀ key value, fewer.get? key = some value → labels.get? key = some value

/-- Pairs are added under keys that are new. -/
theorem Labels.extends_insert {labels : Labels} {key : String} (fresh : labels.get? key = none)
    (value : String) : Labels.Extends (labels.insert key value) labels := by
  intro other found present
  have differs : other ≠ key := by
    rintro rfl
    exact nomatch fresh.symm.trans present
  rw [Dict.get?_insert_of_ne differs, present]

/-- A list of which one entry has to be met is loosened; `asksLess` tells which entries may stand in
the place of which others. -/
inductive Loosened {α : Type} (asksLess : α → α → Prop) (wanted : List α) : List α → Prop
  /-- Others stand in the place of any entries. -/
  | replaced {looser : List α} (each : List.Forall₂ asksLess looser wanted) :
      Loosened asksLess wanted looser
  /-- Entries are added to those that there are. -/
  | added {looser : List α} (filled : wanted ≠ []) (among : wanted.Sublist looser) :
      Loosened asksLess wanted looser
  /-- No entry is left. -/
  | emptied : Loosened asksLess wanted []

/-- An entry of a list has a counterpart where others stand in the place of its entries. -/
theorem exists_of_forall₂ {α : Type} {asksLess : α → α → Prop} {looser wanted : List α}
    (each : List.Forall₂ asksLess looser wanted) {entry : α} (among : entry ∈ wanted) :
    ∃ other ∈ looser, asksLess other entry := by
  induction each with
  | nil => exact nomatch among
  | cons less _ ih =>
      rcases List.mem_cons.1 among with rfl | later
      · exact ⟨_, List.mem_cons_self, less⟩
      · obtain ⟨other, member, less⟩ := ih later
        exact ⟨other, List.mem_cons_of_mem _ member, less⟩

/-- Where an entry was met, or there was none, an entry is met after the list is loosened, or there
is none. -/
theorem Loosened.meets {α : Type} {asksLess : α → α → Prop} {wanted looser : List α}
    (loosened : Loosened asksLess wanted looser) {meets : α → Prop}
    (keeps : ∀ other entry, asksLess other entry → meets entry → meets other)
    (met : wanted = [] ∨ ∃ entry ∈ wanted, meets entry) :
    looser = [] ∨ ∃ entry ∈ looser, meets entry := by
  cases loosened with
  | replaced each =>
      rcases met with rfl | ⟨entry, among, holds⟩
      · exact .inl (List.forall₂_nil_right_iff.1 each)
      · obtain ⟨other, member, less⟩ := exists_of_forall₂ each among
        exact .inr ⟨other, member, keeps other entry less holds⟩
  | added filled among =>
      obtain ⟨entry, member, holds⟩ := met.resolve_left filled
      exact .inr ⟨entry, among.subset member, holds⟩
  | emptied => exact .inl rfl

/-! ## Classes -/

/-- A class is loosened in one of its parts. -/
inductive ServerClassSpec.LoosenedOnce (spec : ServerClassSpec) : ServerClassSpec → Prop
  /-- The selector is taken away. -/
  | selector : LoosenedOnce spec { spec with selector := none }
  /-- The list of processors is loosened; one may stand in the place of those that it fits. -/
  | cpu {cpu : List CpuInformation}
      (loosened : Loosened (fun looser wanted => looser.fits wanted = true)
        spec.qualifiers.cpu cpu) :
      LoosenedOnce spec { spec with qualifiers := { spec.qualifiers with cpu } }
  /-- The list of systems is loosened; one may stand in the place of those that it fits. -/
  | systemInformation {systemInformation : List SystemInformation}
      (loosened : Loosened (fun looser wanted => looser.fits wanted = true)
        spec.qualifiers.systemInformation systemInformation) :
      LoosenedOnce spec { spec with qualifiers := { spec.qualifiers with systemInformation } }
  /-- The list of labels is loosened; pairs may be added to the labels in it. -/
  | labelSelectors {labelSelectors : List Labels}
      (loosened : Loosened Labels.Extends spec.qualifiers.labelSelectors labelSelectors) :
      LoosenedOnce spec { spec with qualifiers := { spec.qualifiers with labelSelectors } }

/-- A class is loosened any number of times. -/
abbrev ServerClassSpec.Loosened : ServerClassSpec → ServerClassSpec → Prop :=
  Relation.ReflTransGen LoosenedOnce

section

variable {server : Server} {spec looser : ServerClassSpec}

/-- A server is found to belong to a class if the class is well formed and it is a member. -/
theorem Server.qualifies_eq_true_iff :
    server.qualifies spec = .ok true ↔ spec.IsWellFormed ∧ server.IsMember spec := by
  constructor
  · intro belongs
    have formed : spec.IsWellFormed := by
      intro selector selected
      unfold qualifies at belongs
      split at belongs
      · exact nomatch belongs
      · rw [selected] at belongs
        dsimp only at belongs
        unfold Selector.matches? at belongs
        cases faulty : selector.fault? with
        | none => rfl
        | some fault =>
            rw [faulty] at belongs
            exact nomatch belongs
    rw [qualifies_eq formed] at belongs
    exact ⟨formed, (belongs_iff formed).1 (Except.ok.inj belongs)⟩
  · rintro ⟨formed, member⟩
    rw [qualifies_eq formed, (belongs_iff formed).2 member]

theorem ServerClassSpec.LoosenedOnce.satisfies (loosened : spec.LoosenedOnce looser)
    (satisfies : server.Satisfies spec.qualifiers) : server.Satisfies looser.qualifiers := by
  obtain ⟨cpu, system, labels⟩ := satisfies
  cases loosened with
  | selector => exact ⟨cpu, system, labels⟩
  | cpu loosened =>
      refine ⟨loosened.meets ?_ cpu, system, labels⟩
      rintro other entry less ⟨actual, reported, has⟩
      exact ⟨actual, reported, (CpuInformation.fits_iff.1 less).trans has⟩
  | systemInformation loosened =>
      refine ⟨cpu, loosened.meets ?_ system, labels⟩
      rintro other entry less ⟨actual, reported, has⟩
      exact ⟨actual, reported, (SystemInformation.fits_iff.1 less).trans has⟩
  | labelSelectors loosened =>
      refine ⟨cpu, system, loosened.meets ?_ labels⟩
      rintro other entry more ⟨key, value, wanted, labelled⟩
      exact ⟨key, value, more key value wanted, labelled⟩

/-- The selector of a loosened class was there before. -/
theorem ServerClassSpec.LoosenedOnce.selected (loosened : spec.LoosenedOnce looser)
    {selector : Selector} (selected : looser.selector = some selector) :
    spec.selector = some selector := by
  cases loosened with
  | selector => exact nomatch selected
  | cpu _ | systemInformation _ | labelSelectors _ => exact selected

theorem ServerClassSpec.LoosenedOnce.qualifies (loosened : spec.LoosenedOnce looser)
    (belongs : server.qualifies spec = .ok true) : server.qualifies looser = .ok true := by
  obtain ⟨formed, member⟩ := Server.qualifies_eq_true_iff.1 belongs
  refine Server.qualifies_eq_true_iff.2 ⟨?_, ?_⟩
  · exact fun selector selected => formed selector (loosened.selected selected)
  · exact {
      accepted := member.accepted
      uncordoned := member.uncordoned
      selected := fun selector selected => member.selected selector (loosened.selected selected)
      qualified := loosened.satisfies member.qualified }

end

/-- Whether criteria fit one another is a partial order, and a server that belongs to a class still
does however the class is loosened. -/
theorem loosened_class_keeps_servers :
    IsPartialOrder CpuInformation (fun wanted actual => wanted.fits actual = true) ∧
      IsPartialOrder SystemInformation (fun wanted actual => wanted.fits actual = true) ∧
      ∀ (server : Server) (spec looser : ServerClassSpec), spec.Loosened looser →
        server.qualifies spec = .ok true → server.qualifies looser = .ok true := by
  refine ⟨CpuInformation.isPartialOrder_fits, SystemInformation.isPartialOrder_fits, ?_⟩
  intro server spec looser loosened belongs
  induction loosened with
  | refl => exact belongs
  | tail _ once ih => exact once.qualifies ih

namespace Laboratory

/-- A class that asks for something in each of its parts. -/
def picky : ServerClassSpec where
  selector := some { matchExpressions := [⟨"rack", "In", ["a"]⟩] }
  qualifiers := {
    cpu := [⟨"Acme", "7"⟩, ⟨"Bolt", "1"⟩]
    systemInformation := [{ family := "blade" }]
    labelSelectors := [Dict.ofList [("tier", "gold")]] }

/-- The class without its selector, with any processor of one maker and another one in front, with
no system, and with a second label that will do. -/
def lenient : ServerClassSpec where
  qualifiers := {
    cpu := [⟨"Cray", ""⟩, ⟨"Acme", ""⟩, ⟨"Bolt", "1"⟩]
    labelSelectors := [Dict.ofList [("tier", "gold"), ("zone", "x")]] }

/-- A server that the class asks for. -/
def wantedServer : Server where
  metadata := {
    name := some "one"
    labels := some (Dict.ofList [("rack", "a"), ("tier", "gold")]) }
  spec := {
    accepted := true
    cpu := some ⟨"Acme", "7"⟩
    systemInformation := some { family := "blade", version := "2" } }

theorem picky_loosened : picky.Loosened lenient := by
  let fits (looser wanted : CpuInformation) : Prop := looser.fits wanted = true
  have replaced : Loosened fits picky.qualifiers.cpu [⟨"Acme", ""⟩, ⟨"Bolt", "1"⟩] :=
    .replaced (.cons (by decide) (.cons (by decide) .nil))
  have added : Loosened fits [⟨"Acme", ""⟩, ⟨"Bolt", "1"⟩] lenient.qualifiers.cpu :=
    .added (by decide) (List.sublist_cons_self _ _)
  have extended : Loosened Labels.Extends picky.qualifiers.labelSelectors
      lenient.qualifiers.labelSelectors :=
    .replaced (.cons (Labels.extends_insert (by decide) "x") .nil)
  have unselected : picky.Loosened { picky with selector := none } := .single .selector
  exact (((unselected.tail (.cpu replaced)).tail (.cpu added)).tail
    (.systemInformation .emptied)).tail (.labelSelectors extended)

end Laboratory

theorem loosened_class_keeps_servers_lenient :
    Laboratory.picky.Loosened Laboratory.lenient ∧
      Laboratory.wantedServer.qualifies Laboratory.picky = .ok true ∧
      Laboratory.wantedServer.qualifies Laboratory.lenient = .ok true := by
  have belongs : Laboratory.wantedServer.qualifies Laboratory.picky = .ok true := by decide
  obtain ⟨-, -, keeps⟩ := loosened_class_keeps_servers
  exact ⟨Laboratory.picky_loosened, belongs, keeps _ _ _ Laboratory.picky_loosened belongs⟩

end BareMetal
