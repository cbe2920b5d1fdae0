import BareMetal.Object.ServerClass

/-!
# Qualification

Which servers belong to a class: accepted ones that are not cordoned, that the class's selector
matches and that fit an entry of each of the class's lists of qualifiers.  The order of the
result depends on the names of the servers alone, so that every allocator tries them alike.
-/

namespace BareMetal

/-- Whether a wanted text is empty or the given one. -/
def fieldFits (wanted actual : String) : Bool := wanted.isEmpty || wanted == actual

/-- Whether processor information has all that is wanted of it. -/
def CpuInformation.fits (wanted actual : CpuInformation) : Bool :=
  fieldFits wanted.manufacturer actual.manufacturer && fieldFits wanted.version actual.version

/-- Whether system information has all that is wanted of it. -/
def SystemInformation.fits (wanted actual : SystemInformation) : Bool :=
  fieldFits wanted.manufacturer actual.manufacturer &&
    fieldFits wanted.productName actual.productName &&
    fieldFits wanted.version actual.version &&
    fieldFits wanted.serialNumber actual.serialNumber &&
    fieldFits wanted.skuNumber actual.skuNumber &&
    fieldFits wanted.family actual.family

/-- Whether one of several criteria fits what is known; without criteria anything does. -/
def fitsOneOf {α : Type} (fits : α → α → Bool) (criteria : List α) (actual : Option α) : Bool :=
  criteria.isEmpty || actual.any fun actual => criteria.any fun wanted => fits wanted actual

/-- Whether one pair of one of several label maps is present; without label maps anything
passes. -/
def hasOnePairOf (selectors : List Labels) (labels : Labels) : Bool :=
  selectors.isEmpty || selectors.any fun selector =>
    selector.entries.any fun pair => labels.get? pair.1 == some pair.2

namespace Server

/-- The labels of a server. -/
def labels (server : Server) : Labels := server.metadata.labels.getD Dict.empty

/-- Whether a server fits an entry of each list of qualifiers. -/
def passes (server : Server) (qualifiers : Qualifiers) : Bool :=
  fitsOneOf CpuInformation.fits qualifiers.cpu server.spec.cpu &&
    fitsOneOf SystemInformation.fits qualifiers.systemInformation
      server.spec.systemInformation &&
    hasOnePairOf qualifiers.labelSelectors server.labels

/-- Whether a server belongs to a class.  A malformed selector is an error for every server that
gets as far as being matched. -/
def qualifies (server : Server) (serverClass : ServerClassSpec) : Except SelectorFault Bool :=
  if !server.spec.accepted || server.spec.cordoned then .ok false
  else
    match serverClass.selector with
    | none => .ok (server.passes serverClass.qualifiers)
    | some selector =>
        match selector.matches? server.labels with
        | .error fault => .error fault
        | .ok matched => .ok (matched && server.passes serverClass.qualifiers)

/-- Whether a server may stand before another: those without a name in front, the others by
name. -/
def inNameOrder (left right : Server) : Bool :=
  match left.metadata.name, right.metadata.name with
  | none, _ => true
  | some _, none => false
  | some left, some right => decide (left ≤ right)

end Server

/-- The servers of a list that belong to a class, as they come. -/
def qualifying (serverClass : ServerClassSpec) :
    List Server → Except SelectorFault (List Server)
  | [] => .ok []
  | server :: rest => do
      let belongs ← server.qualifies serverClass
      let others ← qualifying serverClass rest
      return if belongs then server :: others else others

/-- The servers of a list that belong to a class, in the order of their names.  A malformed
selector is an error whatever the servers are. -/
def qualifiedServers (serverClass : ServerClassSpec) (servers : List Server) :
    Except SelectorFault (List Server) := do
  match serverClass.selector with
  | none => pure ()
  | some selector => selector.validate
  return (← qualifying serverClass servers).mergeSort Server.inNameOrder

end BareMetal
