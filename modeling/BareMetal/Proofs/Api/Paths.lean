import BareMetal.Api.Request

/-!
# Requests for named objects

The name of an object becomes part of a path.  As long as it holds nothing but what may stand in a
path, the request goes to the object of that name.
-/

namespace BareMetal

namespace Url

/-- A text may be the path of a URL as it stands. -/
structure IsPath (path : String) : Prop where
  /-- It begins at the root. -/
  root : path.toList.head? = some '/'
  /-- It consists of what may stand in a path and does not end it. -/
  plain : ∀ c ∈ path.toList, isPathChar c = true ∧ endsPath c = false
  /-- There is room for one more character. -/
  short : path.utf8ByteSize < maxLength

variable {path : String}

theorem isPath_iff_all : IsPath path ↔ path.toList.head? = some '/' ∧
    path.toList.all (fun c => isPathChar c && !endsPath c) = true ∧
      path.utf8ByteSize < maxLength := by
  constructor
  · rintro ⟨root, plain, short⟩
    exact ⟨root, List.all_eq_true.2 fun c member => by simp [plain c member], short⟩
  · rintro ⟨root, all, short⟩
    exact ⟨root, fun c member => by simpa using List.all_eq_true.1 all c member, short⟩

instance : Decidable (IsPath path) := decidable_of_iff' _ isPath_iff_all

theorem takeWhile_of_isPath (isPath : IsPath path) {back : List Char}
    (ends : ∀ c ∈ back.head?, endsPath c = true) :
    (path.toList ++ back).takeWhile (fun c => !endsPath c) = path.toList := by
  rw [List.takeWhile_append_of_pos fun c member => by simp [(isPath.plain c member).2]]
  cases back with
  | nil => simp
  | cons c rest => simp [ends c rfl]

theorem all_of_isPath (isPath : IsPath path) : path.toList.all isPathChar = true :=
  List.all_eq_true.2 fun c member => (isPath.plain c member).1

/-- A path is read from its root on. -/
theorem read?_of_root {text : String} (root : text.toList.head? = some '/')
    (short : text.utf8ByteSize ≤ maxLength) : read? text.toList = target? text.toList := by
  have present : text.toList.isEmpty = false := by
    cases chars : text.toList with
    | nil => simp [chars] at root
    | cons => rfl
  unfold read?
  rw [present, String.ofList_toList, root]
  simp [Nat.not_lt.2 short]

theorem read?_of_isPath (isPath : IsPath path) :
    read? path.toList = some ⟨path.toList, none⟩ := by
  have whole : (path.toList ++ []).takeWhile (fun c => !endsPath c) = path.toList :=
    takeWhile_of_isPath isPath (by simp)
  rw [List.append_nil] at whole
  rw [read?_of_root isPath.root (Nat.le_of_lt isPath.short), target?, whole]
  dsimp only
  rw [List.drop_length, all_of_isPath isPath]
  rfl

theorem read?_of_isPath_query (isPath : IsPath path) :
    read? (path ++ "?").toList = some ⟨path.toList, some []⟩ := by
  have root : (path ++ "?").toList.head? = some '/' := by
    simp [List.head?_append, isPath.root]
  have short : (path ++ "?").utf8ByteSize ≤ maxLength := by
    rw [String.utf8ByteSize_append]
    exact isPath.short
  have chars : (path ++ "?").toList = path.toList ++ ['?'] := by simp
  have front : (path.toList ++ ['?']).takeWhile (fun c => !endsPath c) = path.toList :=
    takeWhile_of_isPath isPath (by simp [endsPath])
  rw [read?_of_root root short, chars, target?, front]
  dsimp only
  rw [List.drop_left, all_of_isPath isPath]
  rfl

end Url

namespace Kind

variable {kind : Kind} {space : Option String} {name : String}

/-- The path of an object. -/
def path (kind : Kind) (space : Option String) (name : String) : String :=
  kind.collection space ++ "/" ++ name

/-- The path of an object in a namespace, its parts put together in another way. -/
theorem path_some (kind : Kind) (space name : String) : kind.path (some space) name =
    kind.root ++ "/namespaces/" ++ space ++ ("/" ++ kind.plural ++ "/") ++ name := by
  have regroup : ∀ root front middle back : String,
      root ++ (front ++ space) ++ middle ++ kind.plural ++ back ++ name =
        root ++ front ++ space ++ (middle ++ kind.plural ++ back) ++ name := by
    simp [String.append_assoc]
  exact regroup _ _ _ _

theorem getRequest?_of_isPath (named : name ≠ "") (isPath : Url.IsPath (kind.path space name)) :
    kind.getRequest? space name = some { method := .get, path := kind.path space name } := by
  have item : kind.item? space name = some (kind.path space name) := by
    simp [item?, path, named]
  rw [getRequest?, item]
  change Api.Request.to? .get (kind.path space name) = _
  rw [Api.Request.to?, Url.read?_of_isPath isPath]
  simp [Url.namedValues]

theorem patchRequest?_of_isPath {part : String} (named : name ≠ "")
    (isPath : Url.IsPath (kind.path space name ++ part)) (patch : Json) :
    kind.patchRequest? space name patch part = some {
      method := .patch
      path := kind.path space name ++ part
      content := some (.mergePatch patch) } := by
  have item : kind.item? space name part = some (kind.path space name ++ part) := by
    simp [item?, path, named]
  rw [patchRequest?, item]
  change Api.Request.to? .patch (kind.path space name ++ part ++ "?") _ = _
  rw [Api.Request.to?, Url.read?_of_isPath_query isPath]
  simp [Url.namedValues]

end Kind

end BareMetal
