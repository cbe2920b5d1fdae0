import BareMetal.Json.Basic

/-!
# Merge patches

RFC 7396: a patch that is an object changes the members it names, where `null` removes a member
and an object is merged into the member it finds; any other patch replaces the value.
-/

namespace BareMetal.Json

mutual

/-- The value that a patch makes of a target. -/
def mergePatch (target : Json) : Json → Json
  | obj changes => obj (patchMembers target.members changes)
  | replacement => replacement

/-- The members after one change after the other. -/
def patchMembers (members : List (String × Json)) :
    List (String × Json) → List (String × Json)
  | [] => members
  | (name, null) :: rest => patchMembers (dropMember name members) rest
  | (name, change) :: rest =>
      patchMembers (setMember name (mergePatch ((members.lookup name).getD null) change) members)
        rest

end

end BareMetal.Json
