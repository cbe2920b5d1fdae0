import BareMetal.Api.Request
import BareMetal.Watch.Notice

/-!
# Feeds

In a rehearsal the lists of objects come from the store on the stage, page by page, and what
watchers are told is written down beforehand: for each collection the connections that are opened
one after the other, and the list requests that are refused.
-/

namespace BareMetal

/-- A notice with the time, in nanoseconds, at which it is sent. -/
structure TimedNotice where
  /-- When the notice is sent. -/
  time : Nat
  /-- The notice. -/
  notice : Notice

/-- A number of seconds as nanoseconds. -/
def nanosOfSeconds : Json → Nat
  | .int seconds => seconds.toNat * 1000000000
  | .real mantissa exponent =>
      mantissa.toNat * Nat.pow 10 (exponent + 9).toNat / Nat.pow 10 (-(exponent + 9)).toNat
  | _ => 0

/-- A notice about a collection as it is written down: when it is sent, in seconds, and what is
sent. -/
def TimedNotice.read (collection : Collection) (json : Json) : TimedNotice where
  time := nanosOfSeconds ((json.get? "at").getD .null)
  notice := Notice.read collection ((json.get? "event").getD .null)

/-- What is written down for one collection. -/
structure Script where
  /-- The list requests that are refused, by number. -/
  refused : List Nat := []
  /-- How many list requests there were. -/
  asked : Nat := 0
  /-- What the connections that are still to be opened send. -/
  connections : List (List TimedNotice) := []

/-- What watchers are served from. -/
structure Feed where
  /-- The namespace to which machines are limited, if they are. -/
  space : Option String := none
  /-- How many objects a page holds at most; a list is one page if there is no such limit. -/
  pageSize : Option Nat := none
  /-- What is written down, by the collection's name. -/
  scripts : Dict String Script := Dict.empty
  /-- The different requests that were made. -/
  requests : List String := []

namespace Feed

/-- The script of a collection. -/
def script (feed : Feed) (collection : Collection) : Script :=
  (feed.scripts.get? collection.kind.plural).getD {}

/-- The feed with another script for a collection. -/
def setScript (feed : Feed) (collection : Collection) (script : Script) : Feed :=
  { feed with scripts := feed.scripts.insert collection.kind.plural script }

/-- The namespace to which a collection is limited, if it is. -/
def spaceOf (feed : Feed) (collection : Collection) : Option String :=
  if collection.kind.isNamespaced then feed.space else none

/-- Notes a request. -/
def note (feed : Feed) (verb : String) (collection : Collection) : Feed :=
  let request := verb ++ " " ++ collection.kind.collection (feed.spaceOf collection)
  if feed.requests.contains request then feed
  else { feed with requests := feed.requests ++ [request] }

/-- A page of a collection's list and whether it is the last one; none if the request for it is
refused.  An empty list has one page. -/
def page? (feed : Feed) (collection : Collection) (number : Nat) (store : Store) :
    Option (List Watched × Bool) × Feed :=
  let script := feed.script collection
  let answered := (feed.note "list" collection).setScript collection
    { script with asked := script.asked + 1 }
  if script.refused.contains script.asked then (none, answered)
  else
    let objects := collection.objects (feed.spaceOf collection) store
    match feed.pageSize with
    | none => (some (objects, true), answered)
    | some size =>
        let rest := objects.drop (number * size)
        (some (rest.take size, rest.length ≤ size), answered)

/-- Opens a connection to a collection.  Gives what it sends; a connection for which nothing is
written down sends nothing. -/
def connect (feed : Feed) (collection : Collection) : List TimedNotice × Feed :=
  let script := feed.script collection
  let feed := feed.note "watch" collection
  match script.connections with
  | [] => ([], feed)
  | connection :: connections =>
      (connection, feed.setScript collection { script with connections })

end Feed

end BareMetal
