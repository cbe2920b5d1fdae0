import BareMetal.Rehearsal.Feed
import BareMetal.Watch.Event

/-!
# Streams

A stream is the watcher of one collection at work.  It tells what it has at hand, then asks for
more: for one page of the list after the other, then for a connection, whose notices it waits for.
An answer is there one turn after it was asked for.  A refused page and a notice that the watch
cannot go on make the watcher begin a new listing.
-/

namespace BareMetal

/-- What a watcher waits for when it has nothing more to tell. -/
inductive Expectation where
  /-- A page of the list, by its number. -/
  | page (number : Nat)
  /-- A connection. -/
  | connection
  /-- What the open connection still sends. -/
  | notices (notices : List TimedNotice)

/-- The watcher of one collection at work. -/
structure Stream where
  /-- The collection. -/
  collection : Collection
  /-- What the watcher has to tell at once. -/
  atHand : List (WatchEvent Watched) := [.listBegins]
  /-- What it waits for then. -/
  expects : Expectation := .page 0
  /-- Whether it has asked for that. -/
  asked : Bool := false

namespace Stream

/-- What the due notices of a connection tell, and what is waited for after them. -/
def hear (now : Nat) : List TimedNotice → List (WatchEvent Watched) × Expectation
  | [] => ([], .notices [])
  | timed :: rest =>
      if now < timed.time then ([], .notices (timed :: rest))
      else
        match timed.notice with
        | .expired => ([.failed, .listBegins], .page 0)
        | .bookmark => hear now rest
        | .changed object => let (events, expects) := hear now rest; (.changed object :: events, expects)
        | .deleted object => let (events, expects) := hear now rest; (.deleted object :: events, expects)
        | .fault => let (events, expects) := hear now rest; (.failed :: events, expects)

/-- The stream with the due notices of a connection at hand. -/
def hearing (now : Nat) (notices : List TimedNotice) (stream : Stream) : Stream :=
  let (atHand, expects) := hear now notices
  { stream with atHand, expects, asked := false }

/-- The stream with the page that it asked for at hand, or with the refusal. -/
def receivePage (number : Nat) (page : Option (List Watched × Bool)) (stream : Stream) : Stream :=
  match page with
  | none => { stream with atHand := [.failed, .listBegins], expects := .page 0, asked := false }
  | some (objects, isLast) =>
      let events := objects.map WatchEvent.listed
      if isLast then
        { stream with atHand := events ++ [.listEnds], expects := .connection, asked := false }
      else { stream with atHand := events, expects := .page (number + 1), asked := false }

/-- The stream with the answer at hand that it waits for, if it has nothing to tell and the answer
is there. -/
def receive (now : Nat) (store : Store) (stream : Stream) (feed : Feed) : Stream × Feed :=
  if !stream.atHand.isEmpty then (stream, feed)
  else
    match stream.expects, stream.asked with
    | .page number, true =>
        let (page, feed) := feed.page? stream.collection number store
        (stream.receivePage number page, feed)
    | .connection, true =>
        let (notices, feed) := feed.connect stream.collection
        (stream.hearing now notices, feed)
    | .notices notices, _ => (stream.hearing now notices, feed)
    | _, false => (stream, feed)

/-- The stream, which has nothing more to tell, after it has asked for what it waits for. -/
def ask (stream : Stream) : Stream :=
  match stream.expects with
  | .notices _ => stream
  | _ => { stream with asked := true }

/-- When the stream goes on if nobody rests, unless it is silent for ever. -/
def next? (now : Nat) (stream : Stream) : Option Nat :=
  match stream.atHand, stream.expects with
  | [], .notices [] => none
  | [], .notices (timed :: _) => some (max now timed.time)
  | _, _ => some now

end Stream

end BareMetal
