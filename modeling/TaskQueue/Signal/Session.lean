import TaskQueue.Database.Dialogue
import TaskQueue.Name
import TaskQueue.Signal.Stream

/-!
# Watching a stream of signals

The signals of a namespace as a consumer sees them that takes each one at once, while the clock is
moved and things happen to the stream.
-/

namespace TaskQueue

/-- What happens to a stream that is watched: the clock moves on, tasks are announced in a
namespace, the server starts or stops refusing connections, it closes them, or the stream is
cancelled. -/
structure SignalEvent where
  millis : Nat := 0
  /-- The namespace of the announcements. -/
  ns : String
  queues : List String := []
  refuse : Option Bool := none
  disconnect : Bool := false
  cancel : Bool := false

/-- A stream that is watched, and what was seen since one last looked. -/
structure SignalSession where
  ns : String
  now : Instant := 0
  stream : SignalStream
  cancelled : Bool := false
  reachable : Bool := true
  signals : List (Instant × Signal) := []
  log : List Request := []

namespace SignalSession

def stepMillis : Nat := 5

/-- The request for the announcements of the namespace. -/
def listen (s : SignalSession) : Request := .listen (insertChannel s.ns)

def start (ns : String) (period : Span) : Except Fault SignalSession := do
  let s : SignalSession := { ns, stream := ← SignalStream.start period 0 }
  return { s with log := [s.listen] }

def settleFor : Nat → SignalSession → SignalSession
  | 0, s => s
  | fuel + 1, s =>
    match s.stream.pull? s.now s.cancelled s.reachable with
    | none => s
    | some (pull, stream) =>
      let s := { s with stream }
      settleFor fuel <|
        match pull with
        | .signal signal => { s with signals := s.signals ++ [(s.now, signal)] }
        | .reconnected => { s with log := s.log ++ [s.listen] }
        | .wentBlind | .ended => s

/-- Lets everything happen that can happen at this instant. -/
def settle (s : SignalSession) : SignalSession :=
  settleFor (s.stream.inbox.length + stepMillis + 4) s

def pass : Nat → SignalSession → SignalSession
  | 0, s => s
  | steps + 1, s => pass steps { s with now := s.now + Instant.ofMillis stepMillis }.settle

/-- The announcements of an event reach the stream if they are of its namespace. -/
def hear (s : SignalSession) (e : SignalEvent) : SignalSession :=
  if e.ns = s.ns then { s with stream := e.queues.foldl .notify s.stream } else s

/-- Lets an event happen to the stream, in the order of its parts. -/
def apply (s : SignalSession) (e : SignalEvent) : SignalSession :=
  let s := (s.pass (e.millis / stepMillis)).hear e
  { s with
    reachable := (e.refuse.map not).getD s.reachable
    stream := if e.disconnect then s.stream.disconnect else s.stream
    cancelled := s.cancelled || e.cancel }.settle

/-- The sessions after the start and after each event, each with what was seen in between. -/
def watch (s : SignalSession) (events : List SignalEvent) : List SignalSession :=
  let s := s.settle
  s :: match events with
    | [] => []
    | e :: events => watch ({ s with signals := [], log := [] }.apply e) events

end SignalSession

end TaskQueue
