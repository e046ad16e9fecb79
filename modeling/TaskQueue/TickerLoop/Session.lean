import TaskQueue.Database.Script
import TaskQueue.TickerLoop.Turn

/-!
# Running the ticker loop

The ticker loop of a manager against a scripted server, until it ends. It may be stopped after some
polls. The clock goes in steps, and passes over those at which the loop is asleep.
-/

namespace TaskQueue

/-- How a loop is stopped: it is cancelled, or its receiver goes away. -/
inductive LoopStop where
  | cancel
  | detach
deriving Repr, DecidableEq

structure TickerLoopSession where
  manager : Manager
  script : Script
  replies : List Reply
  /-- Whether tickers are received as they come. -/
  consumes : Bool := true
  now : Instant := 0
  cancelled : Bool := false
  loop : TickerLoop
  received : List Ticker := []
  log : List Request := []

namespace TickerLoopSession

def stepMillis : Nat := 5

def jitter : Span := .ofMillis 50

def start (manager : Manager) (script : Script) (period : Span) (capacity : Nat)
    (consumes : Bool) : Except Fault TickerLoopSession := do
  let loop := TickerLoop.start period (← Channel.ofCapacity capacity) 0 jitter
  return { manager, script, replies := script.replies, consumes, loop }

def drain (s : TickerLoopSession) : TickerLoopSession :=
  { s with
    received := s.received ++ s.loop.channel.items
    loop := { s.loop with channel := { s.loop.channel with items := [] } } }

def step? (s : TickerLoopSession) : Option TickerLoopSession := do
  let turn ← s.loop.turn? s.manager s.now s.cancelled
  let t := turn.run s.script.server s.replies
  let loop ← s.loop.step? s.now s.cancelled t.result
  let s := { s with loop, replies := t.server, log := s.log ++ t.log }
  return if s.consumes then s.drain else s

def settleFor : Nat → TickerLoopSession → TickerLoopSession
  | 0, s => s
  | fuel + 1, s =>
    match s.step? with
    | some s => settleFor fuel s
    | none => s

/-- Lets everything happen that can happen at this instant. A poll takes a few moves. -/
def settle (s : TickerLoopSession) : TickerLoopSession :=
  settleFor (3 * (s.replies.length + 2)) s

def stop (s : TickerLoopSession) : LoopStop → TickerLoopSession
  | .cancel => { s with cancelled := true }
  | .detach => { s with loop := s.loop.detach }

/-- Stops the loop if it is to be stopped after some polls, and has made them. -/
def stopAfter (s : TickerLoopSession) : Option (Nat × LoopStop) → TickerLoopSession
  | some (polls, stop) => if polls ≤ s.log.length then s.stop stop else s
  | none => s

/-- Moves the clock to the step at which the loop wakes, if it is asleep. -/
def tick? (s : TickerLoopSession) : Option TickerLoopSession :=
  match s.loop.phase with
  | .sleeping wakes =>
    let step := Instant.ofMillis stepMillis
    let steps := (wakes - s.now + (step - 1)) / step
    some { s with now := s.now + max steps 1 * step }
  | _ => none

def runFor (stop : Option (Nat × LoopStop)) : Nat → TickerLoopSession → TickerLoopSession
  | 0, s => s
  | fuel + 1, s =>
    let s := (s.settle.stopAfter stop).settle
    match s.tick? with
    | some s => runFor stop fuel s
    | none => s.drain

/-- Runs the loop to its end. A loop that is neither stopped nor fails has no end; it is run until
nothing new can happen. -/
def run (s : TickerLoopSession) (stop : Option (Nat × LoopStop)) : TickerLoopSession :=
  runFor stop (s.replies.length + (stop.map Prod.fst).getD 0 + 3) s

end TickerLoopSession

end TaskQueue
