import TaskQueue.Database.Script
import TaskQueue.TaskLoop.Turn

/-!
# Watching the task loop

The task loop of a manager against a scripted server, while the clock is moved, tasks are announced
and received, and the loop is stopped.
-/

namespace TaskQueue

/-- What happens to a loop that is watched: the clock moves on, a task is announced in a namespace,
some tasks are received, the receiver goes away, or the loop is cancelled. -/
structure TaskLoopEvent where
  millis : Nat := 0
  notify : Option (String × String) := none
  receive : Nat := 0
  detach : Bool := false
  cancel : Bool := false

/-- A loop that is watched, and what was seen since one last looked. -/
structure TaskLoopSession where
  manager : Manager
  script : Script
  replies : List Reply
  now : Instant := 0
  cancelled : Bool := false
  loop : TaskLoop
  received : List Task := []
  log : List Request := []

namespace TaskLoopSession

def stepMillis : Nat := 5

def start (manager : Manager) (script : Script) (period : Span) (capacity : Nat)
    (cancelled : Bool) : Except Fault TaskLoopSession := do
  let loop ← TaskLoop.start period (← Channel.ofCapacity capacity) 0
  return { manager, script, replies := script.replies, cancelled, loop }

def step? (s : TaskLoopSession) : Option TaskLoopSession := do
  let turn ← s.loop.turn? s.manager s.now s.cancelled
  let t := turn.run s.script.server s.replies
  let loop ← s.loop.step? s.now s.cancelled t.result
  return { s with loop, replies := t.server, log := s.log ++ t.log }

def settleFor : Nat → TaskLoopSession → TaskLoopSession
  | 0, s => s
  | fuel + 1, s =>
    match s.step? with
    | some s => settleFor fuel s
    | none => s

/-- Lets everything happen that can happen at this instant. Each signal and each reply leads to a
few moves at most. -/
def settle (s : TaskLoopSession) : TaskLoopSession :=
  settleFor (4 * (s.replies.length + s.loop.stream.inbox.length + stepMillis + 4)) s

def pass : Nat → TaskLoopSession → TaskLoopSession
  | 0, s => s
  | steps + 1, s => pass steps { s with now := s.now + Instant.ofMillis stepMillis }.settle

/-- Receives up to `count` tasks, and lets the loop run before each. -/
def receive : Nat → TaskLoopSession → TaskLoopSession
  | 0, s => s
  | count + 1, s =>
    let s := s.settle
    match s.loop.receive? with
    | some (task, loop) => receive count { s with loop, received := s.received ++ [task] }
    | none => s

/-- The announcement of an event reaches the loop if it is of its namespace. -/
def hear (s : TaskLoopSession) (e : TaskLoopEvent) : TaskLoopSession :=
  match e.notify with
  | some (ns, queue) => if ns = s.manager.ns then { s with loop := s.loop.notify queue } else s
  | none => s

def apply (s : TaskLoopSession) (e : TaskLoopEvent) : TaskLoopSession :=
  let s := ((s.pass (e.millis / stepMillis)).hear e).receive e.receive
  { s with
    loop := if e.detach then s.loop.detach else s.loop
    cancelled := s.cancelled || e.cancel }.settle

/-- The sessions after the start and after each event, each with what was seen in between. -/
def watch (s : TaskLoopSession) (events : List TaskLoopEvent) : List TaskLoopSession :=
  let s := s.settle
  s :: match events with
    | [] => []
    | e :: events => watch ({ s with received := [], log := [] }.apply e) events

end TaskLoopSession

end TaskQueue
