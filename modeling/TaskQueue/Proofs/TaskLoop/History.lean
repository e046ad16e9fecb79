import TaskQueue.Proofs.Database.Exchange
import TaskQueue.Proofs.Run
import TaskQueue.Proofs.TaskLoop.Step
import TaskQueue.TaskLoop.Turn

/-!
# Histories of the task loop

A task loop among all that can happen to it. It takes its turns with a database that replies
anything, and that may be lost in the middle of a dialogue. Between two turns time passes, tasks
are announced, the connection of its stream is lost, tasks are received, the receiver goes away,
and the loop is cancelled, in any order.
-/

namespace TaskQueue

namespace TaskLoop

/-- The move of a loop that loses the database in the middle of a dialogue. -/
def lose? (cause : DatabaseError) (l : TaskLoop) : Option Move :=
  match l.phase with
  | .subscribing => some (.subscribed (.error (.ofDatabase cause)))
  | .waiting => some (.pull false)
  | .claiming => some (.claimed (.error (.ofDatabase cause)))
  | .returning _ => some (.returned (.error (.ofDatabase cause)))
  | .holding _ | .ended _ => none

/-- A turn in which the loop hears some replies and, when they are used up, loses the database:
what it asks, and the move that it makes. -/
def take? (m : Manager) (now : Instant) (cancelled : Bool) (replies : List Reply)
    (lost : DatabaseError) (l : TaskLoop) : Option (List Request × Move) :=
  (l.turn? m now cancelled).bind fun dialogue =>
    let (asked, move?) := dialogue.hear replies
    (move? <|> l.lose? lost).map fun move => (asked, move)

def Phase.returns? : Phase → Option Int64
  | .returning id => some id
  | _ => none

theorem asks_listen (m : Manager) (id : Option Int64) :
    Dialogue.Asks (m.Tends id) (listen m) := by
  refine .bind (.request trivial) fun reply => ?_
  cases reply <;> trivial

/-- In its turns a loop claims for the manager's worker, and gives back what it is returning. -/
theorem asks_turn? {m : Manager} {now cancelled l d} (h : turn? m now cancelled l = some d) :
    Dialogue.Asks (m.Tends l.phase.returns?) d := by
  unfold turn? at h
  cases hp : l.phase with
  | subscribing => simp only [hp] at h; cases h; exact .map (asks_listen m _)
  | waiting =>
      have hpull (reconnects : Bool) : Dialogue.Asks (m.Tends none) (pull m reconnects) := by
        cases reconnects with
        | false => trivial
        | true => exact .bind (asks_listen m none) fun _ => trivial
      simp only [hp] at h
      split at h <;> cases h <;> exact hpull _
  | claiming => simp only [hp] at h; cases h; exact .map m.asks_retainTask
  | holding t =>
      simp only [hp] at h
      split at h
      · cases h; trivial
      · split at h <;> cases h
        trivial
  | returning id => simp only [hp] at h; cases h; exact .map (m.asks_returnTask id)
  | ended r => simp only [hp] at h; cases h

/-- A task is handed back in the very turn of a loop that returns it. -/
theorem Step.handedBack {now cancelled} {l l' : TaskLoop} {m : Move} {g : Record}
    (h : Step now cancelled l m l') :
    (g.note l m).handedBack = g.handedBack ++ l.phase.returns?.toList := by
  cases h with
  | @pulled _ pull _ hp _ => cases pull <;> simp [Record.note, Phase.returns?, hp]
  | @claimed result hp => rcases result with e | _ | t <;> simp [Record.note, Phase.returns?, hp]
  | subscribed hp | setupFailed hp | delivered hp _ _ | givesBack hp _ | returned hp =>
      simp [Record.note, Phase.returns?, hp]

theorem take?_asks {m : Manager} {now cancelled replies lost asked move} {l : TaskLoop}
    (h : l.take? m now cancelled replies lost = some (asked, move)) :
    ∀ r ∈ asked, m.Tends l.phase.returns? r := by
  obtain ⟨d, hd, h⟩ := Option.bind_eq_some_iff.mp h
  obtain ⟨move, -, h⟩ := Option.map_eq_some_iff.mp h
  cases h
  exact (asks_turn? hd).hear replies

end TaskLoop

/-- A loop with the clock and what was seen of it: its record, the tasks that were received from its
channel, and all that it asked. -/
structure TaskLoopHistory where
  now : Instant
  cancelled : Bool := false
  loop : TaskLoop
  record : TaskLoop.Record := {}
  received : List Task := []
  asked : List Request := []

namespace TaskLoopHistory

inductive Event where
  | turn (replies : List Reply) (lost : DatabaseError := .connectionCrashed)
  | pass (nanos : Nat)
  | notify (queue : String)
  /-- The connection of the stream is lost. -/
  | disconnect
  | receive
  | detach
  | cancel

def start (period : Span) (capacity : Nat) (now : Instant) : Except Fault TaskLoopHistory := do
  return { now, loop := ← TaskLoop.start period (← Channel.ofCapacity capacity) now }

def move? (h : TaskLoopHistory) (asked : List Request) (m : TaskLoop.Move) :
    Option TaskLoopHistory :=
  (h.loop.step? h.now h.cancelled m).map fun loop =>
    { h with loop, record := h.record.note h.loop m, asked := h.asked ++ asked }

def step? (m : Manager) (e : Event) (h : TaskLoopHistory) : Option TaskLoopHistory :=
  match e with
  | .turn replies lost =>
    (h.loop.take? m h.now h.cancelled replies lost).bind fun (asked, move) => h.move? asked move
  | .pass nanos => some { h with now := h.now + nanos }
  | .notify queue => some { h with loop := h.loop.notify queue }
  | .disconnect => some { h with loop := { h.loop with stream := h.loop.stream.disconnect } }
  | .receive =>
    h.loop.receive?.map fun (t, loop) => { h with loop, received := h.received ++ [t] }
  | .detach => some { h with loop := h.loop.detach }
  | .cancel => some { h with cancelled := true }

variable {m : Manager} {h h' : TaskLoopHistory} {es : List Event}

theorem step?_turn {replies lost} (hs : step? m (.turn replies lost) h = some h') :
    ∃ asked move loop, h.loop.take? m h.now h.cancelled replies lost = some (asked, move) ∧
      TaskLoop.Step h.now h.cancelled h.loop move loop ∧
      h' = { h with loop, record := h.record.note h.loop move, asked := h.asked ++ asked } := by
  obtain ⟨⟨asked, move⟩, ht, hm⟩ := Option.bind_eq_some_iff.mp hs
  obtain ⟨loop, hl, rfl⟩ := Option.map_eq_some_iff.mp hm
  exact ⟨asked, move, loop, ht, TaskLoop.step?_sound hl, rfl⟩

theorem start_ok {period capacity now} (hp : period ≠ .zero) (hc : capacity ≠ 0) :
    start period capacity now =
      .ok { now, loop := { stream := { timer := ⟨period, now⟩ }, channel := { capacity } } } := by
  simp only [start, TaskLoop.start, SignalStream.start, Ticking.start, Channel.ofCapacity, hp, hc,
    if_false]
  rfl

theorem start_eq_ok {period capacity now} (hs : start period capacity now = .ok h) :
    h = { now, loop := { stream := { timer := ⟨period, now⟩ }, channel := { capacity } } } := by
  unfold start TaskLoop.start SignalStream.start Ticking.start Channel.ofCapacity at hs
  split at hs
  · cases hs
  · split at hs <;> cases hs
    rfl

theorem step?_cancelled {e} (hs : step? m e h = some h') (hc : h.cancelled = true) :
    h'.cancelled = true := by
  cases e with
  | turn => obtain ⟨_, _, _, -, -, rfl⟩ := step?_turn hs; exact hc
  | receive => obtain ⟨_, -, rfl⟩ := Option.map_eq_some_iff.mp hs; exact hc
  | cancel => cases hs; rfl
  | _ => cases hs; exact hc

end TaskLoopHistory

/-! ## Replies -/

def taskRow (id : Int) (queue : String) : Row :=
  [("id", .int id), ("ns", .text "default"), ("queue", .text queue), ("payload", .json .null),
    ("result", .json .null), ("worker", .text "w1"), ("created_at", .timestamp .epoch),
    ("delayed_at", .null), ("started_at", .timestamp .epoch), ("finished_at", .null),
    ("dies_at", .null), ("retries", .int 2), ("initial_retries", .int 3),
    ("status", .text "retained")]

/-- The replies to an operation on one task that goes well. -/
def taskReplies (id : Int) (queue : String := "mail") : List Reply :=
  [.empty, .rows [[("id", .int id)]], .rows [taskRow id queue], .empty]

end TaskQueue
