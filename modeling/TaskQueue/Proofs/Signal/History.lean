import TaskQueue.Proofs.Run
import TaskQueue.Signal.Stream

/-!
# Histories of a stream of signals

What a stream does when it is asked for the next signal as a relation, one rule for each thing that
it can do, and a stream among all that can happen to it. Between two pulls time passes, tasks are
announced, the connection is lost, and the stream is cancelled, in any order; the server may be out
of reach at any of them.
-/

namespace TaskQueue

namespace SignalStream

variable {now : Instant} {cancelled reachable : Bool} {s s' : SignalStream} {p : Pull}

/-- The stream after its next poll. -/
def polled (s : SignalStream) (now : Instant) : SignalStream :=
  { s with timer := s.timer.take now, mode := .listening }

/-- What a stream can do at an instant, cancelled or not, with the server in reach or not. -/
inductive Step (now : Instant) (cancelled reachable : Bool) (s : SignalStream) :
    Pull → SignalStream → Prop where
  | woke : s.mode = .blind → s.timer.due ≤ now →
      Step now cancelled reachable s (.signal .polling) (s.polled now)
  | stopped : s.mode = .listening → cancelled = true →
      Step now cancelled reachable s .ended { s with mode := .ended }
  | read {queue inbox} : s.mode = .listening → cancelled = false → s.inbox = queue :: inbox →
      Step now cancelled reachable s (.signal (.notification queue)) { s with inbox }
  | polled : s.mode = .listening → cancelled = false → s.inbox = [] → s.connected = true →
      s.timer.due ≤ now → Step now cancelled reachable s (.signal .polling) (s.polled now)
  | reconnected : s.mode = .listening → cancelled = false → s.inbox = [] →
      s.connected = false → reachable = true →
      Step now cancelled reachable s .reconnected { s with connected := true }
  | wentBlind : s.mode = .listening → cancelled = false → s.inbox = [] → s.connected = false →
      reachable = false → Step now cancelled reachable s .wentBlind { s with mode := .blind }

theorem poll?_eq_some (h : s.poll? now = some (p, s')) :
    s.timer.due ≤ now ∧ p = .signal .polling ∧ s' = s.polled now := by
  unfold poll? at h
  split at h
  · cases h
    exact ⟨‹_›, rfl, rfl⟩
  · cases h

/-- What `pull?` leads to is a step. -/
theorem pull?_sound (h : s.pull? now cancelled reachable = some (p, s')) :
    Step now cancelled reachable s p s' := by
  unfold pull? at h
  split at h
  case h_1 => cases h
  case h_2 hmode =>
    obtain ⟨hdue, rfl, rfl⟩ := poll?_eq_some h
    exact .woke hmode hdue
  case h_3 hmode =>
    split at h
    · cases h
      exact .stopped hmode ‹_›
    · rename_i hcancelled
      have hc : cancelled = false := Bool.eq_false_iff.mpr hcancelled
      split at h
      · rename_i hinbox
        cases h
        exact .read hmode hc hinbox
      · rename_i hinbox
        split at h
        · rename_i hconnected
          obtain ⟨hdue, rfl, rfl⟩ := poll?_eq_some h
          exact .polled hmode hc hinbox hconnected hdue
        · rename_i hconnected
          have hlost : s.connected = false := Bool.eq_false_iff.mpr hconnected
          split at h
          · cases h
            exact .reconnected hmode hc hinbox hlost ‹_›
          · rename_i hunreachable
            cases h
            exact .wentBlind hmode hc hinbox hlost (Bool.eq_false_iff.mpr hunreachable)

/-- A stream is blind only without a connection, and with nothing left to read. -/
def BlindAlone (s : SignalStream) : Prop :=
  s.mode = .blind → s.connected = false ∧ s.inbox = []

theorem Step.blindAlone (h : Step now cancelled reachable s p s') : s'.BlindAlone := by
  cases h with
  | woke | polled | stopped => exact nofun
  | read hmode | reconnected hmode =>
      intro hblind
      rw [hmode] at hblind
      cases hblind
  | wentBlind _ _ hinbox hlost => exact fun _ => ⟨hlost, hinbox⟩

theorem BlindAlone.notify {queue : String} (hs : s.BlindAlone) : (s.notify queue).BlindAlone := by
  unfold SignalStream.notify
  split
  · rename_i hconnected
    intro hblind
    rw [(hs hblind).1] at hconnected
    cases hconnected
  · exact hs

theorem BlindAlone.disconnect (hs : s.BlindAlone) : s.disconnect.BlindAlone :=
  fun hblind => ⟨rfl, (hs hblind).2⟩

end SignalStream

/-- What a consumer obtains from a pull, if anything: a signal, or the end. -/
def Pull.item? : Pull → Option (Option Signal)
  | .signal s => some (some s)
  | .ended => some none
  | .reconnected | .wentBlind => none

/-- A stream with the clock and the items that a consumer obtained from it. -/
structure SignalHistory where
  now : Instant
  cancelled : Bool := false
  stream : SignalStream
  items : List (Option Signal) := []

namespace SignalHistory

inductive Event where
  /-- The stream is asked for the next signal; whether the server can be reached. -/
  | pull (reachable : Bool)
  | pass (nanos : Nat)
  | notify (queue : String)
  | disconnect
  | cancel

def start (period : Span) (now : Instant) : Except Fault SignalHistory := do
  return { now, stream := ← SignalStream.start period now }

def step? (e : Event) (h : SignalHistory) : Option SignalHistory :=
  match e with
  | .pull reachable =>
    (h.stream.pull? h.now h.cancelled reachable).map fun (pull, stream) =>
      { h with stream, items := h.items ++ pull.item?.toList }
  | .pass nanos => some { h with now := h.now + nanos }
  | .notify queue => some { h with stream := h.stream.notify queue }
  | .disconnect => some { h with stream := h.stream.disconnect }
  | .cancel => some { h with cancelled := true }

variable {h h' h₀ : SignalHistory} {es : List Event}

theorem step?_pull {reachable} (hs : step? (.pull reachable) h = some h') :
    ∃ pull stream, h.stream.Step h.now h.cancelled reachable pull stream ∧
      h' = { h with stream, items := h.items ++ pull.item?.toList } := by
  obtain ⟨⟨pull, stream⟩, hpull, rfl⟩ := Option.map_eq_some_iff.mp hs
  exact ⟨pull, stream, SignalStream.pull?_sound hpull, rfl⟩

theorem start_eq_ok {period now} (hs : start period now = .ok h) :
    h = { now, stream := { timer := ⟨period, now⟩ } } := by
  unfold start SignalStream.start Ticking.start at hs
  split at hs <;> cases hs
  rfl

theorem blindAlone_of_run {period now} (hs : start period now = .ok h₀)
    (hr : after? step? es h₀ = some h) : h.stream.BlindAlone := by
  refine after?_preserves (P := fun h => h.stream.BlindAlone) ?_ hr ?_
  · intro e h h' hs hh
    cases e with
    | pull reachable =>
        obtain ⟨pull, stream, hpull, rfl⟩ := step?_pull hs
        exact hpull.blindAlone
    | notify queue => cases hs; exact hh.notify
    | disconnect => cases hs; exact hh.disconnect
    | pass nanos | cancel => cases hs; exact hh
  · cases start_eq_ok hs
    exact nofun

end SignalHistory

end TaskQueue
