import Mathlib.Data.List.Chain
import TaskQueue.Proofs.TickerLoop.History

/-!
# The pace of the calls

Before each call a ticker loop sleeps for its period. That is the period it was given until it
delivers its first ticker, and from then on one that is not shorter than the shortest period. So the
calls of all its runs keep the shortest period apart if and only if the loop was not given a shorter
one.
-/

namespace TaskQueue

namespace TickerLoop

variable {l : TickerLoop} {now wakes : Instant}

@[simp] theorem rest_period : (l.rest now).period = l.period := by
  unfold rest
  split <;> rfl

theorem wakes_of_rest (h : (l.rest now).phase = .sleeping wakes) :
    wakes = now + l.period.nanos := by
  unfold rest Instant.after? at h
  split at h
  · rename_i hafter
    split at hafter
    · cases h
      exact (Option.some.inj hafter).symm
    · cases hafter
  · cases h

/-- The sleep after the first call is not too long for the clock, if the period is short. -/
theorem after?_startDelay {period : Span} (hlt : period < PollPeriod.shortest) :
    Instant.after? startDelay.nanos period = some (startDelay.nanos + period.nanos) := by
  have hclock : startDelay.nanos + PollPeriod.shortest.nanos < Instant.limit := by decide
  exact if_pos (Nat.lt_trans (Nat.add_lt_add_left hlt _) hclock)

end TickerLoop

/-- A call for a ticker: the instant at which it began, and whether a ticker was delivered
before. -/
structure Poll where
  instant : Instant
  adapted : Bool
deriving Repr, DecidableEq

namespace Poll

/-- How long a loop that was given a period sleeps at least before a call. -/
def pause (period : Span) (p : Poll) : Span :=
  if p.adapted then PollPeriod.shortest else period

/-- The second call begins when the pause after the first is over. -/
def Follows (period : Span) (p q : Poll) : Prop :=
  p.instant + (q.pause period).nanos ≤ q.instant

end Poll

/-- Instants of which each is at least the shortest period after the one before. -/
def PollPeriod.Spaced (instants : List Instant) : Prop :=
  instants.IsChain fun a b => a + PollPeriod.shortest.nanos ≤ b

namespace TickerLoopHistory

variable {h h' h₀ : TickerLoopHistory} {e : Event} {es : List Event} {period : Span}
  {ps : List Poll}

/-- The call that would begin now. -/
def poll (h : TickerLoopHistory) : Poll :=
  ⟨h.now, !h.record.delivered.isEmpty⟩

def polled (e : Event) (h : TickerLoopHistory) : List Poll :=
  match e with
  | .move .wake => [h.poll]
  | _ => []

theorem polled_of_ne (he : e ≠ .move .wake) : polled e h = [] := by
  unfold polled
  split
  · exact absurd rfl he
  · rfl

/-- The pause before a call depends on what was delivered only. -/
theorem pause_poll (period : Span) (hdelivered : h'.record.delivered = h.record.delivered) :
    h'.poll.pause period = h.poll.pause period := by
  unfold poll
  rw [hdelivered]
  rfl

/-- The calls of a run, in order. -/
def polls (es : List Event) (h₀ : TickerLoopHistory) : List Poll :=
  gathered step? polled es h₀

/-! ## What a run preserves -/

/-- A loop that was given a period and has made some calls. It does not sleep for less than its
pause, and it does not wake before the pause since its last call is over. -/
structure Paced (period : Span) (ps : List Poll) (h : TickerLoopHistory) : Prop where
  follows : ps.IsChain (Poll.Follows period)
  pause_le : h.poll.pause period ≤ h.loop.period
  last_le : ∀ p ∈ ps.getLast?, p.instant ≤ h.now
  last_wakes : ∀ p ∈ ps.getLast?, ∀ wakes, h.loop.phase = .sleeping wakes →
    p.instant + (h.poll.pause period).nanos ≤ wakes

/-- Before its first delivery and its first call a loop is paced. -/
theorem Paced.fresh (hdelivered : h.record.delivered = []) : Paced h.loop.period [] h := by
  refine ⟨.nil, ?_, by simp, by simp⟩
  simp only [poll, hdelivered]
  exact Nat.le_refl h.loop.period.nanos

theorem Paced.start {capacity now jitter} (hs : start period capacity now jitter = .ok h₀) :
    Paced period [] h₀ := by
  cases start_eq_ok hs
  exact Paced.fresh (h := { now, loop := .start period { capacity } now jitter }) rfl

/-- A loop stays paced that makes no call and delivers nothing, if it goes to sleep for its period
only. -/
theorem Paced.keep (hp : Paced period ps h) (hnow : h.now ≤ h'.now)
    (hdelivered : h'.record.delivered = h.record.delivered)
    (hperiod : h'.loop.period = h.loop.period)
    (hsleep : ∀ wakes, h'.loop.phase = .sleeping wakes →
      h.loop.phase = .sleeping wakes ∨ wakes = h.now + h.loop.period.nanos) :
    Paced period ps h' := by
  have hpause := pause_poll period hdelivered
  constructor
  case follows => exact hp.follows
  case pause_le => rw [hpause, hperiod]; exact hp.pause_le
  case last_le => exact fun p hlast => Nat.le_trans (hp.last_le p hlast) hnow
  case last_wakes =>
    intro p hlast wakes hphase
    rw [hpause]
    rcases hsleep wakes hphase with hsleeping | rfl
    · exact hp.last_wakes p hlast wakes hsleeping
    · exact Nat.add_le_add (hp.last_le p hlast) hp.pause_le

theorem Paced.wake (hp : Paced period ps h) {wakes} (hphase : h.loop.phase = .sleeping wakes)
    (hle : wakes ≤ h.now) (hperiod : h'.loop.period = h.loop.period) (hnow : h'.now = h.now)
    (hdelivered : h'.record.delivered = h.record.delivered) (hasking : h'.loop.phase = .asking) :
    Paced period (ps ++ [h.poll]) h' := by
  have hpause := pause_poll period hdelivered
  constructor
  case follows =>
    refine hp.follows.append (.singleton _) fun p hlast q hq => ?_
    obtain rfl : h.poll = q := by simpa using hq
    exact Nat.le_trans (hp.last_wakes p hlast wakes hphase) hle
  case pause_le => rw [hpause, hperiod]; exact hp.pause_le
  case last_le =>
    intro p hlast
    obtain rfl : h.poll = p := by simpa using hlast
    exact Nat.le_of_eq hnow.symm
  case last_wakes => simp [hasking]

/-- A delivery adapts the period. -/
theorem Paced.deliver (hp : Paced period ps h) {t : Ticker} {loop : TickerLoop}
    (hloop : loop = (h.loop.adapt h.now t).rest h.now) {record : TickerLoop.Record}
    (hrecord : record.delivered = h.record.delivered ++ [t]) :
    Paced period ps { h with loop, record } := by
  subst hloop
  have hpause : Poll.pause period ⟨h.now, !record.delivered.isEmpty⟩ = PollPeriod.shortest := by
    simp [Poll.pause, hrecord]
  have hadjust := PollPeriod.shortest_le_adjust h.loop.period t.interval
    (h.loop.previous.spanTo h.now)
  constructor
  case follows => exact hp.follows
  case pause_le => simpa [poll, hpause, TickerLoop.adapt] using hadjust
  case last_le => exact hp.last_le
  case last_wakes =>
    intro p hlast wakes hphase
    rw [TickerLoop.wakes_of_rest hphase, poll, hpause]
    exact Nat.add_le_add (hp.last_le p hlast) hadjust

theorem Paced.step (hp : Paced period ps h) (hs : step? e h = some h') :
    Paced period (ps ++ polled e h) h' := by
  cases e with
  | move m =>
      obtain ⟨loop, hl, rfl⟩ := step?_move hs
      cases hl with
      | woke hphase _ hle => exact hp.wake hphase hle rfl rfl rfl rfl
      | idle _ =>
          rw [polled_of_ne (by simp), List.append_nil]
          exact hp.keep (Nat.le_refl _) rfl TickerLoop.rest_period
            fun _ hphase => .inr (TickerLoop.wakes_of_rest hphase)
      | delivered hphase _ =>
          rw [polled_of_ne (by simp), List.append_nil]
          exact hp.deliver rfl (by simp [TickerLoop.Record.note, hphase])
      | stopped | failed | fired | abandoned =>
          rw [polled_of_ne (by simp), List.append_nil]
          exact hp.keep (Nat.le_refl _) (by simp [TickerLoop.Record.note]) rfl
            (by simp [TickerLoop.finish])
  | receive =>
      obtain ⟨_, _, -, rfl⟩ := step?_receive hs
      rw [polled_of_ne (by simp), List.append_nil]
      exact hp.keep (Nat.le_refl _) rfl rfl fun _ => .inl
  | pass nanos =>
      cases hs
      rw [polled_of_ne (by simp), List.append_nil]
      exact hp.keep (Nat.le_add_right ..) rfl rfl fun _ => .inl
  | detach | cancel =>
      cases hs
      rw [polled_of_ne (by simp), List.append_nil]
      exact hp.keep (Nat.le_refl _) rfl rfl fun _ => .inl

theorem Paced.run (hp : Paced period ps h₀) (hr : after? step? es h₀ = some h) :
    Paced period (ps ++ polls es h₀) h := by
  refine after?_induction (P := fun es h => Paced period (ps ++ polls es h₀) h)
    (by simpa [polls, gathered] using hp) ?_ hr
  intro es e h h' hr hs hp
  rw [polls, gathered_snoc hr, ← List.append_assoc]
  exact hp.step hs

/-- With a period that is long enough, no call follows too soon. -/
theorem Paced.spaced (hp : Paced period ps h) (hle : PollPeriod.shortest ≤ period) :
    PollPeriod.Spaced (ps.map (·.instant)) := by
  refine (List.isChain_map _).mpr (hp.follows.imp fun p q hfollows => ?_)
  refine Nat.le_trans (Nat.add_le_add_left ?_ _) hfollows
  unfold Poll.pause
  split
  · exact Nat.le_refl _
  · exact hle

/-! ## A period that is too short -/

/-- A run in which the first call gets no ticker: the second one begins after the period. -/
def hurriedRun (period : Span) : List Event :=
  [.pass TickerLoop.startDelay.nanos, .move .wake, .move (.answered (.ok none)),
    .pass period.nanos, .move .wake]

theorem exists_hurriedRun (hlt : period < PollPeriod.shortest) :
    ∃ h₀ h, start period 1 0 .zero = .ok h₀ ∧ after? step? (hurriedRun period) h₀ = some h ∧
      (polls (hurriedRun period) h₀).map (·.instant) =
        [TickerLoop.startDelay.nanos, TickerLoop.startDelay.nanos + period.nanos] := by
  let h₀ : TickerLoopHistory :=
    { now := 0, loop := TickerLoop.start period { capacity := 1 } 0 .zero }
  have hrest : Instant.after? TickerLoop.startDelay.nanos period =
      some (TickerLoop.startDelay.nanos + period.nanos) := TickerLoop.after?_startDelay hlt
  have hrun : (after? step? (hurriedRun period) h₀).isSome = true := by
    simp [hurriedRun, after?, step?, h₀, TickerLoop.step?, TickerLoop.start, TickerLoop.rest,
      hrest, Span.zero]
  have hpolls : (polls (hurriedRun period) h₀).map (·.instant) =
      [TickerLoop.startDelay.nanos, TickerLoop.startDelay.nanos + period.nanos] := by
    simp [hurriedRun, polls, gathered, polled, poll, step?, h₀, TickerLoop.step?,
      TickerLoop.start, TickerLoop.rest, hrest, Span.zero]
  obtain ⟨h, hrun⟩ := Option.isSome_iff_exists.mp hrun
  exact ⟨h₀, h, rfl, hrun, hpolls⟩

end TickerLoopHistory

end TaskQueue
