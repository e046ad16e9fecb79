import TaskQueue.Proofs.Channel
import TaskQueue.TickerLoop.Basic

/-!
# Steps of the ticker loop

The moves of the ticker loop as a relation, one rule for each thing that the loop can do, and the
record of what it did about tickers. A ticker that was returned is kept until it is delivered or
given up; the loop goes on to its next call only with nothing kept.
-/

namespace TaskQueue.TickerLoop

variable {now : Instant} {cancelled : Bool} {l l' : TickerLoop} {m : Move}

/-- What the loop can do at an instant, cancelled or not. -/
inductive Step (now : Instant) (cancelled : Bool) (l : TickerLoop) : Move → TickerLoop → Prop where
  | stopped {wakes} : l.phase = .sleeping wakes → cancelled = true →
      Step now cancelled l .stop (l.finish (.ok ()))
  | woke {wakes} : l.phase = .sleeping wakes → cancelled = false → wakes ≤ now →
      Step now cancelled l .wake { l with phase := .asking }
  | failed {e} : l.phase = .asking →
      Step now cancelled l (.answered (.error e)) (l.finish (.error e))
  | idle : l.phase = .asking → Step now cancelled l (.answered (.ok none)) (l.rest now)
  | fired {t} : l.phase = .asking →
      Step now cancelled l (.answered (.ok (some t))) { l with phase := .offering t }
  | delivered {t} : l.phase = .offering t → l.channel.hasRoom = true →
      Step now cancelled l .deliver ((l.adapt now t).rest now)
  | abandoned {t} : l.phase = .offering t → l.mustAbandon cancelled = true →
      Step now cancelled l .abandon (l.finish (.ok ()))

theorem step?_sound (h : l.step? now cancelled m = some l') : Step now cancelled l m l' := by
  unfold step? at h
  split at h
  case h_1 hp =>
    split at h <;> cases h
    exact .stopped hp ‹_›
  case h_2 hp =>
    split at h
    · rename_i hg
      cases h
      simp only [Bool.and_eq_true, Bool.not_eq_true', decide_eq_true_eq] at hg
      exact .woke hp hg.1 hg.2
    · cases h
  case h_3 hp => cases h; exact .failed hp
  case h_4 hp => cases h; exact .idle hp
  case h_5 hp => cases h; exact .fired hp
  case h_6 hp =>
    split at h <;> cases h
    exact .delivered hp ‹_›
  case h_7 hp =>
    split at h <;> cases h
    exact .abandoned hp ‹_›
  case h_8 => cases h

theorem rest_phase (l : TickerLoop) (now : Instant) :
    (∃ wakes, (l.rest now).phase = .sleeping wakes) ∨ (l.rest now).phase = .overflowed := by
  unfold rest
  split
  · exact .inl ⟨_, rfl⟩
  · exact .inr rfl

@[simp] theorem rest_channel : (l.rest now).channel = l.channel := by
  unfold rest
  split <;> rfl

@[simp] theorem rest_result? : (l.rest now).result? = none := by
  rcases rest_phase l now with ⟨_, hp⟩ | hp <;> simp [result?, hp]

theorem phase_of_result? {r : Except OperationError Unit} (h : l.result? = some r) :
    l.phase = .ended r := by
  unfold result? at h
  split at h <;> cases h
  assumption

/-- A ticker is given up only without a receiver, or for want of room after the cancellation. -/
theorem of_mustAbandon (h : l.mustAbandon cancelled = true) :
    l.channel.attached = false ∨
      cancelled = true ∧ l.channel.capacity ≤ l.channel.items.length := by
  cases ha : l.channel.attached with
  | false => exact .inl rfl
  | true =>
      simp only [mustAbandon, Channel.hasRoom, ha, Bool.not_true, Bool.false_or, Bool.true_and,
        Bool.and_eq_true, Bool.not_eq_true', decide_eq_false_iff_not] at h
      exact .inr ⟨h.1, Nat.le_of_not_lt h.2⟩

theorem Step.attached (h : Step now cancelled l m l') :
    l'.channel.attached = l.channel.attached := by
  cases h <;> simp [finish, adapt, Channel.push]

/-- While it has a receiver, a loop ends well only because it is cancelled. -/
theorem Step.cancelled_of_ok (h : Step now cancelled l m l') (ha : l.channel.attached = true)
    (hr : l'.result? = some (.ok ())) : cancelled = true := by
  cases h with
  | stopped _ hc => exact hc
  | abandoned _ hmust =>
      rcases of_mustAbandon hmust with hdetached | ⟨hc, -⟩
      · rw [ha] at hdetached
        cases hdetached
      · exact hc
  | woke | failed | fired => simp [result?, finish] at hr
  | idle | delivered => simp at hr

theorem exists_of_receive? {t : Ticker} (h : l.receive? = some (t, l')) :
    ∃ channel, l.channel.take? = some (t, channel) ∧ l' = { l with channel } := by
  obtain ⟨⟨t, channel⟩, htake, h⟩ := Option.map_eq_some_iff.mp h
  cases h
  exact ⟨channel, htake, rfl⟩

theorem receive?_result? {t : Ticker} (h : l.receive? = some (t, l')) :
    l'.result? = l.result? := by
  obtain ⟨_, -, rfl⟩ := exists_of_receive? h
  rfl

/-! ## Records -/

/-- What a loop did about tickers, in order: how often it asked for one, the tickers that were
returned and those that it delivered, the ticker that it kept after its last call, and the failures
that it met. -/
structure Record where
  calls : Nat := 0
  returned : List Ticker := []
  delivered : List Ticker := []
  kept : Option Ticker := none
  failures : List OperationError := []

namespace Record

def note (g : Record) (l : TickerLoop) (m : Move) : Record :=
  match m, l.phase with
  | .wake, _ => { g with calls := g.calls + 1 }
  | .answered (.error e), _ => { g with failures := g.failures ++ [e] }
  | .answered (.ok (some t)), _ => { g with returned := g.returned ++ [t], kept := some t }
  | .deliver, .offering t => { g with delivered := g.delivered ++ [t], kept := none }
  | _, _ => g

/-- What the phase of a loop says about the rest of its record. -/
def Suits (g : Record) : Phase → Prop
  | .sleeping _ | .asking | .overflowed => g.kept = none ∧ g.failures = []
  | .offering t => g.kept = some t ∧ g.failures = []
  | .ended (.ok ()) => g.failures = []
  | .ended (.error e) => g.kept = none ∧ g.failures = [e]

/-- A record that can be the one of a loop: what was returned was delivered in order, apart from the
ticker that is kept. -/
structure Fits (g : Record) (l : TickerLoop) : Prop where
  returned : g.returned = g.delivered ++ g.kept.toList
  phase : g.Suits l.phase

theorem Suits.rest {g : Record} (hkept : g.kept = none) (hfailures : g.failures = []) :
    g.Suits (l.rest now).phase := by
  rcases rest_phase l now with ⟨_, hp⟩ | hp <;>
    simp [hp, Suits, hkept, hfailures]

theorem Fits.step {g : Record} (hg : g.Fits l) (h : Step now cancelled l m l') :
    (g.note l m).Fits l' := by
  obtain ⟨hreturned, hphase⟩ := hg
  cases h with
  | stopped hp _ =>
      rw [hp] at hphase
      exact ⟨hreturned, hphase.2⟩
  | woke hp _ _ =>
      rw [hp] at hphase
      exact ⟨hreturned, hphase⟩
  | failed hp =>
      rw [hp] at hphase
      obtain ⟨hk, hf⟩ := hphase
      exact ⟨hreturned, hk, by simp [note, hf]⟩
  | idle hp =>
      rw [hp] at hphase
      exact ⟨hreturned, .rest hphase.1 hphase.2⟩
  | fired hp =>
      rw [hp] at hphase
      obtain ⟨hk, hf⟩ := hphase
      exact ⟨by simp [note, hreturned, hk], rfl, hf⟩
  | delivered hp _ =>
      rw [hp] at hphase
      obtain ⟨hk, hf⟩ := hphase
      exact ⟨by simp [note, hp, hreturned, hk], .rest (by simp [note, hp]) (by simp [note, hp, hf])⟩
  | abandoned hp _ =>
      rw [hp] at hphase
      exact ⟨by simpa [note, hp] using hreturned, by simp [note, finish, Suits, hphase.2]⟩

/-- A loop keeps nothing after its end unless it gave a ticker up. -/
theorem Fits.kept_of_ended {g : Record} {r : Except OperationError Unit} (hg : g.Fits l)
    (h : Step now cancelled l m l') (hr : l'.result? = some r) (hm : m ≠ .abandon) :
    (g.note l m).kept = none := by
  have hphase := hg.phase
  cases h with
  | stopped hp _ | failed hp =>
      rw [hp] at hphase
      exact hphase.1
  | abandoned => exact absurd rfl hm
  | woke | fired => simp [result?] at hr
  | idle | delivered => simp at hr

end Record

/-- What a step puts into the channel it also adds to the record. -/
theorem Step.carried {g : Record} {received : List Ticker} (h : Step now cancelled l m l')
    (hc : l.channel.Carried received g.delivered) :
    l'.channel.Carried received (g.note l m).delivered := by
  cases h with
  | delivered hp hroom => simpa [Record.note, hp, adapt] using hc.push hroom
  | stopped | woke | failed | fired => exact hc
  | idle hp => simpa [Record.note, hp] using hc
  | abandoned hp _ => simpa [Record.note, hp, finish] using hc

theorem Step.calls (h : Step now true l m l') (g : Record) : (g.note l m).calls = g.calls := by
  cases h with
  | woke _ hc _ => cases hc
  | delivered hp _ | abandoned hp _ => simp [Record.note, hp]
  | stopped | failed | idle | fired => rfl

end TaskQueue.TickerLoop
