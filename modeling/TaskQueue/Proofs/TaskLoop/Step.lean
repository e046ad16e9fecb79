import TaskQueue.TaskLoop.Basic

/-!
# Steps of the task loop

The moves of the task loop as a relation, one rule for each thing that the loop can do, and the
record of what it did about tasks. A task that was claimed is kept until it is delivered; the loop
goes on to its next claim only with nothing kept.
-/

namespace TaskQueue.TaskLoop

variable {now : Instant} {cancelled : Bool} {l l' : TaskLoop} {m : Move}

def afterPull : Pull → Phase
  | .signal _ => .claiming
  | .ended => .ended (.ok ())
  | .reconnected | .wentBlind => .waiting

/-- What the loop can do at an instant, cancelled or not. -/
inductive Step (now : Instant) (cancelled : Bool) (l : TaskLoop) : Move → TaskLoop → Prop where
  | subscribed : l.phase = .subscribing →
      Step now cancelled l (.subscribed (.ok ())) { l with phase := .waiting }
  | setupFailed {e} : l.phase = .subscribing →
      Step now cancelled l (.subscribed (.error e)) { l with phase := .ended (.error e) }
  | pulled {reachable pull stream} : l.phase = .waiting →
      l.stream.pull? now cancelled reachable = some (pull, stream) →
      Step now cancelled l (.pull reachable) { l with stream, phase := afterPull pull }
  | claimed {result} : l.phase = .claiming →
      Step now cancelled l (.claimed result) { l with phase := afterClaim result }
  | delivered {t} : l.phase = .holding t → l.mustGiveBack cancelled = false →
      l.channel.hasRoom = true →
      Step now cancelled l .deliver { l with phase := .claiming, channel := l.channel.push t }
  | givesBack {t} : l.phase = .holding t → l.mustGiveBack cancelled = true →
      Step now cancelled l .giveBack { l with phase := .returning t.id }
  | returned {id result} : l.phase = .returning id →
      Step now cancelled l (.returned result) { l with phase := .ended (.ok ()) }

/-- What `step?` leads to is a step. -/
theorem step?_sound (h : l.step? now cancelled m = some l') : Step now cancelled l m l' := by
  unfold step? at h
  split at h
  case h_1 hp => cases h; exact .subscribed hp
  case h_2 hp => cases h; exact .setupFailed hp
  case h_3 reachable hp =>
    obtain ⟨⟨pull, stream⟩, hpull, rfl⟩ := Option.map_eq_some_iff.mp h
    have step := Step.pulled hp hpull
    cases pull <;> simpa [afterPull, hp] using step
  case h_4 hp => cases h; exact .claimed hp
  case h_5 t hp =>
    split at h
    · rename_i hg
      cases h
      simp only [Bool.and_eq_true, Bool.not_eq_true'] at hg
      exact .delivered hp hg.1 hg.2
    · cases h
  case h_6 t hp =>
    split at h
    · cases h; exact .givesBack hp ‹_›
    · cases h
  case h_7 hp => cases h; exact .returned hp
  case h_8 => cases h

theorem Step.not_ended (h : Step now cancelled l m l') : l.result? = none := by
  cases h <;> simp_all [result?]

/-- A step changes the channel only by putting a task in. -/
theorem Step.attached (h : Step now cancelled l m l') :
    l'.channel.attached = l.channel.attached := by
  cases h <;> rfl

/-! ## Records -/

/-- What a loop did about tasks, in order: the tasks it claimed and delivered, the task it kept
after its last claim, the calls that gave a task back, and the failures that it met. -/
structure Record where
  claimed : List Task := []
  delivered : List Task := []
  kept : Option Task := none
  handedBack : List Int64 := []
  failures : List OperationError := []

namespace Record

def note (g : Record) (l : TaskLoop) (m : Move) : Record :=
  match m, l.phase with
  | .subscribed (.error e), _ => { g with failures := g.failures ++ [e] }
  | .claimed (.error e), _ => { g with failures := g.failures ++ [e] }
  | .claimed (.ok (some t)), _ => { g with claimed := g.claimed ++ [t], kept := some t }
  | .deliver, .holding t => { g with delivered := g.delivered ++ [t], kept := none }
  | .returned _, .returning id => { g with handedBack := g.handedBack ++ [id] }
  | _, _ => g

/-- What the phase of a loop says about the rest of its record. -/
def Suits (g : Record) : Phase → Prop
  | .subscribing | .waiting | .claiming => g.kept = none ∧ g.handedBack = [] ∧ g.failures = []
  | .holding t => g.kept = some t ∧ g.handedBack = [] ∧ g.failures = []
  | .returning id => g.kept.map Task.id = some id ∧ g.handedBack = [] ∧ g.failures = []
  | .ended (.ok ()) => g.handedBack = g.kept.toList.map Task.id ∧ g.failures = []
  | .ended (.error e) => g.kept = none ∧ g.handedBack = [] ∧ g.failures = [e]

/-- A record that can be the one of a loop: what was claimed was delivered in order, apart from the
task that is kept. -/
structure Fits (g : Record) (l : TaskLoop) : Prop where
  claimed : g.claimed = g.delivered ++ g.kept.toList
  phase : g.Suits l.phase

theorem Fits.start {l : TaskLoop} (h : l.phase = .subscribing ∨ l.phase = .ended (.ok ())) :
    ({} : Record).Fits l := by
  constructor
  · rfl
  · rcases h with h | h <;> simp [h, Suits]

/-- Each step keeps the record fitting. -/
theorem Fits.step {g : Record} (hg : g.Fits l) (h : Step now cancelled l m l') :
    (g.note l m).Fits l' := by
  obtain ⟨hclaimed, hphase⟩ := hg
  cases h with
  | subscribed hp => exact ⟨hclaimed, by simpa [hp, Suits, note] using hphase⟩
  | setupFailed hp =>
      rw [hp] at hphase
      obtain ⟨hk, hb, hf⟩ := hphase
      exact ⟨hclaimed, hk, hb, by simp [note, hf]⟩
  | @pulled _ pull _ hp _ =>
      rw [hp] at hphase
      obtain ⟨hk, hb, hf⟩ := hphase
      refine ⟨hclaimed, ?_⟩
      cases pull <;> simp [afterPull, Suits, note, hk, hb, hf]
  | @claimed result hp =>
      rw [hp] at hphase
      obtain ⟨hk, hb, hf⟩ := hphase
      rcases result with e | _ | t
      · exact ⟨hclaimed, hk, hb, by simp [note, hf]⟩
      · exact ⟨hclaimed, hk, hb, hf⟩
      · exact ⟨by simp [note, hclaimed, hk], rfl, hb, hf⟩
  | delivered hp _ _ =>
      rw [hp] at hphase
      obtain ⟨hk, hb, hf⟩ := hphase
      constructor
      · simp [note, hp, hclaimed, hk]
      · simp [note, hp, Suits, hb, hf]
  | givesBack hp _ =>
      rw [hp] at hphase
      obtain ⟨hk, hb, hf⟩ := hphase
      exact ⟨hclaimed, by simp [note, hk], hb, hf⟩
  | returned hp =>
      rw [hp] at hphase
      obtain ⟨hk, hb, hf⟩ := hphase
      obtain ⟨t, hkept, rfl⟩ := Option.map_eq_some_iff.mp hk
      refine ⟨by simpa [note, hp] using hclaimed, ?_⟩
      simp [note, hp, Suits, hkept, hb, hf]

end Record

/-- What a turn adds to the channel it also adds to the record, and only while the loop is not
cancelled and its channel has a receiver. -/
theorem Step.delivered_eq (h : Step now cancelled l m l') (g : Record) :
    ∃ ts, l'.channel.items = l.channel.items ++ ts ∧
      (g.note l m).delivered = g.delivered ++ ts ∧
      (l.mustGiveBack cancelled = true → ts = []) := by
  cases h with
  | @delivered t hp hgive _ => exact ⟨[t], rfl, by simp [Record.note, hp], by simp [hgive]⟩
  | @claimed result hp =>
      refine ⟨[], by simp, ?_, fun _ => rfl⟩
      rcases result with e | _ | t <;> simp [Record.note]
  | subscribed hp | setupFailed hp | pulled hp _ | givesBack hp _ | returned hp =>
      exact ⟨[], by simp, by simp [Record.note, hp], fun _ => rfl⟩

end TaskQueue.TaskLoop
