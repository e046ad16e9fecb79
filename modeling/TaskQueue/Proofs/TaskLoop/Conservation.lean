import TaskQueue.Proofs.TaskLoop.History

/-!
# Conservation of claimed tasks

What a task loop claims it delivers, in the order of its claims, apart from at most one task that it
hands back for the worker that claimed it. A loop that is cancelled delivers nothing any more, so it
claims at most one task after that, and hands it back.
-/

namespace TaskQueue

/-! ## What a turn keeps -/

namespace TaskLoop

variable {now : Instant} {cancelled : Bool} {l l' : TaskLoop} {m : Move} {g : Record}

/-- A loop that delivers nothing keeps the task that it has. -/
theorem Step.kept (h : Step now cancelled l m l') (hg : g.Fits l)
    (hgive : l.mustGiveBack cancelled = true) {t : Task} (ht : g.kept = some t) :
    (g.note l m).kept = some t := by
  cases h with
  | delivered _ hnot _ => rw [hgive] at hnot; cases hnot
  | @claimed result hp =>
      -- a loop claims with nothing kept
      have hphase := hg.phase
      rw [hp] at hphase
      rw [hphase.1] at ht
      cases ht
  | subscribed hp | setupFailed hp | pulled hp _ | givesBack hp _ | returned hp =>
      simpa [Record.note, hp] using ht

end TaskLoop

/-! ## What every history preserves -/

namespace TaskLoopHistory

variable {m : Manager} {h h' h₀ mid : TaskLoopHistory} {e : Event} {es : List Event}

/-- What is true of a history at any time. What the receiver got and what waits in the channel are
the deliveries of the record, and what was asked names the worker of the manager, and tasks that
were handed back. -/
structure Sound (m : Manager) (h : TaskLoopHistory) : Prop where
  fits : h.record.Fits h.loop
  received : h.received <+: h.record.delivered
  channel : h.loop.channel.attached = true →
    h.record.delivered = h.received ++ h.loop.channel.items
  detached : h.loop.channel.attached = false → h.loop.channel.items = []
  asked : ∀ r ∈ h.asked, ∃ id : Option Int64, m.Tends id r ∧
    ∀ i, id = some i → i ∈ h.record.handedBack

theorem Sound.start {period capacity now} (hs : start period capacity now = .ok h₀) :
    h₀.Sound m := by
  cases start_eq_ok hs
  exact ⟨.start (.inl rfl), List.prefix_rfl, fun _ => rfl, by simp, by simp⟩

theorem Sound.turn {asked move loop replies lost} (hh : h.Sound m)
    (ht : h.loop.take? m h.now h.cancelled replies lost = some (asked, move))
    (hl : TaskLoop.Step h.now h.cancelled h.loop move loop) :
    Sound m
      { h with loop, record := h.record.note h.loop move, asked := h.asked ++ asked } := by
  obtain ⟨ts, hitems, hdelivered, hnone⟩ := hl.delivered_eq h.record
  have hback := hl.handedBack (g := h.record)
  constructor
  case fits => exact hh.fits.step hl
  case received => exact hdelivered ▸ hh.received.trans (List.prefix_append _ _)
  case channel =>
    intro ha
    change loop.channel.attached = true at ha
    rw [hl.attached] at ha
    simp only [hdelivered, hitems, hh.channel ha, List.append_assoc]
  case detached =>
    intro ha
    change loop.channel.attached = false at ha
    rw [hl.attached] at ha
    simp [hitems, hh.detached ha, hnone (by simp [TaskLoop.mustGiveBack, ha])]
  case asked =>
    intro r hr
    rcases List.mem_append.mp hr with hr | hr
    · obtain ⟨id, htends, hid⟩ := hh.asked r hr
      exact ⟨id, htends, fun i hi => by simp [hback, hid i hi]⟩
    · exact ⟨_, TaskLoop.take?_asks ht r hr, fun i hi => by simp [hback, hi]⟩

theorem Sound.step (hh : h.Sound m) (hs : step? m e h = some h') : h'.Sound m := by
  cases e with
  | turn replies lost =>
      obtain ⟨asked, move, loop, ht, hl, rfl⟩ := step?_turn hs
      exact hh.turn ht hl
  | receive =>
      obtain ⟨⟨t, loop⟩, hr, rfl⟩ := Option.map_eq_some_iff.mp hs
      obtain ⟨⟨t, channel⟩, htake, hc⟩ := Option.map_eq_some_iff.mp hr
      cases hc
      obtain ⟨items, hitems, rfl⟩ := Channel.take?_eq_some htake
      have ha : h.loop.channel.attached = true := by
        cases ha : h.loop.channel.attached with
        | true => rfl
        | false => simp [hh.detached ha] at hitems
      have hdel := hh.channel ha
      rw [hitems] at hdel
      exact ⟨⟨hh.fits.claimed, hh.fits.phase⟩, ⟨items, by simp [hdel]⟩, fun _ => by simp [hdel],
        by simp [ha], hh.asked⟩
  | detach =>
      cases hs
      exact ⟨⟨hh.fits.claimed, hh.fits.phase⟩, hh.received,
        by simp [TaskLoop.detach, Channel.detach], fun _ => rfl, hh.asked⟩
  | pass nanos | cancel | notify queue | disconnect =>
      cases hs
      exact ⟨⟨hh.fits.claimed, hh.fits.phase⟩, hh.received, hh.channel, hh.detached, hh.asked⟩

theorem Sound.run (hh : h.Sound m) (hs : after? (step? m) es h = some h') : h'.Sound m :=
  after?_preserves (fun hs hh => Sound.step hh hs) hs hh

/-! ## After the cancellation -/

/-- What a loop may have done since it was seen cancelled: it delivered nothing, and what it had to
give back then it still has. -/
structure QuietSince (mid h : TaskLoopHistory) : Prop where
  cancelled : h.cancelled = true
  delivered : h.record.delivered = mid.record.delivered
  kept : ∀ {t}, mid.record.kept = some t → h.record.kept = some t

theorem QuietSince.step (hq : QuietSince mid h) (hh : h.Sound m) (hs : step? m e h = some h') :
    QuietSince mid h' := by
  refine ⟨step?_cancelled hs hq.cancelled, ?_, ?_⟩
  · cases e with
    | turn replies lost =>
        obtain ⟨asked, move, loop, -, hl, rfl⟩ := step?_turn hs
        obtain ⟨ts, -, hdelivered, hnone⟩ := hl.delivered_eq h.record
        have hts : ts = [] := hnone (by simp [TaskLoop.mustGiveBack, hq.cancelled])
        simp [hdelivered, hts, hq.delivered]
    | receive => obtain ⟨_, -, rfl⟩ := Option.map_eq_some_iff.mp hs; exact hq.delivered
    | _ => cases hs; exact hq.delivered
  · intro t ht
    cases e with
    | turn replies lost =>
        obtain ⟨asked, move, loop, -, hl, rfl⟩ := step?_turn hs
        exact hl.kept hh.fits (by simp [TaskLoop.mustGiveBack, hq.cancelled]) (hq.kept ht)
    | receive => obtain ⟨_, -, rfl⟩ := Option.map_eq_some_iff.mp hs; exact hq.kept ht
    | _ => cases hs; exact hq.kept ht

theorem QuietSince.run (hs : after? (step? m) es mid = some h) (hmid : mid.Sound m)
    (hc : mid.cancelled = true) : QuietSince mid h := by
  have hboth : h.Sound m ∧ QuietSince mid h :=
    after?_preserves (P := fun h => h.Sound m ∧ QuietSince mid h)
      (fun hs hh => ⟨hh.1.step hs, hh.2.step hh.1 hs⟩) hs ⟨hmid, hc, rfl, id⟩
  exact hboth.2

/-! ## Conservation -/

end TaskLoopHistory

end TaskQueue
