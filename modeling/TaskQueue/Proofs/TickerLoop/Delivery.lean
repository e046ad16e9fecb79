import TaskQueue.Proofs.TickerLoop.History

/-!
# Delivery of tickers

A ticker loop delivers the tickers that it gets in the order in which it gets them. It may lose the
last of them, when nobody receives any more, or when it is cancelled while the channel is full. It
asks for none after the cancellation, but the answer to a question that was asked before is still
delivered if there is room for it.
-/

namespace TaskQueue.TickerLoopHistory

variable {h h' h₀ : TickerLoopHistory} {e : Event} {es : List Event} {t : Ticker}

/-! ## Tickers given up -/

/-- In a run the loop gave a ticker up: at that moment it offered the ticker to a channel without a
receiver, or was cancelled and offered it to a full one. -/
def GivesUp (h₀ : TickerLoopHistory) (es : List Event) (t : Ticker) : Prop :=
  ∃ before after mid, es = before ++ .move .abandon :: after ∧
    after? step? before h₀ = some mid ∧ mid.loop.phase = .offering t ∧
    (mid.loop.channel.attached = false ∨ mid.cancelled = true ∧
      mid.loop.channel.items.length = mid.loop.channel.capacity)

theorem GivesUp.snoc (hg : GivesUp h₀ es t) : GivesUp h₀ (es ++ [e]) t := by
  obtain ⟨before, after, mid, rfl, hmid⟩ := hg
  exact ⟨before, after ++ [e], mid, by simp, hmid⟩

/-- Apart from its moves, nothing ends a loop or changes its record. -/
theorem ended_of_step? (hs : step? e h = some h') (he : ∀ m, e ≠ .move m) :
    h'.loop.result? = h.loop.result? ∧ h'.record = h.record := by
  cases e with
  | move m => exact absurd rfl (he m)
  | receive =>
      obtain ⟨_, _, -, rfl⟩ := step?_receive hs
      exact ⟨rfl, rfl⟩
  | pass nanos | detach | cancel => cases hs; exact ⟨rfl, rfl⟩

theorem Sound.givesUp {r} (hh : h₀.Sound) (h₀r : h₀.loop.result? = none)
    (hr : after? step? es h₀ = some h) (he : h.loop.result? = some r)
    (ht : h.record.kept = some t) : GivesUp h₀ es t := by
  refine after?_induction
    (P := fun es h => ∀ r, h.loop.result? = some r → h.record.kept = some t → GivesUp h₀ es t)
    (fun r he => by simp [h₀r] at he) ?_ hr r he ht
  intro es e h h' hr hs ih r he ht
  cases e with
  | move m =>
      have hsound : h.Sound := hh.run hr
      obtain ⟨loop, hl, rfl⟩ := step?_move hs
      -- no other move ends a loop that keeps a ticker
      by_cases hm : m = .abandon
      · subst m
        cases hl with
        | abandoned hp hmust =>
            have hphase := hsound.fits.phase
            rw [hp] at hphase
            have hkept : h.record.kept = some t := by simpa [TickerLoop.Record.note, hp] using ht
            cases hphase.1.symm.trans hkept
            refine ⟨es, [], h, rfl, hr, hp, ?_⟩
            rcases TickerLoop.of_mustAbandon hmust with hdetached | ⟨hcancelled, hfull⟩
            · exact .inl hdetached
            · exact .inr ⟨hcancelled, Nat.le_antisymm hsound.carried.bounded hfull⟩
      · have hnone := hsound.fits.kept_of_ended hl he hm
        exact absurd (hnone.symm.trans ht) (by simp)
  | pass | receive | detach | cancel =>
      obtain ⟨hresult, hrecord⟩ := ended_of_step? hs (by simp)
      exact (ih r (hresult ▸ he) (hrecord ▸ ht)).snoc

/-! ## Delivery -/

/-- What holds of a loop at any time of a run from `h₀`. -/
structure Delivers (h₀ : TickerLoopHistory) (es : List Event) (h : TickerLoopHistory) : Prop where
  /-- What was returned was delivered in order, except for a ticker kept last. -/
  returned : h.record.returned = h.record.delivered ++ h.record.kept.toList
  carried : h.loop.channel.Carried h.received h.record.delivered
  /-- A loop keeps a ticker only while it offers it, or because it gave it up. -/
  kept : ∀ t, h.record.kept = some t → h.loop.phase = .offering t ∨
    h.loop.result? = some (.ok ()) ∧ GivesUp h₀ es t
  /-- A ticker that is offered is not given up while there is room for it. -/
  offered : ∀ t, h.loop.phase = .offering t → h.loop.channel.hasRoom = true →
    step? (.move .abandon) h = none ∧
      ∃ h', step? (.move .deliver) h = some h' ∧
        h'.record.delivered = h.record.delivered ++ [t] ∧ h'.record.kept = none
  /-- Whatever a call comes to, the loop goes on with it. -/
  heard : h.loop.phase = .asking → ∀ result, (step? (.move (.answered result)) h).isSome = true
  /-- The loop fails with the failure of a call, and only then. -/
  failed : ∀ e, h.loop.result? = some (.error e) ↔ h.record.failures = [e]
  once : h.record.failures.length ≤ 1
  undelivered : ∀ e, h.loop.result? = some (.error e) → h.record.returned = h.record.delivered
  /-- After the cancellation there are no more calls. -/
  calls : ∀ before after mid, es = before ++ after → after? step? before h₀ = some mid →
    mid.cancelled = true → h.record.calls = mid.record.calls

theorem offered_of_hasRoom (hp : h.loop.phase = .offering t)
    (hroom : h.loop.channel.hasRoom = true) :
    step? (.move .abandon) h = none ∧
      ∃ h', step? (.move .deliver) h = some h' ∧
        h'.record.delivered = h.record.delivered ++ [t] ∧ h'.record.kept = none := by
  have hattached : h.loop.channel.attached = true := by
    simp only [Channel.hasRoom, Bool.and_eq_true] at hroom
    exact hroom.1
  constructor
  · simp [step?, TickerLoop.step?, hp, TickerLoop.mustAbandon, hroom, hattached]
  · simp [step?, TickerLoop.step?, hp, hroom, TickerLoop.Record.note]

theorem heard_of_asking (hp : h.loop.phase = .asking) (result) :
    (step? (.move (.answered result)) h).isSome = true := by
  rcases result with e | _ | t <;> simp [step?, TickerLoop.step?, hp]

theorem Sound.failed (hh : h.Sound) :
    (∀ e, h.loop.result? = some (.error e) ↔ h.record.failures = [e]) ∧
      h.record.failures.length ≤ 1 := by
  have hphase := hh.fits.phase
  unfold TickerLoop.result?
  cases hp : h.loop.phase with
  | ended r =>
      rw [hp] at hphase
      rcases r with e | _
      · simp [hphase.2]
      · simp [show h.record.failures = [] from hphase]
  | sleeping | asking | offering | overflowed =>
      rw [hp] at hphase
      simp [hphase.2]

theorem Sound.offers_or_ended (hh : h.Sound) (ht : h.record.kept = some t) :
    h.loop.phase = .offering t ∨ h.loop.result? = some (.ok ()) := by
  have hphase := hh.fits.phase
  unfold TickerLoop.result?
  cases hp : h.loop.phase with
  | offering t' =>
      rw [hp] at hphase
      cases hphase.1.symm.trans ht
      exact .inl rfl
  | sleeping | asking | overflowed =>
      rw [hp] at hphase
      exact absurd (hphase.1.symm.trans ht) (by simp)
  | ended r =>
      rcases r with e | _
      · rw [hp] at hphase
        exact absurd (hphase.1.symm.trans ht) (by simp)
      · exact .inr rfl

/-- Whatever it is answered and whatever else happens, a loop delivers what it gets. -/
theorem delivers_in_order {period capacity now jitter}
    (hs : start period capacity now jitter = .ok h₀)
    (hr : after? step? es h₀ = some h) : Delivers h₀ es h := by
  have hstart : h₀.Sound := .start hs
  have hh : h.Sound := hstart.run hr
  constructor
  case returned => exact hh.fits.returned
  case carried => exact hh.carried
  case kept =>
    intro t ht
    have hbegin : h₀.loop.result? = none := by cases start_eq_ok hs; rfl
    rcases hh.offers_or_ended ht with hp | hresult
    · exact .inl hp
    · exact .inr ⟨hresult, hstart.givesUp hbegin hr hresult ht⟩
  case offered => exact fun t => offered_of_hasRoom
  case heard => exact heard_of_asking
  case failed => exact hh.failed.1
  case once => exact hh.failed.2
  case undelivered =>
    intro e hresult
    have hphase := hh.fits.phase
    rw [TickerLoop.phase_of_result? hresult] at hphase
    rw [hh.fits.returned, hphase.1, Option.toList_none, List.append_nil]
  case calls =>
    rintro before after mid rfl hmid hc
    rw [after?_append, hmid] at hr
    exact calls_of_cancelled hr hc

/-- A run in which the loop is cancelled while it asks for the second time. The channel is still
full of the first answer, so the second is given up. -/
def crowdedRun : List Event :=
  let fires (name : String) : Event :=
    .move (.answered (.ok (some (.fresh "default" name none))))
  [.pass (Instant.ofMillis 100), .move .wake, fires "a", .move .deliver,
    .pass (Instant.ofMillis 200), .move .wake, .cancel, fires "b", .move .abandon]

theorem crowdedRun_delivers :
    ∃ h₀ h t, start (.ofMillis 200) 1 0 .zero = .ok h₀ ∧
      after? step? crowdedRun h₀ = some h ∧ Delivers h₀ crowdedRun h ∧
      h.record.returned = h.record.delivered ++ [t] ∧ h.record.delivered.length = 1 ∧
      h.record.calls = 2 ∧ GivesUp h₀ crowdedRun t := by
  let h₀ : TickerLoopHistory :=
    { now := 0, loop := TickerLoop.start (.ofMillis 200) { capacity := 1 } 0 .zero }
  have hs : start (.ofMillis 200) 1 0 .zero = .ok h₀ := rfl
  let t : Ticker := .fresh "default" "b" none
  have hrun : (after? step? crowdedRun h₀).any (fun h =>
      h.loop.result?.isSome ∧ h.record.kept = some t ∧ h.record.delivered.length = 1 ∧
        h.record.calls = 2) = true := by
    decide +kernel
  obtain ⟨h, hrun, hh⟩ := (Option.any_eq_true _ _).mp hrun
  obtain ⟨hended, hkept, hdelivered, hcalls⟩ := of_decide_eq_true hh
  have hd := delivers_in_order hs hrun
  have hgives : GivesUp h₀ crowdedRun t := by
    rcases hd.kept t hkept with hp | ⟨-, hgives⟩
    · simp [TickerLoop.result?, hp] at hended
    · exact hgives
  refine ⟨h₀, h, t, hs, hrun, hd, ?_, hdelivered, hcalls, hgives⟩
  rw [hd.returned, hkept]
  rfl

end TaskQueue.TickerLoopHistory
