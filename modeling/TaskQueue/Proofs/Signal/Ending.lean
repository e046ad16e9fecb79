import TaskQueue.Proofs.Signal.History

/-!
# The end of a stream of signals

A stream that is cancelled ends with the next item, whatever it waits for, unless it is blind. Then
it does not notice the cancellation before its next poll, which its consumer still obtains.
-/

namespace TaskQueue

/-- What a consumer can still obtain from a stream that is cancelled. -/
def SignalMode.farewell : SignalMode → List (Option Signal)
  | .listening => [none]
  | .blind => [some .polling, none]
  | .ended => []

namespace SignalHistory

variable {h h' h₀ mid : SignalHistory} {e : Event} {es before after : List Event}

/-- What a consumer took in between two moments of a stream that was cancelled before. -/
def Takes (mid h : SignalHistory) (taken : List (Option Signal)) : Prop :=
  h.items = mid.items ++ taken ∧ taken ++ h.stream.mode.farewell = mid.stream.mode.farewell

/-- From now on a consumer obtains no signal. -/
def Silent (mid : SignalHistory) : Prop :=
  ∀ {after h}, after? step? after mid = some h →
    ∃ taken, h.items = mid.items ++ taken ∧ ∀ item ∈ taken, item = none

theorem takes_of_step (hs : step? e h = some h') (hc : h.cancelled = true) :
    h'.cancelled = true ∧ ∃ taken, h.Takes h' taken := by
  cases e with
  | pull reachable =>
      obtain ⟨pull, stream, hpull, rfl⟩ := step?_pull hs
      refine ⟨hc, pull.item?.toList, rfl, ?_⟩
      rw [hc] at hpull
      cases hpull with
      | woke hmode | stopped hmode => rw [hmode]; rfl
      | read _ hcancelled | polled _ hcancelled | reconnected _ hcancelled
      | wentBlind _ hcancelled => cases hcancelled
  | notify queue =>
      cases hs
      refine ⟨hc, [], by simp, ?_⟩
      unfold SignalStream.notify
      split <;> rfl
  | disconnect | pass nanos => cases hs; exact ⟨hc, [], by simp, rfl⟩
  | cancel => cases hs; exact ⟨rfl, [], by simp, rfl⟩

/-- What a consumer takes from a cancelled stream, and what it can still obtain, is the farewell. -/
theorem takes_of_run (hr : after? step? es mid = some h) (hc : mid.cancelled = true) :
    ∃ taken, mid.Takes h taken := by
  have hboth : h.cancelled = true ∧ ∃ taken, mid.Takes h taken := by
    refine after?_preserves (P := fun h => h.cancelled = true ∧ ∃ taken, mid.Takes h taken) ?_ hr
      ⟨hc, [], by simp, rfl⟩
    rintro e h h' hs ⟨hc, taken, hitems, hfarewell⟩
    obtain ⟨hc', more, hmore, hrest⟩ := takes_of_step hs hc
    refine ⟨hc', taken ++ more, ?_, ?_⟩
    · rw [hmore, hitems, List.append_assoc]
    · rw [List.append_assoc, hrest, hfarewell]
  exact hboth.2

theorem exists_poll {reachable : Bool} (hblind : h.stream.mode = .blind)
    (hdue : h.stream.timer.due ≤ h.now) :
    ∃ h', step? (.pull reachable) h = some h' ∧ h'.items = h.items ++ [some .polling] := by
  refine ⟨{ h with stream := h.stream.polled h.now, items := h.items ++ [some .polling] }, ?_, rfl⟩
  simp [step?, SignalStream.pull?, SignalStream.poll?, hblind, hdue, SignalStream.polled,
    Pull.item?]

theorem exists_end {reachable : Bool} (hlistening : h.stream.mode = .listening)
    (hc : h.cancelled = true) :
    ∃ h', step? (.pull reachable) h = some h' ∧ h'.items = h.items ++ [none] := by
  refine ⟨{ h with stream := { h.stream with mode := .ended }, items := h.items ++ [none] }, ?_,
    rfl⟩
  simp [step?, SignalStream.pull?, hlistening, hc, Pull.item?]

/-- A blind stream yields its next poll when the time for it has come. -/
theorem not_silent_of_blind (hblind : mid.stream.mode = .blind) : ¬ mid.Silent := by
  intro hsilent
  let due : SignalHistory := { mid with now := mid.now + mid.stream.timer.due }
  obtain ⟨h, hpull, hitems⟩ : ∃ h, step? (.pull true) due = some h ∧
      h.items = mid.items ++ [some .polling] :=
    exists_poll (h := due) hblind (Nat.le_add_left ..)
  have hr : after? step? [.pass mid.stream.timer.due, .pull true] mid = some h :=
    after?_cons.mpr ⟨due, rfl, after?_singleton.trans hpull⟩
  obtain ⟨taken, htaken, hnone⟩ := hsilent hr
  obtain rfl : [some .polling] = taken := List.append_cancel_left (hitems.symm.trans htaken)
  cases hnone _ (List.mem_singleton_self _)

theorem silent_iff (hc : mid.cancelled = true) : mid.Silent ↔ mid.stream.mode ≠ .blind := by
  refine ⟨fun hsilent hblind => not_silent_of_blind hblind hsilent, fun hmode after h hr => ?_⟩
  obtain ⟨taken, hitems, hfarewell⟩ := takes_of_run hr hc
  refine ⟨taken, hitems, fun item hitem => ?_⟩
  have hmem : item ∈ mid.stream.mode.farewell := by
    rw [← hfarewell]
    exact List.mem_append_left _ hitem
  cases hm : mid.stream.mode with
  | blind => exact absurd hm hmode
  | listening => simpa [hm, SignalMode.farewell] using hmem
  | ended => simp [hm, SignalMode.farewell] at hmem

/-- From the moment `mid`, at which a stream is cancelled, no signal comes if and only if the stream
is not blind then. It ends with the next item, which is there at once. A stream that is blind has
lost its connection; its next poll comes once it is due, and after it the end. -/
theorem cancelled_silent_iff {period now} (hs : start period now = .ok h₀)
    (hbefore : after? step? before h₀ = some mid) (hc : mid.cancelled = true) :
    (mid.Silent ↔ mid.stream.mode ≠ .blind) ∧
    (mid.stream.mode = .listening → ∀ reachable, ∃ h,
      step? (.pull reachable) mid = some h ∧ h.items = mid.items ++ [none]) ∧
    (mid.stream.mode = .blind → mid.stream.connected = false ∧
      (mid.stream.timer.due ≤ mid.now → ∀ reachable, ∃ h,
        step? (.pull reachable) mid = some h ∧ h.items = mid.items ++ [some .polling])) ∧
    ∀ after h, after? step? after mid = some h → ∃ taken, mid.Takes h taken := by
  refine ⟨silent_iff hc, fun hlistening _ => exists_end hlistening hc, fun hblind => ?_,
    fun _ _ hr => takes_of_run hr hc⟩
  exact ⟨(blindAlone_of_run hs hbefore hblind).1, fun hdue _ => exists_poll hblind hdue⟩

/-- A stream that is cancelled while it waits for its second signal. -/
def idleRun : List Event := [.pull true, .notify "mail", .cancel]

theorem idleRun_silent :
    ∃ h₀ mid, start (.ofSecs 1) 0 = .ok h₀ ∧ after? step? idleRun h₀ = some mid ∧
      mid.cancelled = true ∧ mid.stream.inbox = ["mail"] ∧ mid.Silent ∧
      ∃ h, step? (.pull true) mid = some h ∧ h.items = [some .polling, none] := by
  have hrun : ((start (.ofSecs 1) 0).toOption.bind (after? step? idleRun)).any (fun mid =>
      mid.cancelled && mid.stream.mode = .listening && mid.stream.inbox = ["mail"] &&
        mid.items = [some .polling]) = true := by
    decide +kernel
  obtain ⟨h₀, mid, hs, hr, hmid⟩ := exists_run hrun
  simp only [Bool.and_eq_true, decide_eq_true_eq] at hmid
  obtain ⟨⟨⟨hc, hmode⟩, hinbox⟩, hitems⟩ := hmid
  obtain ⟨hsilent, hends, -, -⟩ := cancelled_silent_iff hs hr hc
  obtain ⟨h, hpull, hlast⟩ := hends hmode true
  exact ⟨h₀, mid, hs, hr, hc, hinbox, hsilent.mpr (by simp [hmode]), h, hpull,
    by simp [hlast, hitems]⟩

/-- A stream that loses its connection, cannot make it again, and is cancelled while it waits for
its next poll. -/
def lostRun : List Event := [.pull true, .disconnect, .pull false, .cancel]

/-- It polls once more, a second after it was cancelled. -/
theorem lostRun_polls_after_cancel :
    ∃ h₀ mid h, start (.ofSecs 1) 0 = .ok h₀ ∧ after? step? lostRun h₀ = some mid ∧
      mid.cancelled = true ∧ mid.items = [some .polling] ∧
      after? step? [.pass 1000000000, .pull false] mid = some h ∧
      h.items = [some .polling, some .polling] ∧ ¬ mid.Silent := by
  have hrun : ((start (.ofSecs 1) 0).toOption.bind (after? step? lostRun)).any (fun mid =>
      mid.cancelled && mid.stream.mode = .blind && mid.items = [some .polling] &&
        (after? step? [.pass 1000000000, .pull false] mid).any fun h =>
          h.items = [some .polling, some .polling]) = true := by
    decide +kernel
  obtain ⟨h₀, mid, hs, hr, hmid⟩ := exists_run hrun
  simp only [Bool.and_eq_true, decide_eq_true_eq] at hmid
  obtain ⟨⟨⟨hc, hblind⟩, hitems⟩, hmore⟩ := hmid
  obtain ⟨h, hafter, hpolled⟩ := (Option.any_eq_true _ _).mp hmore
  exact ⟨h₀, mid, h, hs, hr, hc, hitems, hafter, of_decide_eq_true hpolled,
    not_silent_of_blind hblind⟩

end SignalHistory

end TaskQueue
