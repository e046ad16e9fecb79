import TaskQueue.Proofs.Database.Exchange
import TaskQueue.Proofs.Manager.Prepared
import TaskQueue.Proofs.Run
import TaskQueue.Worker.Session

/-!
# Histories of a sweep

A sweep with what was seen of it. It takes its turns with a database that replies anything, and that
may be lost in the middle of a deletion; it may be cancelled between any two of them. A batch of
tasks makes it go on, and an empty one or a failure ends it. Once it was cancelled no deletion
begins any more.
-/

namespace TaskQueue

namespace Manager

variable {m : Manager} {queue q : String} {e : NameError}

theorem cleanQueue_of_error (h : Name.normalize "queue" queue = .error e) :
    m.cleanQueue queue = throw (.ofName e) := by
  rw [cleanQueue, Call.name_of_error h, Call.throw_bind]

theorem cleanQueue_of_ok (h : Name.normalize "queue" queue = .ok q) :
    m.cleanQueue queue = Operation.asking
      ⟨m.schema, .cleanQueue m.ns q TaskTable.cleanBatchSize⟩
      fun reply => (reply.all Task.ofRow).mapError .ofDatabase := by
  rw [cleanQueue, Call.name_of_ok h, pure_bind, TaskTable.clean, Query.fetchAll_eq,
    Action.ofQuery, Operation.mapError_asking]

end Manager

namespace Sweep

/-- What is asked to delete a batch of the tasks of a queue. -/
def deletion (m : Manager) (ns queue : String) : Request :=
  .run ⟨m.schema, .cleanQueue ns queue TaskTable.cleanBatchSize⟩

/-- What a deletion comes to that hears some replies and, when they are used up, loses the
database. -/
def heard (lost : DatabaseError) : List Reply → Except OperationError (List Task)
  | [] => .error (.ofDatabase lost)
  | reply :: _ => (reply.all Task.ofRow).mapError .ofDatabase

/-- A turn in which a sweep hears some replies and, when they are used up, loses the database: what
it asks, and the move that it makes. -/
def take? (m : Manager) (replies : List Reply) (lost : DatabaseError) (s : Sweep) :
    Option (List Request × Move) :=
  (s.turn? m).map fun dialogue =>
    let (asked, move?) := dialogue.hear replies
    (asked, move?.getD (.deleted (.error (.ofDatabase lost))))

variable {m : Manager} {s : Sweep} {replies : List Reply} {lost : DatabaseError}

def isDeleting (s : Sweep) : Bool :=
  match s.phase with
  | .deleting => true
  | .ready | .ended _ => false

theorem isDeleting_of_phase (h : s.phase = .deleting) : s.isDeleting = true := by
  simp [isDeleting, h]

@[simp] theorem isDeleting_afterDeletion (outcome : Except OperationError (List Task)) :
    { s with phase := afterDeletion outcome : Sweep }.isDeleting = false := by
  rcases outcome with e | _ | _ <;> rfl

theorem take?_ready (h : s.phase = .ready) : s.take? m replies lost = some ([], .look) := by
  simp only [take?, turn?, h]
  rfl

theorem take?_misnamed {e : NameError} (h : s.phase = .deleting)
    (hq : Name.normalize "queue" s.queue = .error e) :
    s.take? m replies lost = some ([], .deleted (.error (.ofName e))) := by
  simp only [take?, turn?, h, Manager.cleanQueue_of_error hq]
  rfl

theorem take?_named {q : String} (h : s.phase = .deleting)
    (hq : Name.normalize "queue" s.queue = .ok q) :
    s.take? m replies lost =
      some ([deletion m s.ns q], .deleted (heard lost replies)) := by
  simp only [take?, turn?, h, Manager.cleanQueue_of_ok hq]
  cases replies <;> rfl

theorem take?_ended {r} (h : s.phase = .ended r) : s.take? m replies lost = none := by
  simp only [take?, turn?, h]
  rfl

def Move.outcome? : Move → Option (Except OperationError (List Task))
  | .look => none
  | .deleted result => some result

/-- What the deletions of a sweep came to and what came of the sweep, after it deleted some batches:
it goes on, there was nothing left to delete, a deletion failed, or it saw that it was cancelled. -/
inductive Course (cancelled : Bool) (batches : List (List Task)) :
    List (Except OperationError (List Task)) → Option (Except OperationError Unit) → Prop
  | goesOn : Course cancelled batches (batches.map .ok) none
  | emptied : Course cancelled batches (batches.map .ok ++ [.ok []]) (some (.ok ()))
  | failed {e} : Course cancelled batches (batches.map .ok ++ [.error e]) (some (.error e))
  | stopped (hcancelled : cancelled = true) :
      Course cancelled batches (batches.map .ok) (some (.ok ()))

theorem Course.cancel {cancelled batches outcomes result}
    (h : Course cancelled batches outcomes result) : Course true batches outcomes result := by
  cases h with
  | goesOn => exact .goesOn
  | emptied => exact .emptied
  | failed => exact .failed
  | stopped => exact .stopped rfl

/-- Where a sweep that goes on comes to when it looks whether it was cancelled. -/
theorem Course.look {cancelled batches outcomes} (h : Course cancelled batches outcomes none) :
    Course cancelled batches outcomes
      { s with phase := if cancelled then .ended (.ok ()) else .deleting : Sweep }.result? := by
  obtain ⟨⟩ := h
  cases cancelled with
  | false => exact .goesOn
  | true => exact .stopped rfl

/-- Where a sweep that goes on comes to with one more deletion. -/
theorem Course.deleted {cancelled batches outcomes} (hne : [] ∉ batches)
    (h : Course cancelled batches outcomes none) (outcome : Except OperationError (List Task)) :
    ∃ batches, [] ∉ batches ∧ Course cancelled batches (outcomes ++ [outcome])
      { s with phase := afterDeletion outcome : Sweep }.result? := by
  obtain ⟨⟩ := h
  match outcome with
  | .error e => exact ⟨batches, hne, .failed⟩
  | .ok [] => exact ⟨batches, hne, .emptied⟩
  | .ok (t :: ts) =>
      have hmore : Course cancelled (batches ++ [t :: ts]) ((batches ++ [t :: ts]).map .ok) none :=
        .goesOn
      rw [List.map_append] at hmore
      exact ⟨batches ++ [t :: ts], by simpa using hne, hmore⟩

end Sweep

/-- A sweep with whether it was cancelled, all that it asked, and what its deletions came to. -/
structure SweepHistory where
  sweep : Sweep
  cancelled : Bool := false
  asked : List Request := []
  outcomes : List (Except OperationError (List Task)) := []

namespace SweepHistory

inductive Event where
  | turn (replies : List Reply) (lost : DatabaseError := .connectionCrashed)
  | cancel

def start (t : Ticker) : SweepHistory :=
  { sweep := .ofTicker t }

def step? (m : Manager) (e : Event) (h : SweepHistory) : Option SweepHistory :=
  match e with
  | .turn replies lost =>
    (h.sweep.take? m replies lost).bind fun (asked, move) =>
      (h.sweep.step? h.cancelled move).map fun sweep =>
        { h with
          sweep, asked := h.asked ++ asked, outcomes := h.outcomes ++ move.outcome?.toList }
  | .cancel => some { h with cancelled := true }

/-- A step of a history of a sweep of a queue. -/
inductive Step (m : Manager) (h : SweepHistory) : SweepHistory → Prop
  | looks (hphase : h.sweep.phase = .ready) :
      Step m h { h with sweep.phase := if h.cancelled then .ended (.ok ()) else .deleting }
  | fails {e} (hphase : h.sweep.phase = .deleting)
      (hname : Name.normalize "queue" h.sweep.queue = .error e) :
      Step m h { h with
        sweep.phase := Sweep.afterDeletion (.error (.ofName e))
        outcomes := h.outcomes ++ [.error (.ofName e)] }
  | deletes {q outcome} (hphase : h.sweep.phase = .deleting)
      (hname : Name.normalize "queue" h.sweep.queue = .ok q) :
      Step m h { h with
        sweep.phase := Sweep.afterDeletion outcome
        asked := h.asked ++ [Sweep.deletion m h.sweep.ns q]
        outcomes := h.outcomes ++ [outcome] }
  | cancels : Step m h { h with cancelled := true }

variable {m : Manager} {h h' : SweepHistory}

theorem step?_ready {replies lost} (hp : h.sweep.phase = .ready) :
    step? m (.turn replies lost) h =
      some { h with sweep.phase := if h.cancelled then .ended (.ok ()) else .deleting } := by
  simp [step?, Sweep.take?_ready hp, Sweep.step?, hp, Sweep.Move.outcome?]

theorem step?_misnamed {replies lost e} (hp : h.sweep.phase = .deleting)
    (hq : Name.normalize "queue" h.sweep.queue = .error e) :
    step? m (.turn replies lost) h = some { h with
      sweep.phase := Sweep.afterDeletion (.error (.ofName e))
      outcomes := h.outcomes ++ [.error (.ofName e)] } := by
  simp [step?, Sweep.take?_misnamed hp hq, Sweep.step?, hp, Sweep.Move.outcome?]

theorem step?_named {replies lost q} (hp : h.sweep.phase = .deleting)
    (hq : Name.normalize "queue" h.sweep.queue = .ok q) :
    step? m (.turn replies lost) h = some { h with
      sweep.phase := Sweep.afterDeletion (Sweep.heard lost replies)
      asked := h.asked ++ [Sweep.deletion m h.sweep.ns q]
      outcomes := h.outcomes ++ [Sweep.heard lost replies] } := by
  simp [step?, Sweep.take?_named hp hq, Sweep.step?, hp, Sweep.Move.outcome?]

theorem step?_ended {replies lost r} (hp : h.sweep.phase = .ended r) :
    step? m (.turn replies lost) h = none := by
  simp [step?, Sweep.take?_ended hp]

theorem step?_sound {e : Event} (hs : step? m e h = some h') : Step m h h' := by
  cases e with
  | cancel => cases hs; exact .cancels
  | turn replies lost =>
      cases hp : h.sweep.phase with
      | ready => rw [step?_ready hp] at hs; cases hs; exact .looks hp
      | deleting =>
          cases hq : Name.normalize "queue" h.sweep.queue with
          | error e => rw [step?_misnamed hp hq] at hs; cases hs; exact .fails hp hq
          | ok q => rw [step?_named hp hq] at hs; cases hs; exact .deletes hp hq
      | ended r => rw [step?_ended hp] at hs; cases hs

/-! ## What a sweep comes to -/

/-- A sweep stands where its deletions brought it, and it went on only after batches with tasks. -/
def Coursed (h : SweepHistory) : Prop :=
  ∃ batches, [] ∉ batches ∧ Sweep.Course h.cancelled batches h.outcomes h.sweep.result?

theorem Coursed.step (hc : h.Coursed) (hs : Step m h h') : h'.Coursed := by
  obtain ⟨batches, hne, hcourse⟩ := hc
  have hgoes {phase} (hp : h.sweep.phase = phase) (hphase : phase = .ready ∨ phase = .deleting) :
      h.sweep.result? = none := by
    rcases hphase with rfl | rfl <;> simp [Sweep.result?, hp]
  cases hs with
  | cancels => exact ⟨batches, hne, hcourse.cancel⟩
  | looks hp =>
      rw [hgoes hp (.inl rfl)] at hcourse
      exact ⟨batches, hne, hcourse.look⟩
  | fails hp | deletes hp =>
      rw [hgoes hp (.inr rfl)] at hcourse
      exact hcourse.deleted hne _

/-- How many deletions began: those that came to their end, and the one that is under way. -/
def begun (h : SweepHistory) : Nat :=
  h.outcomes.length + if h.sweep.isDeleting then 1 else 0

/-- Once a sweep was cancelled no deletion begins. -/
theorem begun_of_cancelled {es} (hc : h.cancelled = true)
    (hrun : after? (step? m) es h = some h') : h'.begun = h.begun := by
  refine (after?_preserves (P := fun h' => h'.cancelled = true ∧ h'.begun = h.begun)
    (fun {e h₁ h₂} hs hsame => ?_) hrun ⟨hc, rfl⟩).2
  obtain ⟨hc, hbegun⟩ := hsame
  rw [← hbegun]
  cases step?_sound hs with
  | cancels => exact ⟨rfl, rfl⟩
  | looks hp => simp [begun, Sweep.isDeleting, hp, hc]
  | fails hp | deletes hp => simp [begun, hc, Sweep.isDeleting_of_phase hp]

theorem step?_isSome {replies lost} :
    (step? m (.turn replies lost) h).isSome ↔ h.sweep.result? = none := by
  cases hp : h.sweep.phase with
  | ready => simp [step?_ready hp, Sweep.result?, hp]
  | ended r => simp [step?_ended hp, Sweep.result?, hp]
  | deleting =>
      cases hq : Name.normalize "queue" h.sweep.queue with
      | error e => simp [step?_misnamed hp hq, Sweep.result?, hp]
      | ok q => simp [step?_named hp hq, Sweep.result?, hp]

/-- The end of a sweep is its end. -/
theorem ended_stays {es r} (hp : h.sweep.phase = .ended r)
    (hrun : after? (step? m) es h = some h') :
    h'.sweep = h.sweep ∧ h'.asked = h.asked ∧ h'.outcomes = h.outcomes := by
  refine after?_preserves
    (P := fun h' => h'.sweep = h.sweep ∧ h'.asked = h.asked ∧ h'.outcomes = h.outcomes)
    (fun {e h₁ h₂} hs hsame => ?_) hrun ⟨rfl, rfl, rfl⟩
  have hp₁ : h₁.sweep.phase = .ended r := by rw [hsame.1, hp]
  cases step?_sound hs with
  | cancels => exact hsame
  | looks h | fails h | deletes h => rw [hp₁] at h; cases h

/-! ## What a sweep asks -/

/-- The sweep of a queue with a name that is none asks nothing. -/
theorem asked_of_misnamed {es e} (hq : Name.normalize "queue" h.sweep.queue = .error e)
    (hasked : h.asked = []) (houtcomes : h.outcomes = [])
    (hrun : after? (step? m) es h = some h') :
    h'.asked = [] ∧ ∀ o ∈ h'.outcomes, o = .error (.ofName e) := by
  refine (after?_preserves (P := fun h' => h'.sweep.queue = h.sweep.queue ∧ h'.asked = [] ∧
    ∀ o ∈ h'.outcomes, o = .error (.ofName e)) (fun {ev h₁ h₂} hs hsame => ?_) hrun
    ⟨rfl, hasked, by simp [houtcomes]⟩).2
  obtain ⟨hqueue, hasked, houtcomes⟩ := hsame
  rw [← hqueue] at hq
  cases step?_sound hs with
  | cancels | looks => exact ⟨hqueue, hasked, houtcomes⟩
  | fails hp hname =>
      cases hname.symm.trans hq
      exact ⟨hqueue, hasked, by simpa [or_imp, forall_and] using houtcomes⟩
  | deletes hp hname => cases hname.symm.trans hq

/-- The sweep of a queue asks for one deletion after the other. -/
theorem asked_of_named {es q} (hq : Name.normalize "queue" h.sweep.queue = .ok q)
    (hasked : h.asked = List.replicate h.outcomes.length (Sweep.deletion m h.sweep.ns q))
    (hrun : after? (step? m) es h = some h') :
    h'.asked = List.replicate h'.outcomes.length (Sweep.deletion m h.sweep.ns q) := by
  refine (after?_preserves (P := fun h' => (h'.sweep.ns = h.sweep.ns ∧
    h'.sweep.queue = h.sweep.queue) ∧
    h'.asked = List.replicate h'.outcomes.length (Sweep.deletion m h.sweep.ns q))
    (fun {ev h₁ h₂} hs hsame => ?_) hrun ⟨⟨rfl, rfl⟩, hasked⟩).2
  obtain ⟨⟨hns, hqueue⟩, hasked⟩ := hsame
  rw [← hqueue] at hq
  cases step?_sound hs with
  | cancels | looks => exact ⟨⟨hns, hqueue⟩, hasked⟩
  | fails hp hname => cases hname.symm.trans hq
  | deletes hp hname =>
      cases hname.symm.trans hq
      refine ⟨⟨hns, hqueue⟩, ?_⟩
      simp [hasked, hns, List.replicate_succ']

/-! ## A whole sweep -/

/-- The turns of deletions that hear some replies, one each. Before each of them the sweep looks
whether it was cancelled. -/
def deletions (replies : List Reply) : List Event :=
  replies.flatMap fun reply => [.turn [], .turn [reply]]

theorem exists_deletion {q} (reply : Reply) (hp : h.sweep.phase = .ready) (hc : h.cancelled = false)
    (hq : Name.normalize "queue" h.sweep.queue = .ok q) :
    let outcome := (reply.all Task.ofRow).mapError .ofDatabase
    ∃ h', after? (step? m) [.turn [], .turn [reply]] h = some h' ∧
      h'.sweep.phase = Sweep.afterDeletion outcome ∧ h'.cancelled = false ∧
      h'.sweep.queue = h.sweep.queue ∧ h'.outcomes = h.outcomes ++ [outcome] := by
  have hlook : step? m (.turn []) h = some { h with sweep.phase := .deleting } := by
    rw [step?_ready hp, hc]
    rfl
  have hdelete : step? m (.turn [reply]) { h with sweep.phase := .deleting } = some _ :=
    step?_named rfl hq
  exact ⟨_, after?_cons.mpr ⟨_, hlook, after?_singleton.trans hdelete⟩, rfl, hc, rfl, rfl⟩

/-- A sweep goes on as long as its batches have tasks. -/
theorem exists_deletions {replies} {batches : List (List Task)} {q} (hp : h.sweep.phase = .ready)
    (hc : h.cancelled = false) (hq : Name.normalize "queue" h.sweep.queue = .ok q)
    (hreplies : replies.map (Reply.all Task.ofRow) = batches.map .ok) (hne : [] ∉ batches) :
    ∃ h', after? (step? m) (deletions replies) h = some h' ∧ h'.sweep.phase = .ready ∧
      h'.cancelled = false ∧ h'.sweep.queue = h.sweep.queue ∧
      h'.outcomes = h.outcomes ++ batches.map .ok := by
  induction replies generalizing h batches with
  | nil =>
      cases batches with
      | nil => exact ⟨h, rfl, hp, hc, rfl, by simp⟩
      | cons => cases hreplies
  | cons reply replies ih =>
      obtain _ | ⟨_ | ⟨t, ts⟩, batches⟩ := batches
      · cases hreplies
      · exact absurd List.mem_cons_self hne
      · obtain ⟨hreply, hreplies⟩ := List.cons.inj hreplies
        obtain ⟨h₁, hfirst, hp₁, hc₁, hqueue₁, houtcomes₁⟩ :=
          exists_deletion (m := m) reply hp hc hq
        rw [hreply] at hp₁ houtcomes₁
        obtain ⟨h', hrun, hp', hc', hqueue', houtcomes'⟩ :=
          ih hp₁ hc₁ (hqueue₁ ▸ hq) hreplies fun hmem => hne (.tail _ hmem)
        refine ⟨h', ?_, hp', hc', hqueue'.trans hqueue₁, ?_⟩
        · rw [deletions, List.flatMap_cons, after?_append, hfirst]
          exact hrun
        · rw [houtcomes', houtcomes₁, List.append_assoc]
          rfl

variable {t : Ticker} {ns queue : String}

theorem start_of_parse (h : CleanupTicker.parse? t.ticker = some (ns, queue)) :
    start t = { sweep := { ns, queue } } := by
  simp [start, Sweep.ofTicker, h]

theorem start_of_unparsed (h : CleanupTicker.parse? t.ticker = none) :
    (start t).sweep.phase = .ended (.ok ()) := by
  simp [start, Sweep.ofTicker, h]

theorem coursed_of_run {es} (hname : CleanupTicker.parse? t.ticker = some (ns, queue))
    (hrun : after? (step? m) es (start t) = some h) : h.Coursed := by
  refine after?_preserves (fun hs hc => Coursed.step hc (step?_sound hs)) hrun ?_
  rw [start_of_parse hname]
  exact ⟨[], List.not_mem_nil, .goesOn⟩

/-- A sweep whose batches have tasks asks for one deletion more, and ends with what that one comes
to, if its batch is empty or it fails. -/
theorem exists_sweep {replies last stop q} {batches : List (List Task)}
    (hname : CleanupTicker.parse? t.ticker = some (ns, queue))
    (hq : Name.normalize "queue" queue = .ok q)
    (hreplies : replies.map (Reply.all Task.ofRow) = batches.map .ok) (hne : [] ∉ batches)
    (hlast : last.all Task.ofRow = Except.map (fun _ : Unit => []) stop) :
    ∃ h, after? (step? m) (deletions (replies ++ [last])) (start t) = some h ∧
      h.sweep.result? = some (stop.mapError .ofDatabase) ∧
      h.asked = List.replicate (replies.length + 1) (Sweep.deletion m ns q) := by
  have hstart := start_of_parse hname
  have hq₀ : Name.normalize "queue" (start t).sweep.queue = .ok q := by rw [hstart]; exact hq
  obtain ⟨h, hrun, hp, hc, hqueue, houtcomes⟩ :=
    exists_deletions (m := m) (h := start t) (by rw [hstart]) rfl hq₀ hreplies hne
  obtain ⟨h', hrun', hp', -, -, houtcomes'⟩ :=
    exists_deletion (m := m) last hp hc (hqueue ▸ hq₀)
  have hwhole : after? (step? m) (deletions (replies ++ [last])) (start t) = some h' := by
    rw [deletions, List.flatMap_append, after?_append, ← deletions, hrun]
    exact hrun'
  refine ⟨h', hwhole, ?_, ?_⟩
  · rw [Sweep.result?, hp', hlast]
    cases stop <;> rfl
  · have hasked := asked_of_named hq₀ rfl hwhole
    have hlength := congrArg List.length hreplies
    rw [List.length_map, List.length_map] at hlength
    rw [hasked, hstart, houtcomes', houtcomes, hlength]
    simp [start]

/-- The sweep that a cleanup ticker leads to. If the name of the ticker names no queue, the sweep
is over at once. If the queue has a name that is none, nothing is asked. Else the tasks of that very
queue are deleted, one batch after another, until a batch is empty, a deletion fails or the sweep
was cancelled; that is how it ends, and it does end. Once it was cancelled no deletion begins. -/
theorem sweeps_until_empty (m : Manager) (t : Ticker) :
    (∀ es h, after? (step? m) es (start t) = some h →
      (CleanupTicker.parse? t.ticker = none →
        h.asked = [] ∧ h.sweep.result? = some (.ok ())) ∧
      (∀ ns queue, CleanupTicker.parse? t.ticker = some (ns, queue) →
        (∃ batches, [] ∉ batches ∧
          Sweep.Course h.cancelled batches h.outcomes h.sweep.result?) ∧
        (∀ e, Name.normalize "queue" queue = .error e →
          h.asked = [] ∧ ∀ o ∈ h.outcomes, o = .error (.ofName e)) ∧
        ∀ q, Name.normalize "queue" queue = .ok q →
          h.asked = List.replicate h.outcomes.length (Sweep.deletion m ns q)) ∧
      (∀ replies lost,
        (step? m (.turn replies lost) h).isSome ↔ h.sweep.result? = none) ∧
      (h.cancelled = true →
        (∀ es' h', after? (step? m) es' h = some h' → h'.begun = h.begun) ∧
        (h.sweep.phase = .ready → ∀ replies lost, ∃ h',
          step? m (.turn replies lost) h = some h' ∧ h'.sweep.result? = some (.ok ())))) ∧
    ∀ ns queue q, CleanupTicker.parse? t.ticker = some (ns, queue) →
      Name.normalize "queue" queue = .ok q →
      ∀ replies (batches : List (List Task)) last stop, [] ∉ batches →
        replies.map (Reply.all Task.ofRow) = batches.map .ok →
        last.all Task.ofRow = Except.map (fun _ : Unit => []) stop →
        ∃ h, after? (step? m) (deletions (replies ++ [last])) (start t) = some h ∧
          h.sweep.result? = some (stop.mapError .ofDatabase) ∧
          h.asked = List.replicate (replies.length + 1) (Sweep.deletion m ns q) := by
  refine ⟨fun es h hrun => ⟨fun hname => ?_, fun ns queue hname => ⟨?_, fun e hq => ?_,
    fun q hq => ?_⟩, fun _ _ => step?_isSome, fun hc => ⟨fun _ _ => begun_of_cancelled hc,
    fun hp _ _ => ?_⟩⟩, fun ns queue q hname hq _ _ _ _ hne hreplies => ?_⟩
  · have hp := start_of_unparsed hname
    obtain ⟨hsweep, hasked, -⟩ := ended_stays hp hrun
    exact ⟨hasked, by rw [hsweep]; simp [Sweep.result?, hp]⟩
  · exact coursed_of_run hname hrun
  · have hstart := start_of_parse hname
    exact asked_of_misnamed (by rw [hstart]; exact hq) rfl rfl hrun
  · have hstart := start_of_parse hname
    have hasked := asked_of_named (q := q) (by rw [hstart]; exact hq) rfl hrun
    rwa [hstart] at hasked
  · refine ⟨_, step?_ready hp, ?_⟩
    simp [Sweep.result?, hc]
  · exact exists_sweep hname hq hreplies hne

/-- In a session a sweep that goes on takes a turn of its history, with what the backlog replies. -/
theorem exists_turn_of_session {s s' : WorkerSession} {i j}
    (hsweep : s.sweep? i = some (j, h.sweep)) (hresult : h.sweep.result? = none)
    (hc : h.cancelled = s.run.pool.isCancelled j) (hs : s.stepSweep? i = some s') :
    ∃ replies h' asked, step? s.worker.manager (.turn replies) h = some h' ∧
      h'.asked = h.asked ++ asked ∧ s'.sent = asked.reverse ++ s.sent ∧
      s'.sweeps = (i, h'.sweep) :: s.sweeps := by
  simp only [WorkerSession.stepSweep?, hsweep, Option.bind_eq_bind, Option.bind_some, hresult] at hs
  obtain ⟨d, hd, hs⟩ := Option.bind_eq_some_iff.mp hs
  obtain ⟨sweep, hstep, hs⟩ := Option.bind_eq_some_iff.mp hs
  cases hs
  obtain ⟨replies, hhear⟩ := Dialogue.exists_hear_run Backlog.server d s.backlog
  rw [← hc] at hstep
  have hturn : step? s.worker.manager (.turn replies) h = some { h with
      sweep
      asked := h.asked ++ (d.run Backlog.server s.backlog).log
      outcomes := h.outcomes ++ (d.run Backlog.server s.backlog).result.outcome?.toList } := by
    simp [step?, Sweep.take?, hd, hhear, hstep]
  exact ⟨replies, _, _, hturn, rfl, rfl, rfl⟩

end SweepHistory

end TaskQueue
