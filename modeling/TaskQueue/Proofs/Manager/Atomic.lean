import TaskQueue.Proofs.Manager.Prepared

/-!
# Transactions are all or nothing

Whatever a server replies, a call says nothing outside its transaction, commits only when every
statement went well, fails whenever nothing was committed, and fails with the first failure it met.
The one call that may end well without a commit is a claim that finds no task.
-/

namespace TaskQueue.Manager.Call

variable {α : Type}

/-- How a transaction that began can end. -/
inductive Ending : List Exchange → Prop
  | committed {reply : Reply} (h : reply.isFailed = false) : Ending [⟨.commit, reply⟩]
  | refused {reply reply' : Reply} (h : reply.isFailed = true) :
      Ending [⟨.commit, reply⟩, ⟨.rollback, reply'⟩]
  | rolledBack {reply : Reply} : Ending [⟨.rollback, reply⟩]

/-- Every statement of the conversation lies inside its one transaction. -/
inductive Enclosed : List Exchange → Prop
  | nothing : Enclosed []
  | refused {reply : Reply} (h : reply.isFailed = true) : Enclosed [⟨.begin, reply⟩]
  | transaction {opening : Reply} {statements ending : List Exchange}
      (hopening : opening.isFailed = false) (hstatements : ∀ e ∈ statements, e.IsStatement)
      (hending : Ending ending) : Enclosed (⟨.begin, opening⟩ :: (statements ++ ending))

structure Atomic (now : Timestamp) (call : Call α) (log : List Exchange)
    (r : Except OperationError α) : Prop where
  enclosed : Enclosed log
  /-- A call that is refused for its arguments says nothing. -/
  refused : call.refusal? now ≠ none → log = []
  /-- An argument that does not fit is met before the statement that needs it. -/
  misfit : call.misfit? ≠ none → ∀ e ∈ log, ¬ e.Patches
  /-- A commit is asked for only after every exchange went well. -/
  commit : ∀ before e after, log = before ++ e :: after → e.request = .commit →
    ∀ e' ∈ before, e'.failure? call.missing? = none
  /-- The call fails when nothing was committed, unless it lapsed. -/
  verdict : (∃ e, r = .error e) ↔ (¬ ∃ e ∈ log, e.Commits) ∧ ∀ a, ¬ call.Lapses log a
  /-- A call that lapses ends well after a rollback. -/
  lapse : ∀ a, call.Lapses log a → r = .ok a ∧ (∀ e ∈ log, e.request ≠ .commit) ∧
    ∃ e, log.getLast? = some e ∧ e.request = .rollback
  /-- The call fails with the first failure it met. -/
  failure : causeOf? r =
    (call.refusal? now).or ((log.findSome? (·.failure? call.missing?)).or call.misfit?)

section Ends

variable {missing : Command → Option String} {log : List Exchange}

theorem failure?_begin {opening : Reply} (h : opening.isFailed = false) :
    Exchange.failure? missing ⟨.begin, opening⟩ = none := by
  cases opening with
  | rows _ | affected _ => rfl
  | failed _ _ => cases h

theorem failure?_commit {reply : Reply} (h : reply.isFailed = false) :
    Exchange.failure? missing ⟨.commit, reply⟩ = none := by
  cases reply with
  | rows _ | affected _ => rfl
  | failed _ _ => cases h

theorem ending_of_ends {ofDatabase : DatabaseError → OperationError}
    {v : Except OperationError (Operation.Verdict α)} {r : Except OperationError α}
    (h : Operation.Ends ofDatabase v log r) : Ending log := by
  cases h with
  | failed | discarded => exact .rolledBack
  | kept h => exact .committed h
  | refused => exact .refused rfl

theorem Ending.not_statement (h : Ending log) : ∀ e ∈ log, ¬ e.IsStatement := by
  rintro e he ⟨s, hs⟩
  cases h <;> simp at he
  all_goals
    first
      | (subst he; cases hs)
      | (rcases he with rfl | rfl <;> cases hs)

theorem mem_of_isStatement {opening : Reply} {statements ending : List Exchange}
    (hending : Ending ending) {e : Exchange} (hstatement : e.IsStatement)
    (he : e ∈ (⟨.begin, opening⟩ : Exchange) :: (statements ++ ending)) : e ∈ statements := by
  rcases List.mem_cons.mp he with rfl | he
  · obtain ⟨s, hs⟩ := hstatement
    cases hs
  · exact (List.mem_append.mp he).resolve_right fun he => hending.not_statement e he hstatement

/-- A lapse is told by the statements of a transaction. -/
theorem lapses_iff {call : Call α} {opening : Reply} {statements ending : List Exchange}
    (hending : Ending ending) (a : α) :
    call.Lapses (⟨.begin, opening⟩ :: (statements ++ ending)) a ↔ call.Lapses statements a := by
  cases call with
  | retainTaskAs worker =>
      refine and_congr_right fun _ => ⟨?_, ?_⟩
      · rintro ⟨e, he, hclaim⟩
        exact ⟨e, mem_of_isStatement hending (hclaim.isStatement) he, hclaim⟩
      · rintro ⟨e, he, hclaim⟩
        exact ⟨e, by simp [he], hclaim⟩
  | _ => exact Iff.rfl

theorem not_lapses {call : Call α} (h : ∀ e ∈ log, ¬ e.IsStatement) (a : α) :
    ¬ call.Lapses log a := by
  cases call with
  | retainTaskAs worker =>
      rintro ⟨-, e, he, hclaim⟩
      exact h e he (hclaim.isStatement)
  | _ => exact id

/-- The parts around the only element that has a property are determined. -/
theorem eq_of_append_cons {p : Exchange → Prop} {front back before after : List Exchange}
    {c e : Exchange} (hfront : ∀ x ∈ front, ¬ p x) (hback : ∀ x ∈ back, ¬ p x) (he : p e)
    (h : front ++ c :: back = before ++ e :: after) : before = front := by
  induction front generalizing before with
  | nil =>
      cases before with
      | nil => rfl
      | cons b before =>
          obtain ⟨-, rfl⟩ := List.cons.inj h
          exact (hback e (by simp) he).elim
  | cons f front ih =>
      cases before with
      | nil =>
          obtain ⟨rfl, -⟩ := List.cons.inj h
          exact (hfront f (by simp) he).elim
      | cons b before =>
          obtain ⟨rfl, hrest⟩ := List.cons.inj h
          rw [ih (fun x hx => hfront x (List.mem_cons_of_mem _ hx)) hrest]

end Ends

section Transaction

variable {m : Manager} {now : Timestamp} {call : Call α} {opening : Reply}
  {inner ending : List Exchange} {v : Except OperationError (Operation.Verdict α)}
  {r : Except OperationError α}

theorem atomic_of_refused {e : OperationError} (h : call.refusal? now = some e) :
    Atomic now call [] (.error e) where
  enclosed := .nothing
  refused _ := rfl
  misfit _ := by simp
  commit before e after hlog := by simp at hlog
  verdict := ⟨fun _ => ⟨by simp, not_lapses (by simp)⟩, fun _ => ⟨e, rfl⟩⟩
  lapse a ha := (not_lapses (by simp) a ha).elim
  failure := by rw [h]; rfl

theorem atomic_of_unbegun (h : call.refusal? now = none) (code message : String) :
    Atomic now call [⟨.begin, .failed code message⟩]
      (.error (.ofDatabase (.refused code message))) := by
  have hnone : ∀ e ∈ [(⟨.begin, .failed code message⟩ : Exchange)], ¬ e.IsStatement := by
    rintro e he ⟨s, hs⟩
    obtain rfl := List.mem_singleton.mp he
    cases hs
  have hcommit : ∀ e ∈ [(⟨.begin, .failed code message⟩ : Exchange)], e.request ≠ .commit := by
    rintro e he hcommit
    obtain rfl := List.mem_singleton.mp he
    cases hcommit
  exact {
    enclosed := .refused rfl
    refused := fun hrefusal => (hrefusal h).elim
    misfit := fun _ e he hpatches => hnone e he (hpatches.isStatement)
    commit := fun before e after hlog he => (hcommit e (by rw [hlog]; simp) he).elim
    verdict := ⟨fun _ => ⟨fun ⟨e, he, hc⟩ => hcommit e he hc.1, not_lapses hnone⟩,
      fun _ => ⟨_, rfl⟩⟩
    lapse := fun a ha => (not_lapses hnone a ha).elim
    failure := by rw [h]; rfl }

theorem request_ne_commit (hinner : ∀ e ∈ inner, e.IsStatement) :
    ∀ e ∈ (⟨.begin, opening⟩ : Exchange) :: inner, e.request ≠ .commit := by
  rintro e he hcommit
  rcases List.mem_cons.mp he with rfl | he
  · cases hcommit
  · obtain ⟨s, hs⟩ := hinner e he
    rw [hs] at hcommit
    cases hcommit

/-- After a commit is asked for, nothing else that is asked for is a commit. -/
theorem before_eq_of_commit {reply : Reply} {back before after : List Exchange} {e : Exchange}
    (hinner : ∀ e ∈ inner, e.IsStatement) (hback : ∀ x ∈ back, x.request ≠ .commit)
    (h : (⟨.begin, opening⟩ : Exchange) :: (inner ++ ⟨.commit, reply⟩ :: back) =
      before ++ e :: after) (he : e.request = .commit) : before = ⟨.begin, opening⟩ :: inner :=
  eq_of_append_cons (p := fun x => x.request = .commit) (request_ne_commit hinner) hback he h

theorem not_commit_of_rollback {reply : Reply} (hinner : ∀ e ∈ inner, e.IsStatement) :
    ∀ e ∈ (⟨.begin, opening⟩ : Exchange) :: (inner ++ [⟨.rollback, reply⟩]),
      e.request ≠ .commit := by
  intro e he
  rw [← List.cons_append, List.mem_append, List.mem_singleton] at he
  rcases he with he | rfl
  · exact request_ne_commit hinner e he
  · exact Request.noConfusion

/-- A body that comes to a value met no failure, and needed no argument that does not fit. -/
theorem good_of_ok {verdict : Operation.Verdict α} (hopening : opening.isFailed = false)
    (hfollowed :
      Followed call.missing? call.Allows call.misfit? (fun _ => True) inner (.ok verdict)) :
    inner.findSome? (·.failure? call.missing?) = none ∧ call.misfit? = none ∧
      ∀ e ∈ (⟨.begin, opening⟩ : Exchange) :: inner, e.failure? call.missing? = none := by
  obtain ⟨hgood, hfits⟩ := Option.or_eq_none_iff.mp hfollowed.failure.symm
  refine ⟨hgood, hfits, ?_⟩
  intro e he
  rcases List.mem_cons.mp he with rfl | he
  · exact failure?_begin hopening
  · exact List.findSome?_eq_none_iff.mp hgood e he

theorem commit_of_ends {before after : List Exchange} {e : Exchange}
    (hopening : opening.isFailed = false)
    (hfollowed : Followed call.missing? call.Allows call.misfit? (fun _ => True) inner v)
    (hends : Operation.Ends .ofDatabase v ending r)
    (hlog : (⟨.begin, opening⟩ : Exchange) :: (inner ++ ending) = before ++ e :: after)
    (he : e.request = .commit) : ∀ e' ∈ before, e'.failure? call.missing? = none := by
  have hinner : ∀ e ∈ inner, e.IsStatement := fun e he => (hfollowed.allowed e he).1
  cases hends with
  | failed | discarded =>
      exact (not_commit_of_rollback hinner e (by rw [hlog]; simp) he).elim
  | kept | refused =>
      rw [before_eq_of_commit hinner (by simp) hlog he]
      exact (good_of_ok hopening hfollowed).2.2

theorem verdict_of_ends
    (hfollowed : Followed call.missing? call.Allows call.misfit? (fun _ => True) inner v)
    (hlapse : ∀ a, call.Lapses inner a ↔ v = .ok (.discard a))
    (hends : Operation.Ends .ofDatabase v ending r) :
    (∃ e, r = .error e) ↔
      (¬ ∃ e ∈ (⟨.begin, opening⟩ : Exchange) :: (inner ++ ending), e.Commits) ∧
        ∀ a, ¬ call.Lapses (⟨.begin, opening⟩ :: (inner ++ ending)) a := by
  have hinner : ∀ e ∈ inner, e.IsStatement := fun e he => (hfollowed.allowed e he).1
  simp only [lapses_iff (ending_of_ends hends), hlapse]
  cases hends with
  | failed =>
      refine ⟨fun _ => ⟨?_, by simp⟩, fun _ => ⟨_, rfl⟩⟩
      rintro ⟨e, he, hcommit, -⟩
      exact not_commit_of_rollback hinner e he hcommit
  | @discarded a => exact ⟨by simp, fun h => (h.2 a rfl).elim⟩
  | kept hreply => exact ⟨by simp, fun h => (h.1 ⟨⟨.commit, _⟩, by simp, rfl, hreply⟩).elim⟩
  | refused =>
      refine ⟨fun _ => ⟨?_, by simp⟩, fun _ => ⟨_, rfl⟩⟩
      rintro ⟨e, he, hcommit, hreply⟩
      rw [← List.cons_append, List.mem_append] at he
      rcases he with he | he
      · exact request_ne_commit hinner e he hcommit
      · simp only [List.mem_cons, List.not_mem_nil, or_false] at he
        rcases he with rfl | rfl
        · cases hreply
        · cases hcommit

theorem failure_of_ends (hopening : opening.isFailed = false)
    (hfollowed : Followed call.missing? call.Allows call.misfit? (fun _ => True) inner v)
    (hends : Operation.Ends .ofDatabase v ending r) :
    causeOf? r = (((⟨.begin, opening⟩ : Exchange) :: (inner ++ ending)).findSome?
      (·.failure? call.missing?)).or call.misfit? := by
  have hbegin : Exchange.failure? call.missing? ⟨.begin, opening⟩ = none := failure?_begin hopening
  rw [List.findSome?_cons, hbegin, List.findSome?_append]
  cases hends with
  | failed => exact hfollowed.failure.trans (congrArg (Option.or · _) Option.or_none.symm)
  | discarded =>
      obtain ⟨hgood, hfits, -⟩ := good_of_ok hopening hfollowed
      rw [hgood, hfits]
      rfl
  | kept hreply =>
      obtain ⟨hgood, hfits, -⟩ := good_of_ok hopening hfollowed
      rw [hgood, hfits, List.findSome?_singleton, failure?_commit hreply]
      rfl
  | refused =>
      rw [(good_of_ok hopening hfollowed).1]
      rfl

theorem atomic_of_ends (h : call.refusal? now = none) (hopening : opening.isFailed = false)
    (hfollowed : Followed call.missing? call.Allows call.misfit? (fun _ => True) inner v)
    (hlapse : ∀ a, call.Lapses inner a ↔ v = .ok (.discard a))
    (hends : Operation.Ends .ofDatabase v ending r) :
    Atomic now call (⟨.begin, opening⟩ :: (inner ++ ending)) r := by
  have hending := ending_of_ends hends
  have hinner : ∀ e ∈ inner, e.IsStatement := fun e he => (hfollowed.allowed e he).1
  constructor
  case enclosed => exact .transaction hopening hinner hending
  case refused => exact fun hrefusal => (hrefusal h).elim
  case misfit =>
    intro hmisfit e he hpatches
    have hmem := mem_of_isStatement hending hpatches.isStatement he
    exact (hfollowed.allowed e hmem).2 hmisfit hpatches
  case commit => exact fun before e after => commit_of_ends hopening hfollowed hends
  case verdict => exact verdict_of_ends hfollowed hlapse hends
  case lapse =>
    intro a ha
    obtain rfl := (hlapse a).mp ((lapses_iff hending a).mp ha)
    cases hends with
    | @discarded _ reply =>
        refine ⟨rfl, not_commit_of_rollback hinner, ⟨.rollback, reply⟩, ?_, rfl⟩
        rw [← List.cons_append, List.getLast?_concat]
  case failure =>
    rw [h, Option.none_or]
    exact failure_of_ends hopening hfollowed hends

theorem atomic_of_holds {log : List Exchange} (h : (call.run m now).Holds log r) :
    Atomic now call log r := by
  cases prepared m now call with
  | refused hrefusal hrun =>
      rw [hrun] at h
      obtain ⟨rfl, rfl⟩ := Operation.holds_throw.mp h
      exact atomic_of_refused hrefusal
  | transaction hrefusal hrun hcareful hlapse =>
      rw [hrun] at h
      obtain ⟨code, message, rfl, rfl⟩ | ⟨opening, inner, v, ending, rfl, hopening, hinner, hends⟩ :=
        Operation.holds_transaction h
      · exact atomic_of_unbegun hrefusal code message
      · exact atomic_of_ends hrefusal hopening (hcareful _ _ hinner) (hlapse _ _ hinner) hends

end Transaction

theorem run_atomic {σ : Type} (m : Manager) (now : Timestamp) (call : Call α)
    (server : Dialogue.Server σ) (s : σ) :
    Atomic now call (Dialogue.said server (call.run m now).run s)
      (Dialogue.run server (call.run m now).run s).result :=
  atomic_of_holds (Dialogue.holds_said server (call.run m now).run s)

end TaskQueue.Manager.Call
