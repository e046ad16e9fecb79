import TaskQueue.Proofs.Migration.Plan

/-!
# Bootstraps are all or nothing

Whatever a server replies, a bootstrap follows the plan for the progress that it is told of, commits
after the whole plan, and is rolled back when a part of it fails. A database that is ahead of this
library by a breaking migration is noticed after the plan, before the commit.
-/

namespace TaskQueue.Migration

variable {schema : String} {log inner ending : List Exchange}

/-- The progress that a conversation tells of. -/
def reported? (log : List Exchange) : Option Progress := log.findSome? progress?

/-- The requests of a plan. -/
def requests (schema : String) (p : Option Progress) : List Request :=
  (plan schema p).map fun c => .run ⟨schema, c⟩

/-- What comes of a bootstrap once its plan is carried out. -/
def Progress.verdict (p : Progress) : Except MigrationError (Operation.Verdict Unit) :=
  match p.incompatibility? with
  | some e => .error e
  | none => .ok (.keep ())

/-- What the body of the transaction says, and what comes of it. -/
structure Prepared (schema : String) (log : List Exchange)
    (v : Except MigrationError (Operation.Verdict Unit)) : Prop where
  requests : log.map (·.request) <+: requests schema (reported? log)
  failure : causeOf? v =
    (log.findSome? failure?).or ((reported? log).bind Progress.incompatibility?)
  complete : ∀ verdict, v = .ok verdict → verdict = .keep () ∧ (reported? log).isSome = true ∧
    log.map (·.request) = Migration.requests schema (reported? log)

section Body

variable {first rest : List Exchange} {reply : Reply} {p : Progress}

end Body

/-! ## The transaction -/

section Transaction

variable {opening reply : Reply} {v : Except MigrationError (Operation.Verdict Unit)}
  {r : Except MigrationError Unit}

theorem failure?_of_not_failed {request : Request} (hrequest : request = .begin ∨ request = .commit)
    (hreply : reply.isFailed = false) : failure? ⟨request, reply⟩ = none := by
  rcases hrequest with rfl | rfl <;> cases reply <;> first | rfl | cases hreply

theorem not_commit_of_prepared (hprepared : Prepared schema inner v) :
    ∀ e ∈ (⟨.begin, opening⟩ : Exchange) :: inner, e.request ≠ .commit := by
  intro e he hcommit
  rcases List.mem_cons.mp he with rfl | he
  · cases hcommit
  · have hmem := hprepared.requests.subset (List.mem_map_of_mem he)
    obtain ⟨command, -, hrequest⟩ := List.mem_map.mp hmem
    rw [hcommit] at hrequest
    cases hrequest

theorem findSome?_of_opening (hopening : opening.isFailed = false) :
    ((⟨.begin, opening⟩ : Exchange) :: (inner ++ ending)).findSome? failure? =
      (inner.findSome? failure?).or (ending.findSome? failure?) := by
  rw [List.findSome?_cons, failure?_of_not_failed (.inl rfl) hopening, List.findSome?_append]

theorem verdict_of_ends (hprepared : Prepared schema inner v)
    (hends : Operation.Ends .database v ending r) :
    r = .ok () ↔ ∃ e ∈ (⟨.begin, opening⟩ : Exchange) :: (inner ++ ending), e.Commits := by
  have hnot : ∀ e ∈ (⟨.begin, opening⟩ : Exchange) :: inner, e.request ≠ .commit :=
    not_commit_of_prepared hprepared
  rw [← List.cons_append]
  cases hends with
  | failed =>
      refine ⟨nofun, ?_⟩
      rintro ⟨e, he, hcommit, -⟩
      rcases List.mem_append.mp he with he | he
      · exact absurd hcommit (hnot e he)
      · obtain rfl := List.mem_singleton.mp he
        cases hcommit
  | discarded => cases (hprepared.complete _ rfl).1
  | kept hreply => exact ⟨fun _ => ⟨⟨.commit, _⟩, by simp, rfl, hreply⟩, fun _ => rfl⟩
  | refused =>
      refine ⟨nofun, ?_⟩
      rintro ⟨e, he, hcommit, hreply⟩
      rcases List.mem_append.mp he with he | he
      · exact absurd hcommit (hnot e he)
      · simp only [List.mem_cons, List.not_mem_nil, or_false] at he
        rcases he with rfl | rfl
        · cases hreply
        · cases hcommit

theorem failure_of_ends (hopening : opening.isFailed = false)
    (hprepared : Prepared schema inner v) (hends : Operation.Ends .database v ending r) :
    causeOf? r = (((⟨.begin, opening⟩ : Exchange) :: (inner ++ ending)).findSome? failure?).or
      ((reported? inner).bind Progress.incompatibility?) := by
  rw [findSome?_of_opening hopening]
  have hfailure := hprepared.failure
  cases hends with
  | failed =>
      rw [List.findSome?_singleton, show failure? ⟨.rollback, _⟩ = none from rfl, Option.or_none]
      exact hfailure
  | discarded => cases (hprepared.complete _ rfl).1
  | kept hreply =>
      obtain ⟨hgood, hcompatible⟩ := Option.or_eq_none_iff.mp hfailure.symm
      rw [hgood, hcompatible, List.findSome?_singleton, failure?_of_not_failed (.inr rfl) hreply]
      rfl
  | refused =>
      rw [(Option.or_eq_none_iff.mp hfailure.symm).1]
      rfl

end Transaction

section Bootstrap

variable {r : Except MigrationError Unit}

end Bootstrap

end TaskQueue.Migration
