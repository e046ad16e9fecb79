import TaskQueue.Proofs.Manager.Careful

/-!
# Calls as careful transactions

Every call is refused for its arguments before anything is said, or it is a transaction with a
careful body. One lemma a call; what calls have in common (a patch of a queue, the cleanup ticker,
a listing, reading a task again) is one lemma about the body.
-/

namespace TaskQueue

variable {α : Type}

namespace Manager

section Bodies

variable {m : Manager} {missing : Command → Option String} {allowed : Exchange → Prop}

theorem fits_of_optional (reply : Reply) (q : Queue)
    (h : reply.optional Queue.ofRow = .ok (some q)) :
    Interval.Fits (q.ttl.getD defaultCleanupInterval) := by
  obtain ⟨row, hrow⟩ := Reply.exists_row_of_optional h
  exact Queue.ofRow_fits hrow

theorem causeOf?_bind {β : Type} {x : Except OperationError α}
    {f : α → Except OperationError β} {c : Option OperationError}
    (hf : ∀ a, causeOf? (f a) = c) : causeOf? (x >>= f) = (causeOf? x).or c := by
  cases x with
  | error e => rfl
  | ok a => exact hf a

theorem causeOf?_map {β : Type} (f : α → β) (x : Except OperationError α) :
    causeOf? (f <$> x) = causeOf? x := by
  cases x <;> rfl

theorem causeOf?_mapM {β : Type} (f : α → Except OperationError β) (x : Option α) :
    causeOf? (x.mapM f) = x.bind fun a => causeOf? (f a) := by
  cases x with
  | none => rfl
  | some a => rw [Option.mapM_some, causeOf?_map]; rfl

theorem causeOf?_patchCommand (ns queue : String) (patch : QueuePatch) :
    causeOf? (patchCommand ns queue patch) = patch.misfit? := by
  obtain ⟨rename, ttl, retries, retryDelay⟩ := patch
  have hrest (rename : Option String) (ttl : Option Interval) (setTtl : Bool) :
      causeOf? (do
        let retries ← retries.mapM patchRetries
        let retryDelay ← retryDelay.mapM OperationError.interval
        return Command.patchQueue ns queue rename ttl retries retryDelay setTtl) =
      (retries.bind fun n => causeOf? (patchRetries n)).or
        (retryDelay.bind fun d => causeOf? (OperationError.interval d)) := by
    rw [causeOf?_bind (c := retryDelay.bind fun d => causeOf? (OperationError.interval d)),
      causeOf?_mapM]
    intro retries
    rw [causeOf?_bind (c := none) fun _ => rfl, causeOf?_mapM, Option.or_none]
  cases ttl with
  | keep | remove => exact hrest _ none _
  | set d => exact (causeOf?_bind fun ttl => hrest _ ttl _).trans (by rw [causeOf?_map]; rfl)

/-- The command of a patch renames the queue to the name that the patch gives. -/
theorem patchCommand_eq_ok {ns queue : String} {patch : QueuePatch} {command : Command}
    (h : patchCommand ns queue patch = .ok command) :
    ∃ ttl retries retryDelay setTtl, command = .patchQueue ns queue
      (if patch.queue.isEmpty then none else some patch.queue) ttl retries retryDelay setTtl := by
  simp only [patchCommand, bind, Except.bind] at h
  generalize (if patch.queue.isEmpty then none else some patch.queue) = rename at h ⊢
  repeat' split at h <;> try contradiction
  all_goals exact ⟨_, _, _, _, (Except.ok.inj h).symm⟩

/-- A patch makes a command, unless one of its attributes does not fit. -/
theorem patchCommand_eq (ns queue : String) (patch : QueuePatch) :
    (∃ e, patch.misfit? = some e ∧ patchCommand ns queue patch = .error e) ∨
    patch.misfit? = none ∧ ∃ rename ttl retries retryDelay setTtl,
      patchCommand ns queue patch =
        .ok (.patchQueue ns queue rename ttl retries retryDelay setTtl) := by
  rw [← causeOf?_patchCommand ns queue]
  cases h : patchCommand ns queue patch with
  | error e => exact .inl ⟨e, rfl, rfl⟩
  | ok command =>
      obtain ⟨ttl, retries, retryDelay, setTtl, rfl⟩ := patchCommand_eq_ok h
      exact .inr ⟨rfl, _, ttl, retries, retryDelay, setTtl, rfl⟩

/-- A patch without attributes has none that does not fit. -/
theorem misfit?_of_isEmpty {patch : QueuePatch} (h : patch.isEmpty) : patch.misfit? = none := by
  obtain ⟨queue, ttl, retries, retryDelay⟩ := patch
  simp only [QueuePatch.isEmpty, Bool.and_eq_true, decide_eq_true_eq, Option.isNone_iff_eq_none]
    at h
  obtain ⟨⟨rfl, rfl⟩, rfl⟩ := h
  rfl

theorem careful_registerCleanupTicker {queue : Queue}
    (hfits : Interval.Fits (queue.ttl.getD defaultCleanupInterval))
    (hallowed : ∀ s reply, allowed ⟨.run s, reply⟩)
    (hmissing : ∀ ns ticker interval, missing (.patchTicker ns ticker interval) = none) :
    Careful missing allowed none (fun _ => True) (m.registerCleanupTicker queue) := by
  obtain ⟨i, hi, -⟩ := patchInterval_of_fits hfits
  rw [registerCleanupTicker, TickerTable.insert, Query.execute_eq, hi]
  refine .bind (.query (hallowed _) (f := fun _ => true) (fun _ => rfl) (.inl fun _ => rfl)
    fun _ _ _ => trivial) fun _ _ => ?_
  rw [pure_bind, TickerTable.patch, Query.fetchOptional_eq]
  refine .bind (.query (hallowed _) (fun _ => rfl) (.inr (hmissing _ _ _)) fun _ _ _ => trivial)
    fun _ _ => .pure trivial

theorem careful_deleteCleanupTicker {queue : String}
    (hallowed : ∀ s reply, allowed ⟨.run s, reply⟩)
    (hmissing : ∀ ns ticker, missing (.deleteTicker ns ticker) = none) :
    Careful missing allowed none (fun _ => True) (m.deleteCleanupTicker queue) := by
  rw [deleteCleanupTicker, TickerTable.delete, Query.fetchOptional_eq]
  exact .bind (.query (hallowed _) (fun _ => rfl) (.inr (hmissing _ _)) fun _ _ _ => trivial)
    fun _ _ => .pure trivial

/-- A patch of a queue is one query, or fails before anything is said. -/
theorem patchQueue_eq (m : Manager) (queue : String) (patch : QueuePatch) :
    (∃ e, patch.misfit? = some e ∧ m.patchQueue queue patch = throw e) ∨
    patch.misfit? = none ∧ ∃ rename ttl retries retryDelay setTtl,
      m.patchQueue queue patch = Action.ofQuery (Operation.asking
        ⟨m.schema, .patchQueue m.ns queue rename ttl retries retryDelay setTtl⟩
        (Reply.optional Queue.ofRow)) := by
  obtain ⟨e, hmisfit, hcommand⟩ | ⟨hfits, rename, ttl, retries, retryDelay, setTtl, hcommand⟩ :=
    patchCommand_eq m.ns queue patch
  · refine .inl ⟨e, hmisfit, ?_⟩
    rw [patchQueue, hcommand]
    rfl
  · refine .inr ⟨hfits, rename, ttl, retries, retryDelay, setTtl, ?_⟩
    rw [← Query.fetchOptional_eq, patchQueue, hcommand]
    rfl

theorem patchQueue_of_misfit {queue : String} {patch : QueuePatch} {e : OperationError}
    (h : patch.misfit? = some e) : m.patchQueue queue patch = throw e := by
  obtain ⟨e', hmisfit, heq⟩ | ⟨hfits, -⟩ := patchQueue_eq m queue patch
  · obtain rfl : e' = e := Option.some.inj (hmisfit.symm.trans h)
    exact heq
  · rw [h] at hfits
    cases hfits

/-- A patch of a queue that has to be there. -/
theorem careful_patchQueue {queue : String} {patch : QueuePatch}
    (hfits : patch.misfit? = none) (hallowed : ∀ s reply, allowed ⟨.run s, reply⟩)
    (hmissing : ∀ ns queue rename ttl retries retryDelay setTtl,
      missing (.patchQueue ns queue rename ttl retries retryDelay setTtl) =
        some (queueThing queue)) :
    Careful missing allowed none (fun q => Interval.Fits (q.ttl.getD defaultCleanupInterval))
      (m.patchQueue queue patch >>= Operation.orFail (.notFound (queueThing queue))) := by
  obtain ⟨e, hmisfit, -⟩ | ⟨-, rename, ttl, retries, retryDelay, setTtl, heq⟩ :=
    patchQueue_eq m queue patch
  · rw [hfits] at hmisfit
    cases hmisfit
  · rw [heq]
    exact .found (hallowed _) (fun _ => rfl) (hmissing ..) fits_of_optional

end Bodies

/-! ## The calls, one by one -/

namespace Call

/-- What a call may say inside its transaction. -/
def Allows (call : Call α) (e : Exchange) : Prop :=
  e.IsStatement ∧ (call.misfit? ≠ none → ¬ e.Patches)

inductive Prepared (m : Manager) (now : Timestamp) (call : Call α) : Prop
  | refused {e : OperationError} (hrefusal : call.refusal? now = some e)
      (hrun : call.run m now = throw e)
  | transaction {body : Action (Operation.Verdict α)} (hrefusal : call.refusal? now = none)
      (hrun : call.run m now = Action.transaction body)
      (hcareful : Careful call.missing? call.Allows call.misfit? (fun _ => True) body)
      (hlapse : ∀ log v, body.Holds log v → ∀ a, call.Lapses log a ↔ v = .ok (.discard a))

variable {m : Manager} {now : Timestamp} {call : Call α}

/-- A body that always keeps what it did never lapses. -/
theorem Prepared.keeping {body : Action (Operation.Verdict α)}
    (hrefusal : call.refusal? now = none) (hrun : call.run m now = Action.transaction body)
    (hcareful : Careful call.missing? call.Allows call.misfit? (fun v => ∃ a, v = .keep a) body)
    (hlapse : ∀ log a, ¬ call.Lapses log a) : call.Prepared m now := by
  refine .transaction hrefusal hrun (hcareful.weaken fun _ _ => trivial) fun log v hlog a => ?_
  refine ⟨fun h => (hlapse log a h).elim, ?_⟩
  rintro rfl
  obtain ⟨b, hb⟩ := (hcareful log _ hlog).value _ rfl
  cases hb

theorem allows_of_fits (h : call.misfit? = none) (s : Statement) (reply : Reply) :
    call.Allows ⟨.run s, reply⟩ :=
  ⟨⟨s, rfl⟩, fun hmisfit => absurd h hmisfit⟩

theorem careful_keep {missing : Command → Option String} {allowed : Exchange → Prop} (a : α) :
    Careful missing allowed none (fun v => ∃ a, v = Operation.Verdict.keep a)
      (pure (.keep a) : Action _) :=
  .pure ⟨a, rfl⟩

theorem isEmpty_of_validate {kind text name : String}
    (h : Name.validate kind text = .ok name) : name.isEmpty = false := by
  have hnormal : Name.normalize kind text = .ok name := by
    simp only [Name.validate, bind, Except.bind] at h
    split at h
    · cases h
    · split at h
      · cases h
      · rename_i hnormal _
        rw [hnormal, h]
  simp only [Name.normalize] at hnormal
  split at hnormal
  · cases hnormal
  · rename_i hempty
    split at hnormal
    · obtain rfl := Except.ok.inj hnormal
      simpa using hempty
    · cases hnormal

/-- What is done with a queue that has to be there, up to its cleanup ticker. -/
theorem careful_followed {missing : Command → Option String} {allowed : Exchange → Prop}
    {thing : String} {op : Action (Option Queue)}
    (h : Careful missing allowed none
      (fun q => Interval.Fits (q.ttl.getD defaultCleanupInterval))
      (op >>= Operation.orFail (.notFound thing)))
    (hallowed : ∀ s reply, allowed ⟨.run s, reply⟩)
    (hmissing : ∀ ns ticker interval, missing (.patchTicker ns ticker interval) = none) :
    Careful missing allowed none (fun v => ∃ a, v = Operation.Verdict.keep a) (do
      let queue ← op
      let queue ← Operation.orFail (.notFound thing) queue
      m.registerCleanupTicker queue
      return .keep queue) := by
  rw [← bind_assoc]
  exact .bind h fun queue hfits =>
    .bind (careful_registerCleanupTicker hfits hallowed hmissing) fun _ _ => careful_keep _

theorem name_of_ok {kind text name : String} (h : Name.normalize kind text = .ok name) :
    Action.name kind text = pure name := by
  rw [Action.name, h]
  rfl

theorem name_of_error {kind text : String} {e : NameError}
    (h : Name.normalize kind text = .error e) :
    Action.name kind text = throw (.ofName e) := by
  rw [Action.name, h]
  rfl

theorem unreservedName_of_ok {kind text name : String} (h : Name.validate kind text = .ok name) :
    Action.unreservedName kind text = pure name := by
  rw [Action.unreservedName, h]
  rfl

theorem unreservedName_of_error {kind text : String} {e : NameError}
    (h : Name.validate kind text = .error e) :
    Action.unreservedName kind text = throw (.ofName e) := by
  rw [Action.unreservedName, h]
  rfl

theorem throw_bind {β : Type} (e : OperationError) (f : α → Action β) :
    (throw e : Action α) >>= f = throw e :=
  rfl

theorem careful_listing {missing : Command → Option String} {allowed : Exchange → Prop}
    {count list : Statement} {read : RowReader α}
    (hallowed : ∀ s reply, allowed ⟨.run s, reply⟩)
    (hcount : ∀ reply, count.command.answer reply =
      (reply.one (Row.first Datum.int64?)).map fun _ => true)
    (hlist : ∀ reply, list.command.answer reply = (reply.all read).map fun _ => true) :
    Careful missing allowed none (fun v => ∃ a, v = Operation.Verdict.keep a) (do
      let count ← Action.ofQuery (Query.fetchOne count (Row.first Datum.int64?))
      let body ← Action.ofQuery (Query.fetchAll list read)
      return .keep ({ count := Listing.countOf count, body } : Listing α)) := by
  rw [Query.fetchOne_eq, Query.fetchAll_eq]
  refine .bind (.query (hallowed _) hcount (.inl fun _ => rfl) fun _ _ _ => trivial)
    fun _ (_ : True) => ?_
  exact .bind (.query (hallowed _) hlist (.inl fun _ => rfl) fun _ _ _ => trivial)
    fun _ (_ : True) => careful_keep _

/-- The task is read again at the end of the transactions that change one. -/
theorem careful_reread {missing : Command → Option String} {allowed : Exchange → Prop} {id : Int64}
    (hallowed : ∀ s reply, allowed ⟨.run s, reply⟩)
    (hmissing : missing (.findTask m.ns id) = some (taskThing id)) :
    Careful missing allowed none (fun v => ∃ a, v = Operation.Verdict.keep a) (do
      let task ← Action.found (taskThing id) (TaskTable.find m.schema m.ns id)
      return .keep task) := by
  rw [TaskTable.find, Query.fetchOptional_eq]
  exact .bind (.found (hallowed _) (fun _ => rfl) hmissing fun _ _ _ => trivial)
    fun _ (_ : True) => careful_keep _

theorem prepared_deleteQueue (text : String) : (deleteQueue text).Prepared m now := by
  cases hname : Name.normalize "queue" text with
  | error e =>
      refine .refused (e := .ofName e) (by simp only [refusal?, hname]; rfl) ?_
      rw [run, Manager.deleteQueue, name_of_error hname, throw_bind]
  | ok name =>
      have hallowed : ∀ s reply, (deleteQueue text).Allows ⟨.run s, reply⟩ := allows_of_fits rfl
      refine .keeping (by simp only [refusal?, hname]; rfl)
        (by rw [run, Manager.deleteQueue, name_of_ok hname, pure_bind]) ?_ fun _ _ => id
      rw [QueueTable.delete, Query.fetchOptional_eq]
      refine .bind (.found (hallowed _) (fun _ => rfl) rfl fits_of_optional) fun queue _ => ?_
      exact .bind (careful_deleteCleanupTicker hallowed fun _ _ => rfl) fun _ _ => careful_keep _

theorem prepared_registerQueue (patch : QueuePatch) : (registerQueue patch).Prepared m now := by
  cases hname : Name.validate "queue" patch.queue with
  | error e =>
      refine .refused (e := .ofName e) (by simp only [refusal?, hname]; rfl) ?_
      rw [run, Manager.registerQueue, unreservedName_of_error hname, throw_bind]
  | ok name =>
      refine .keeping (by simp only [refusal?, hname]; rfl)
        (by rw [run, Manager.registerQueue, unreservedName_of_ok hname, pure_bind]) ?_
        fun _ _ => id
      have hinsert : Careful (registerQueue patch).missing? (registerQueue patch).Allows none
          (fun _ => True) (Action.ofQuery (QueueTable.insert m.schema m.ns name)) := by
        rw [QueueTable.insert, Query.execute_eq]
        refine .query (fun reply => ⟨⟨_, rfl⟩, ?_⟩) (f := fun _ => true) (fun _ => rfl)
          (.inl fun _ => rfl) fun _ _ _ => trivial
        rintro - (⟨_, _, _, _, _, _, _, _, h⟩ | ⟨_, _, _, _, h⟩) <;> cases h
      refine .bind hinsert fun _ _ => ?_
      dsimp only
      cases hmisfit : patch.misfit? with
      | some e =>
          split
          next hempty =>
            have hfits : patch.misfit? = none := misfit?_of_isEmpty hempty
            rw [hmisfit] at hfits
            cases hfits
          next =>
            have hmisfit' : { patch with queue := "" }.misfit? = some e := hmisfit
            have hcall : (registerQueue patch).misfit? = some e := hmisfit
            rw [patchQueue_of_misfit hmisfit', throw_bind, hcall]
            exact .throw
      | none =>
          have hallowed : ∀ s reply, (registerQueue patch).Allows ⟨.run s, reply⟩ :=
            allows_of_fits hmisfit
          have hcare : (registerQueue patch).misfit? = none := hmisfit
          rw [hcare]
          split
          · rw [QueueTable.find, Query.fetchOptional_eq]
            exact careful_followed (.found (hallowed _) (fun _ => rfl) rfl fits_of_optional)
              hallowed fun _ _ _ => rfl
          · exact careful_followed (careful_patchQueue hmisfit hallowed fun _ _ _ _ _ _ _ => rfl)
              hallowed fun _ _ _ => rfl

theorem prepared_updateQueue (text : String) (patch : QueuePatch) :
    (updateQueue text patch).Prepared m now := by
  cases hname : Name.normalize "queue" text with
  | error e =>
      refine .refused (e := .ofName e) (by simp only [refusal?, hname]) ?_
      rw [run, Manager.updateQueue, name_of_error hname, throw_bind]
  | ok name =>
      have hbody (rename : String) : Careful (updateQueue text patch).missing?
          (updateQueue text patch).Allows patch.misfit?
          (fun v => ∃ a, v = Operation.Verdict.keep a) (do
            let queue ← m.patchQueue name { patch with queue := rename }
            let queue ← Operation.orFail (.notFound (queueThing name)) queue
            if queue.queue ≠ name then
              m.deleteCleanupTicker name
            m.registerCleanupTicker queue
            return .keep queue) := by
        have heq : { patch with queue := rename }.misfit? = patch.misfit? := rfl
        cases hmisfit : patch.misfit? with
        | some e =>
            rw [patchQueue_of_misfit (heq.trans hmisfit), throw_bind]
            exact .throw
        | none =>
            have hallowed : ∀ s reply, (updateQueue text patch).Allows ⟨.run s, reply⟩ :=
              allows_of_fits hmisfit
            rw [← bind_assoc]
            refine .bind (careful_patchQueue hmisfit hallowed fun _ _ _ _ _ _ _ => rfl)
              fun queue hfits => ?_
            have hregister : Careful (updateQueue text patch).missing?
                (updateQueue text patch).Allows none
                (fun v => ∃ a, v = Operation.Verdict.keep a) (do
                  m.registerCleanupTicker queue
                  return .keep queue) :=
              .bind (careful_registerCleanupTicker hfits hallowed fun _ _ _ => rfl)
                fun _ _ => careful_keep _
            dsimp only
            split
            · exact .bind (careful_deleteCleanupTicker hallowed fun _ _ => rfl) fun _ _ => hregister
            · exact hregister
      cases hrename : (Text.trim patch.queue.toList).isEmpty with
      | true =>
          cases hempty : patch.isEmpty with
          | true =>
              refine .refused (by simp only [refusal?, hname, hrename, hempty, if_true]; rfl) ?_
              rw [run, Manager.updateQueue, name_of_ok hname, pure_bind, renameOf, if_pos hrename,
                pure_bind]
              simp only [hempty]
              rfl
          | false =>
              refine .keeping (by simp [refusal?, hname, hrename, hempty]) ?_ (hbody "")
                fun _ _ => id
              rw [run, Manager.updateQueue, name_of_ok hname, pure_bind, renameOf, if_pos hrename,
                pure_bind]
              simp only [hempty]
              rfl
      | false =>
          cases hvalid : Name.validate "queue" patch.queue with
          | error e =>
              refine .refused (e := .ofName e)
                (by simp only [refusal?, hname, hrename, hvalid]; rfl) ?_
              rw [run, Manager.updateQueue, name_of_ok hname, pure_bind, renameOf,
                if_neg (by simp [hrename]), unreservedName_of_error hvalid, throw_bind]
          | ok rename =>
              have hnonempty : rename.isEmpty = false := isEmpty_of_validate hvalid
              refine .keeping (by simp only [refusal?, hname, hrename, hvalid]; rfl) ?_
                (hbody rename) fun _ _ => id
              rw [run, Manager.updateQueue, name_of_ok hname, pure_bind, renameOf,
                if_neg (by simp [hrename]), unreservedName_of_ok hvalid, pure_bind]
              simp only [hnonempty, Bool.and_false]
              rfl

theorem prepared_listQueues (page : Page) : (listQueues page).Prepared m now :=
  .keeping rfl rfl (careful_listing (allows_of_fits rfl) (fun _ => rfl) fun _ => rfl) fun _ _ => id

theorem prepared_listTickers (page : Page) : (listTickers page).Prepared m now :=
  .keeping rfl rfl (careful_listing (allows_of_fits rfl) (fun _ => rfl) fun _ => rfl) fun _ _ => id

theorem prepared_listTasks (queue : Option String) (page : TaskPage) :
    (listTasks queue page).Prepared m now := by
  have hcare (name : Option String) : Careful (listTasks queue page).missing?
      (listTasks queue page).Allows none (fun v => ∃ a, v = Operation.Verdict.keep a) (do
        let count ← Action.ofQuery (TaskTable.count m.schema m.ns name page)
        let body ← Action.ofQuery (TaskTable.list m.schema m.ns name page)
        return .keep ({ count := Listing.countOf count, body } : Listing Task)) :=
    careful_listing (allows_of_fits rfl) (fun _ => rfl) fun _ => rfl
  cases queue with
  | none => exact .keeping rfl rfl (hcare none) fun _ _ => id
  | some text =>
      cases hname : Name.normalize "queue" text with
      | error e =>
          refine .refused (e := .ofName e)
            (by simp only [refusal?, Option.bind_some, hname]; rfl) ?_
          rw [run, Manager.listTasks, Action.optionalName, name_of_error hname]
          rfl
      | ok name =>
          refine .keeping (by simp only [refusal?, Option.bind_some, hname]; rfl) ?_
            (hcare (some name)) fun _ _ => id
          rw [run, Manager.listTasks, Action.optionalName, name_of_ok hname]
          rfl

theorem prepared_settle {call : Call Task} {id : Int64} {s : Statement}
    (hrefusal : call.refusal? now = none) (hmisfit : call.misfit? = none)
    (hlapse : ∀ log a, ¬ call.Lapses log a)
    (hrun : call.run m now = m.settle id (TaskTable.identifier s))
    (hanswer : ∀ reply, s.command.answer reply =
      (reply.one (Row.firstOptional Datum.int64?)).map Option.isSome)
    (hretained : call.missing? s.command = some (retainedThing id))
    (hmissing : call.missing? (.findTask m.ns id) = some (taskThing id)) :
    call.Prepared m now := by
  have hallowed : ∀ s reply, call.Allows ⟨.run s, reply⟩ := allows_of_fits hmisfit
  refine .keeping hrefusal hrun ?_ hlapse
  rw [TaskTable.identifier, Query.fetchOne_eq, hmisfit]
  exact .bind (.found (hallowed s) hanswer hretained fun _ _ _ => trivial)
    fun _ (_ : True) => careful_reread hallowed hmissing

theorem prepared_createTask (text : String) (draft : TaskDraft) :
    (createTask text draft).Prepared m now := by
  cases hname : Name.normalize "queue" text with
  | error e =>
      refine .refused (e := .ofName e) (by simp only [refusal?, hname]; rfl) ?_
      rw [run, Manager.createTask, name_of_error hname, throw_bind]
  | ok name =>
      have hallowed : ∀ s reply, (createTask text draft).Allows ⟨.run s, reply⟩ :=
        allows_of_fits rfl
      have hcare : Careful (createTask text draft).missing? (createTask text draft).Allows none
          (fun v => ∃ a, v = Operation.Verdict.keep a) (do
            let id ← Action.found s!"queue {name}" (TaskTable.insert m.schema m.ns name draft)
            let task ← Action.found (taskThing id) (TaskTable.find m.schema m.ns id)
            return .keep task) := by
        rw [TaskTable.insert, TaskTable.identifier, Query.fetchOne_eq]
        exact .bind (.found (hallowed _) (fun _ => rfl) rfl fun _ _ _ => trivial)
          fun _ (_ : True) => careful_reread hallowed rfl
      obtain ⟨payload, delayedAt⟩ := draft
      cases delayedAt with
      | none =>
          refine .keeping (by simp only [refusal?, hname]; rfl) ?_ hcare fun _ _ => id
          rw [run, Manager.createTask, name_of_ok hname, pure_bind]
      | some t =>
          cases hpast : t.before now with
          | true =>
              refine .refused (by simp only [refusal?, hname, Option.bind_some, hpast]; rfl) ?_
              rw [run, Manager.createTask, name_of_ok hname, pure_bind]
              simp only [hpast]
              rfl
          | false =>
              refine .keeping (by simp only [refusal?, hname, Option.bind_some, hpast]; rfl) ?_
                hcare fun _ _ => id
              rw [run, Manager.createTask, name_of_ok hname, pure_bind]
              simp only [hpast]
              rfl

theorem prepared_registerTicker (patch : TickerPatch) : (registerTicker patch).Prepared m now := by
  cases hname : Name.normalize "ticker" patch.ticker with
  | error e =>
      refine .refused (e := .ofName e) (by simp only [refusal?, hname]; rfl) ?_
      rw [run, Manager.registerTicker, name_of_error hname, throw_bind]
  | ok name =>
      refine .keeping (by simp only [refusal?, hname]; rfl)
        (by rw [run, Manager.registerTicker, name_of_ok hname, pure_bind]) ?_ fun _ _ => id
      have hinsert : Careful (registerTicker patch).missing? (registerTicker patch).Allows none
          (fun _ => True) (Action.ofQuery (TickerTable.insert m.schema m.ns name)) := by
        rw [TickerTable.insert, Query.execute_eq]
        refine .query (fun reply => ⟨⟨_, rfl⟩, ?_⟩) (f := fun _ => true) (fun _ => rfl)
          (.inl fun _ => rfl) fun _ _ _ => trivial
        rintro - (⟨_, _, _, _, _, _, _, _, h⟩ | ⟨_, _, _, _, h⟩) <;> cases h
      refine .bind hinsert fun _ _ => ?_
      have hcause : causeOf? (patch.interval.mapM OperationError.interval) =
          (registerTicker patch).misfit? := causeOf?_mapM ..
      rw [← hcause, patchInterval]
      cases hinterval : patch.interval.mapM OperationError.interval with
      | error e => exact .throw
      | ok interval =>
          have hallowed : ∀ s reply, (registerTicker patch).Allows ⟨.run s, reply⟩ :=
            allows_of_fits (by rw [← hcause, hinterval]; rfl)
          have hofExcept : Operation.ofExcept (.ok interval) = (pure interval : Action _) := rfl
          rw [hofExcept, pure_bind, TickerTable.patch, Query.fetchOptional_eq]
          exact .bind (.found (hallowed _) (fun _ => rfl) rfl fun _ _ _ => trivial)
            fun _ (_ : True) => careful_keep _

theorem claimsNothing_iff {schema ns worker : String} {reply : Reply} :
    Exchange.ClaimsNothing ⟨.run ⟨schema, .lockTask ns worker⟩, reply⟩ ↔
      reply.one (Row.firstOptional Datum.int64?) = .ok none :=
  ⟨fun ⟨_, _, _, _, h⟩ => h, fun h => ⟨_, _, _, rfl, h⟩⟩

/-- What a claim does inside its transaction. -/
def claim (m : Manager) (worker : String) : Action (Operation.Verdict (Option Task)) := do
  match ← Action.ofQuery (TaskTable.lock m.schema m.ns worker) with
  | none => return .discard none
  | some id => return .keep (← Action.ofQuery (TaskTable.find m.schema m.ns id))

theorem careful_findClaimed {missing : Command → Option String} {allowed : Exchange → Prop}
    {id : Int64} (hallowed : ∀ reply, allowed ⟨.run ⟨m.schema, .findTask m.ns id⟩, reply⟩)
    (hmissing : missing (.findTask m.ns id) = none) :
    Careful missing allowed none (fun v => ∃ a, v = Operation.Verdict.keep a) (do
      return .keep (← Action.ofQuery (TaskTable.find m.schema m.ns id))) := by
  rw [TaskTable.find, Query.fetchOptional_eq]
  exact .bind (.query hallowed (fun _ => rfl) (.inr hmissing) fun _ _ _ => trivial)
    fun _ (_ : True) => careful_keep _

theorem careful_claim (worker : String) :
    Careful (retainTaskAs worker).missing? (retainTaskAs worker).Allows none (fun _ => True)
      (claim m worker) := by
  have hallowed : ∀ s reply, (retainTaskAs worker).Allows ⟨.run s, reply⟩ := allows_of_fits rfl
  rw [claim, TaskTable.lock, TaskTable.identifier, Query.fetchOne_eq]
  refine .bind (.query (hallowed _) (fun _ => rfl) (.inr rfl) fun _ _ _ => trivial)
    fun id (_ : True) => ?_
  cases id with
  | none => exact .pure trivial
  | some id => exact (careful_findClaimed (hallowed _) rfl).weaken fun _ _ => trivial

/-- A claim lapses when the answer is that there is no task, and only then. -/
theorem claim_lapses_iff {worker : String} {log : List Exchange}
    {v : Except OperationError (Operation.Verdict (Option Task))}
    (hlog : (claim m worker).Holds log v) (a : Option Task) :
    (retainTaskAs worker).Lapses log a ↔ v = .ok (.discard a) := by
  rw [claim, TaskTable.lock, TaskTable.identifier, Query.fetchOne_eq, Action.ofQuery,
    Operation.mapError_asking] at hlog
  obtain ⟨e, rfl, hlock⟩ | ⟨id, first, rest, rfl, hlock, hrest⟩ := Operation.holds_bind.mp hlog
  · obtain ⟨reply, rfl, hread⟩ := Operation.holds_asking.mp hlock
    refine ⟨?_, by rintro ⟨⟩⟩
    rintro ⟨-, e', he, hclaim⟩
    obtain rfl := List.mem_singleton.mp he
    rw [claimsNothing_iff.mp hclaim] at hread
    cases hread
  · obtain ⟨reply, rfl, hread⟩ := Operation.holds_asking.mp hlock
    have hanswer : reply.one (Row.firstOptional Datum.int64?) = .ok id := by
      cases hone : reply.one (Row.firstOptional Datum.int64?) with
      | error e =>
          rw [hone] at hread
          cases hread
      | ok answer =>
          rw [hone] at hread
          cases hread
          rfl
    cases id with
    | none =>
        obtain ⟨rfl, rfl⟩ := Operation.holds_pure.mp hrest
        constructor
        · rintro ⟨rfl, -⟩
          rfl
        · rintro ⟨⟩
          exact ⟨rfl, _, List.mem_singleton.mpr rfl, claimsNothing_iff.mpr hanswer⟩
    | some id =>
        have hnothing : ∀ reply, ¬ Exchange.ClaimsNothing
            ⟨.run ⟨m.schema, .findTask m.ns id⟩, reply⟩ := by
          rintro reply ⟨_, _, _, h, -⟩
          cases h
        have hfound : Followed (retainTaskAs worker).missing? (¬ ·.ClaimsNothing) none
            (fun v => ∃ a, v = Operation.Verdict.keep a) rest v :=
          careful_findClaimed hnothing rfl rest v hrest
        constructor
        · rintro ⟨-, e, he, hclaim⟩
          rcases List.mem_cons.mp he with rfl | he
          · rw [claimsNothing_iff.mp hclaim] at hanswer
            cases hanswer
          · exact (hfound.allowed e he hclaim).elim
        · rintro rfl
          obtain ⟨b, hb⟩ := hfound.value _ rfl
          cases hb

theorem prepared_retainTaskAs (worker : String) : (retainTaskAs worker).Prepared m now := by
  cases hblank : Text.isBlankText worker with
  | true =>
      refine .refused (by simp only [refusal?, hblank]; rfl) ?_
      rw [run, Manager.retainTaskAs]
      simp only [hblank]
      rfl
  | false =>
      refine .transaction (by simp only [refusal?, hblank]; rfl)
        (by rw [run, Manager.retainTaskAs]; simp only [hblank]; rfl) (careful_claim worker)
        fun log v hlog a => claim_lapses_iff hlog a

theorem prepared (m : Manager) (now : Timestamp) (call : Call α) : call.Prepared m now := by
  cases call with
  | registerQueue patch => exact prepared_registerQueue patch
  | listQueues page => exact prepared_listQueues page
  | updateQueue name patch => exact prepared_updateQueue name patch
  | deleteQueue name => exact prepared_deleteQueue name
  | createTask queue draft => exact prepared_createTask queue draft
  | retainTaskAs worker => exact prepared_retainTaskAs worker
  | releaseTask | failTask | returnTask =>
      exact prepared_settle rfl rfl (fun _ _ => False.elim) rfl (fun _ => rfl) rfl rfl
  | listTasks queue page => exact prepared_listTasks queue page
  | registerTicker patch => exact prepared_registerTicker patch
  | listTickers page => exact prepared_listTickers page

end Call

end Manager

end TaskQueue
