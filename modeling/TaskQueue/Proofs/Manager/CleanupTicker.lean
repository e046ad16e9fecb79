import TaskQueue.Proofs.Manager.Atomic

/-!
# Cleanup tickers follow their queues

A change of a queue that is committed has told the database, in the same transaction, what becomes
of the cleanup ticker: it is there with the time to live of the queue as its interval, it is not
there under a name that the queue had before, and it goes with the queue. A change that fails has
committed none of it.
-/

namespace TaskQueue

variable {α : Type} {log : List Exchange}

theorem Dialogue.exists_reply_of_mem_said {σ : Type} {server : Dialogue.Server σ}
    {d : Dialogue α} {s : σ} {e : Exchange} (h : e ∈ d.said server s) :
    ∃ s', e.reply = (server e.request s').1 := by
  induction d generalizing s with
  | done a => cases h
  | ask request next ih =>
      rcases List.mem_cons.mp h with rfl | h
      · exact ⟨s, rfl⟩
      · exact ih _ h

/-- The commands that answer with the row of one queue. -/
def Command.readsQueue : Command → Bool
  | findQueue .. | patchQueue .. | deleteQueue .. => true
  | _ => false

namespace Manager

section Answers

variable {s : Statement}

theorem holds_ofQuery_ok {read : Reply → Except DatabaseError α} {a : α} :
    (Action.ofQuery (Operation.asking s read)).Holds log (.ok a) ↔
      ∃ reply, log = [⟨.run s, reply⟩] ∧ read reply = .ok a := by
  rw [Action.ofQuery, Operation.mapError_asking, Operation.holds_asking]
  refine exists_congr fun reply => and_congr_right fun _ => ?_
  cases read reply with
  | error e => constructor <;> intro h <;> cases h
  | ok b =>
      change Except.ok a = Except.ok b ↔ Except.ok b = Except.ok a
      simp only [Except.ok.injEq, eq_comm]

theorem holds_found_ok {thing : String} {read : Reply → Except DatabaseError (Option α)} {a : α} :
    (Action.found thing (Operation.asking s read)).Holds log (.ok a) ↔
      ∃ reply, log = [⟨.run s, reply⟩] ∧ read reply = .ok (some a) := by
  rw [Action.found_asking, Operation.holds_asking]
  refine exists_congr fun reply => and_congr_right fun _ => ?_
  rcases read reply with e | _ | b <;> simp [OperationError.present, eq_comm]

end Answers

/-- The queue that is changed, and how. -/
inductive QueueChange
  | register (patch : QueuePatch)
  | update (name : String) (patch : QueuePatch)
  | delete (name : String)

namespace QueueChange

def run (m : Manager) : QueueChange → Action Queue
  | register patch => m.registerQueue patch
  | update name patch => m.updateQueue name patch
  | delete name => m.deleteQueue name

/-- The requests that give a queue its cleanup ticker with an interval. -/
def tickerSet (m : Manager) (queue : String) (interval : Interval) : List Request :=
  [.run ⟨m.schema, .insertTicker cleanupNamespace (CleanupTicker.name m.ns queue)⟩,
    .run ⟨m.schema, .patchTicker cleanupNamespace (CleanupTicker.name m.ns queue) (some interval)⟩]

/-- The requests that take the cleanup ticker from a queue. -/
def tickerGone (m : Manager) (queue : String) : List Request :=
  [.run ⟨m.schema, .deleteTicker cleanupNamespace (CleanupTicker.name m.ns queue)⟩]

/-- The interval is the time to live of a queue, or an hour. -/
def IntervalOf (q : Queue) (interval : Interval) : Prop :=
  interval.toSpan = q.ttl.getD (.ofSecs 3600)

/-- All that is asked for by a change that is committed and returns the queue `q`. -/
inductive Asked (m : Manager) : QueueChange → Queue → List Request → Prop
  | found {patch : QueuePatch} {name : String} {q : Queue} {interval : Interval}
      (hname : Name.validate "queue" patch.queue = .ok name) (hpatch : patch.isEmpty = true)
      (hinterval : IntervalOf q interval) :
      Asked m (.register patch) q
        ([.begin, .run ⟨m.schema, .insertQueue m.ns name⟩, .run ⟨m.schema, .findQueue m.ns name⟩] ++
          tickerSet m q.queue interval ++ [.commit])
  | patched {patch : QueuePatch} {name : String} {q : Queue} {rename : Option String}
      {ttl retryDelay : Option Interval} {retries : Option Int32} {setTtl : Bool}
      {interval : Interval} (hname : Name.validate "queue" patch.queue = .ok name)
      (hpatch : patch.isEmpty = false) (hinterval : IntervalOf q interval) :
      Asked m (.register patch) q
        ([.begin, .run ⟨m.schema, .insertQueue m.ns name⟩,
            .run ⟨m.schema, .patchQueue m.ns name rename ttl retries retryDelay setTtl⟩] ++
          tickerSet m q.queue interval ++ [.commit])
  | kept {text name : String} {patch : QueuePatch} {q : Queue} {rename : Option String}
      {ttl retryDelay : Option Interval} {retries : Option Int32} {setTtl : Bool}
      {interval : Interval} (hname : Name.normalize "queue" text = .ok name) (h : q.queue = name)
      (hinterval : IntervalOf q interval) :
      Asked m (.update text patch) q
        ([.begin, .run ⟨m.schema, .patchQueue m.ns name rename ttl retries retryDelay setTtl⟩] ++
          tickerSet m q.queue interval ++ [.commit])
  | renamed {text name : String} {patch : QueuePatch} {q : Queue} {rename : Option String}
      {ttl retryDelay : Option Interval} {retries : Option Int32} {setTtl : Bool}
      {interval : Interval} (hname : Name.normalize "queue" text = .ok name) (h : q.queue ≠ name)
      (hinterval : IntervalOf q interval) :
      Asked m (.update text patch) q
        ([.begin, .run ⟨m.schema, .patchQueue m.ns name rename ttl retries retryDelay setTtl⟩] ++
          tickerGone m name ++ tickerSet m q.queue interval ++ [.commit])
  | deleted {text name : String} {q : Queue} (hname : Name.normalize "queue" text = .ok name) :
      Asked m (.delete text) q
        ([.begin, .run ⟨m.schema, .deleteQueue m.ns name⟩] ++ tickerGone m name ++ [.commit])

section Bodies

variable {m : Manager}

theorem requests_of_registerCleanupTicker {q : Queue} (hns : q.ns = m.ns)
    (hfits : Interval.Fits (q.ttl.getD defaultCleanupInterval))
    (h : (m.registerCleanupTicker q).Holds log (.ok ())) :
    ∃ interval, IntervalOf q interval ∧ log.map (·.request) = tickerSet m q.queue interval := by
  obtain ⟨interval, hpatch, hspan⟩ := patchInterval_of_fits hfits
  rw [registerCleanupTicker, TickerTable.insert, Query.execute_eq, hpatch, hns] at h
  obtain ⟨_, first, rest, rfl, hinsert, hrest⟩ := Operation.holds_bind_ok.mp h
  obtain ⟨reply, rfl, -⟩ := holds_ofQuery_ok.mp hinsert
  rw [pure_bind, TickerTable.patch, Query.fetchOptional_eq] at hrest
  obtain ⟨_, second, last, rfl, hset, hlast⟩ := Operation.holds_bind_ok.mp hrest
  obtain ⟨reply, rfl, -⟩ := holds_ofQuery_ok.mp hset
  obtain ⟨rfl, -⟩ := Operation.holds_pure.mp hlast
  exact ⟨interval, hspan, rfl⟩

theorem requests_of_deleteCleanupTicker {name : String}
    (h : (m.deleteCleanupTicker name).Holds log (.ok ())) :
    log.map (·.request) = tickerGone m name := by
  rw [deleteCleanupTicker, TickerTable.delete, Query.fetchOptional_eq] at h
  obtain ⟨_, first, rest, rfl, hdelete, hrest⟩ := Operation.holds_bind_ok.mp h
  obtain ⟨reply, rfl, -⟩ := holds_ofQuery_ok.mp hdelete
  obtain ⟨rfl, -⟩ := Operation.holds_pure.mp hrest
  rfl

/-- What follows the statements on the queue, in a change that keeps it. -/
theorem requests_of_followed {q : Queue} (hns : q.ns = m.ns)
    (hfits : Interval.Fits (q.ttl.getD defaultCleanupInterval)) {v : Operation.Verdict Queue}
    (h : Operation.Holds (do
      m.registerCleanupTicker q
      return Operation.Verdict.keep q) log (.ok v)) :
    v = .keep q ∧ ∃ interval, IntervalOf q interval ∧
      log.map (·.request) = tickerSet m q.queue interval := by
  obtain ⟨_, first, rest, rfl, hset, hrest⟩ := Operation.holds_bind_ok.mp h
  obtain ⟨rfl, hv⟩ := Operation.holds_pure.mp hrest
  rw [List.append_nil]
  exact ⟨Except.ok.inj hv, requests_of_registerCleanupTicker hns hfits hset⟩

/-- A transaction that ends well has kept what it did, or discarded it. -/
theorem transaction_of_ok {body : Action (Operation.Verdict α)} {a : α}
    (h : (Action.transaction body).Holds log (.ok a)) :
    ∃ opening inner v, body.Holds inner (.ok v) ∧
      ((∃ reply, v = .keep a ∧ log = ⟨.begin, opening⟩ :: (inner ++ [⟨.commit, reply⟩]) ∧
        reply.isFailed = false) ∨
      ∃ reply, v = .discard a ∧ log = ⟨.begin, opening⟩ :: (inner ++ [⟨.rollback, reply⟩])) := by
  obtain ⟨code, message, -, hfail⟩ | ⟨opening, inner, v, ending, rfl, -, hinner, hends⟩ :=
    Operation.holds_transaction h
  · cases hfail
  · cases hends with
    | discarded => exact ⟨opening, inner, _, hinner, .inr ⟨_, rfl, rfl⟩⟩
    | kept hreply => exact ⟨opening, inner, _, hinner, .inl ⟨_, rfl, rfl, hreply⟩⟩

end Bodies

section Changes

variable {m : Manager} {q : Queue}

/-- The rows of queues that a conversation shows are of the namespace of the manager. -/
def ShowsOwn (m : Manager) (log : List Exchange) : Prop :=
  ∀ e ∈ log, ∀ s, e.request = .run s → s.command.readsQueue = true →
    ∀ q, e.reply.optional Queue.ofRow = .ok (some q) → q.ns = m.ns

/-- What a transaction on a queue says when it ends well, from what its body says. -/
theorem committed_of_body {change : QueueChange} {body : Action (Operation.Verdict Queue)}
    (hrows : ShowsOwn m log) (h : (Action.transaction body).Holds log (.ok q))
    (hbody : ∀ inner v, ShowsOwn m inner → body.Holds inner (.ok v) → ∃ q, v = .keep q ∧
      Asked m change q (.begin :: (inner.map (·.request) ++ [.commit]))) :
    Asked m change q (log.map (·.request)) ∧ ∃ e ∈ log, e.Commits := by
  obtain ⟨opening, inner, v, hinner, hend⟩ := transaction_of_ok h
  have hown : ShowsOwn m inner := fun e he => hrows e (by
    rcases hend with ⟨_, -, rfl, -⟩ | ⟨_, -, rfl⟩ <;> simp [he])
  obtain ⟨q', rfl, hasked⟩ := hbody inner v hown hinner
  obtain ⟨reply, hv, rfl, hreply⟩ | ⟨_, hv, -⟩ := hend
  · cases hv
    exact ⟨by simpa using hasked, ⟨.commit, reply⟩, by simp, rfl, hreply⟩
  · cases hv

/-- From the statement on the queue to the end of a body that keeps the queue. -/
theorem requests_of_rest {thing : String} {s : Statement}
    {tail : Queue → Action (Operation.Verdict Queue)} {v : Operation.Verdict Queue}
    (hquery : s.command.readsQueue = true) (hrows : ShowsOwn m log)
    (h : Operation.Holds (do
      let queue ← Action.ofQuery (Operation.asking s (Reply.optional Queue.ofRow))
      let queue ← Operation.orFail (.notFound thing) queue
      tail queue) log (.ok v)) :
    ∃ q rest, q.ns = m.ns ∧ Interval.Fits (q.ttl.getD defaultCleanupInterval) ∧
      (tail q).Holds rest (.ok v) ∧ log.map (·.request) = .run s :: rest.map (·.request) := by
  rw [← bind_assoc] at h
  obtain ⟨q, first, rest, rfl, hfirst, hrest⟩ := Operation.holds_bind_ok.mp h
  obtain ⟨reply, rfl, hread⟩ := holds_found_ok.mp hfirst
  have hns : q.ns = m.ns := hrows ⟨.run s, reply⟩ (by simp) s rfl hquery q hread
  exact ⟨q, rest, hns, fits_of_optional reply q hread, hrest, rfl⟩

theorem asked_of_register {patch : QueuePatch} (hrows : ShowsOwn m log)
    (h : (m.registerQueue patch).Holds log (.ok q)) :
    Asked m (.register patch) q (log.map (·.request)) ∧ ∃ e ∈ log, e.Commits := by
  cases hname : Name.validate "queue" patch.queue with
  | error e =>
      rw [registerQueue, Call.unreservedName_of_error hname, Call.throw_bind] at h
      cases (Operation.holds_throw.mp h).2
  | ok name =>
      rw [registerQueue, Call.unreservedName_of_ok hname, pure_bind] at h
      refine committed_of_body hrows h fun inner v hown hinner => ?_
      obtain ⟨_, first, rest, rfl, hinsert, hrest⟩ := Operation.holds_bind_ok.mp hinner
      rw [QueueTable.insert, Query.execute_eq] at hinsert
      obtain ⟨reply, rfl, -⟩ := holds_ofQuery_ok.mp hinsert
      have hown' : ShowsOwn m rest := fun e he => hown e (by simp [he])
      dsimp only at hrest
      split at hrest
      next hempty =>
        rw [QueueTable.find, Query.fetchOptional_eq] at hrest
        obtain ⟨q, last, hns, hfits, hlast, hfound⟩ := requests_of_rest rfl hown' hrest
        obtain ⟨rfl, interval, hinterval, hset⟩ := requests_of_followed hns hfits hlast
        refine ⟨q, rfl, ?_⟩
        rw [List.map_append, hfound, hset]
        exact .found hname hempty hinterval
      next hgiven =>
        obtain ⟨e, -, hthrow⟩ | ⟨-, rename, ttl, retries, retryDelay, setTtl, heq⟩ :=
          patchQueue_eq m name { patch with queue := "" }
        · rw [hthrow, Call.throw_bind] at hrest
          cases (Operation.holds_throw.mp hrest).2
        · rw [heq] at hrest
          obtain ⟨q, last, hns, hfits, hlast, hfound⟩ := requests_of_rest rfl hown' hrest
          obtain ⟨rfl, interval, hinterval, hset⟩ := requests_of_followed hns hfits hlast
          refine ⟨q, rfl, ?_⟩
          rw [List.map_append, hfound, hset]
          exact .patched hname (Bool.eq_false_iff.mpr hgiven) hinterval

theorem asked_of_delete {text : String} (hrows : ShowsOwn m log)
    (h : (m.deleteQueue text).Holds log (.ok q)) :
    Asked m (.delete text) q (log.map (·.request)) ∧ ∃ e ∈ log, e.Commits := by
  cases hname : Name.normalize "queue" text with
  | error e =>
      rw [deleteQueue, Call.name_of_error hname, Call.throw_bind] at h
      cases (Operation.holds_throw.mp h).2
  | ok name =>
      rw [deleteQueue, Call.name_of_ok hname, pure_bind] at h
      refine committed_of_body hrows h fun inner v hown hinner => ?_
      rw [QueueTable.delete, Query.fetchOptional_eq] at hinner
      obtain ⟨q, first, rest, rfl, hdelete, hrest⟩ := Operation.holds_bind_ok.mp hinner
      obtain ⟨reply, rfl, -⟩ := holds_found_ok.mp hdelete
      obtain ⟨_, second, last, rfl, hgone, hlast⟩ := Operation.holds_bind_ok.mp hrest
      obtain ⟨rfl, hv⟩ := Operation.holds_pure.mp hlast
      refine ⟨q, Except.ok.inj hv, ?_⟩
      rw [List.append_nil, List.map_append, requests_of_deleteCleanupTicker hgone]
      exact .deleted hname

/-- The new name of a queue is found without the database. -/
theorem log_of_renameOf {patch : QueuePatch} {rename : String}
    (h : (renameOf patch).Holds log (.ok rename)) : log = [] := by
  unfold renameOf at h
  split at h
  · exact (Operation.holds_pure.mp h).1
  · cases hname : Name.validate "queue" patch.queue with
    | error e =>
        rw [Call.unreservedName_of_error hname] at h
        exact (Operation.holds_throw.mp h).1
    | ok name =>
        rw [Call.unreservedName_of_ok hname] at h
        exact (Operation.holds_pure.mp h).1

theorem asked_of_update {text : String} {patch : QueuePatch} (hrows : ShowsOwn m log)
    (h : (m.updateQueue text patch).Holds log (.ok q)) :
    Asked m (.update text patch) q (log.map (·.request)) ∧ ∃ e ∈ log, e.Commits := by
  cases hname : Name.normalize "queue" text with
  | error e =>
      rw [updateQueue, Call.name_of_error hname, Call.throw_bind] at h
      cases (Operation.holds_throw.mp h).2
  | ok name =>
      rw [updateQueue, Call.name_of_ok hname, pure_bind] at h
      obtain ⟨rename, first, rest, rfl, hrename, hrest⟩ := Operation.holds_bind_ok.mp h
      obtain rfl := log_of_renameOf hrename
      dsimp only at hrest
      split at hrest
      next =>
        rw [Call.throw_bind] at hrest
        cases (Operation.holds_throw.mp hrest).2
      next =>
        refine committed_of_body hrows hrest fun inner v hown hinner => ?_
        obtain ⟨e, -, hthrow⟩ | ⟨-, rename, ttl, retries, retryDelay, setTtl, heq⟩ :=
          patchQueue_eq m name { patch with queue := rename }
        · rw [hthrow, Call.throw_bind] at hinner
          cases (Operation.holds_throw.mp hinner).2
        · rw [heq] at hinner
          obtain ⟨q, last, hns, hfits, hlast, hfound⟩ := requests_of_rest rfl hown hinner
          split at hlast
          next hmoved =>
            obtain ⟨_, gone, set, rfl, hgone, hset⟩ := Operation.holds_bind_ok.mp hlast
            obtain ⟨rfl, interval, hinterval, hset⟩ := requests_of_followed hns hfits hset
            refine ⟨q, rfl, ?_⟩
            rw [hfound, List.map_append, requests_of_deleteCleanupTicker hgone, hset]
            exact .renamed hname hmoved hinterval
          next hkept =>
            obtain ⟨rfl, interval, hinterval, hset⟩ := requests_of_followed hns hfits hlast
            refine ⟨q, rfl, ?_⟩
            rw [hfound, hset]
            exact .kept hname (Decidable.of_not_not hkept) hinterval

end Changes

/-- Whatever it is asked for a queue, the server answers with queues of one namespace. -/
def KeepsQueues {σ : Type} (server : Dialogue.Server σ) (ns : String) : Prop :=
  ∀ s state, s.command.readsQueue = true →
    ∀ q, (server (.run s) state).1.optional Queue.ofRow = .ok (some q) → q.ns = ns

theorem showsOwn_said {σ : Type} {m : Manager} {server : Dialogue.Server σ}
    (h : KeepsQueues server m.ns) (d : Dialogue α) (s : σ) : ShowsOwn m (d.said server s) := by
  intro e he statement hrequest hreads q hread
  obtain ⟨s', hreply⟩ := Dialogue.exists_reply_of_mem_said he
  rw [hrequest] at hreply
  rw [hreply] at hread
  exact h statement s' hreads q hread

theorem not_commits_of_error {m : Manager} {change : QueueChange} {e : OperationError}
    (h : (change.run m).Holds log (.error e)) : ∀ x ∈ log, ¬ x.Commits := by
  have hcall (call : Manager.Call Queue) (h : (call.run m default).Holds log (.error e)) :
      ∀ x ∈ log, ¬ x.Commits := by
    have hverdict := (Call.atomic_of_holds h).verdict.mp ⟨e, rfl⟩
    exact fun x hx hcommits => hverdict.1 ⟨x, hx, hcommits⟩
  cases change with
  | register patch => exact hcall (.registerQueue patch) h
  | update name patch => exact hcall (.updateQueue name patch) h
  | delete name => exact hcall (.deleteQueue name) h

theorem cleanup_ticker_follows {σ : Type} (m : Manager) (change : QueueChange)
    (server : Dialogue.Server σ) (s : σ) (hserver : KeepsQueues server m.ns) :
    (∀ q, (Dialogue.run server (change.run m).run s).result = .ok q →
      Asked m change q ((Dialogue.said server (change.run m).run s).map (·.request)) ∧
        ∃ e ∈ Dialogue.said server (change.run m).run s, e.Commits) ∧
    ∀ e, (Dialogue.run server (change.run m).run s).result = .error e →
      ∀ x ∈ Dialogue.said server (change.run m).run s, ¬ x.Commits := by
  have hrows := showsOwn_said hserver (change.run m).run s
  have hholds : (change.run m).Holds _ _ := Dialogue.holds_said server (change.run m).run s
  constructor
  · intro q hq
    rw [hq] at hholds
    cases change with
    | register patch => exact asked_of_register hrows hholds
    | update name patch => exact asked_of_update hrows hholds
    | delete name => exact asked_of_delete hrows hholds
  · intro e he
    rw [he] at hholds
    exact not_commits_of_error hholds

/-- A server that renames whatever queue it is told to patch to `work`, without a time to live. -/
def renamingServer : Dialogue.Server Unit
  | .run ⟨_, .patchQueue ..⟩, s =>
    (.rows [[("ns", .text "shop"), ("queue", .text "work"), ("ttl", .null), ("retries", .int 3),
      ("retry_delay", .interval ⟨0, 0, 1000000⟩)]], s)
  | .run ⟨_, .insertTicker ..⟩, s => (.affected 1, s)
  | .run _, s => (.rows [], s)
  | _, s => (.empty, s)

def shop : Manager := { schema := "pgqueue", ns := "shop", worker := "w" }

def renameJobs : QueueChange := .update " Jobs" { queue := "work", ttl := .remove }

def renamed : Queue :=
  { ns := "shop", queue := "work", ttl := none, retries := 3, retryDelay := .ofSecs 1 }

theorem renamingServer_keeps : KeepsQueues renamingServer "shop" := by
  rintro ⟨schema, command⟩ state hreads q hread
  cases command <;> cases hreads
  case patchQueue =>
    have hrenamed : (.ok (some renamed) : Except DatabaseError _) = .ok (some q) := hread
    cases hrenamed
    rfl
  all_goals cases hread

theorem renameJobs_moves_ticker :
    KeepsQueues renamingServer shop.ns ∧
    (Dialogue.run renamingServer (renameJobs.run shop).run ()).result = .ok renamed ∧
    Asked shop renameJobs renamed
      [.begin,
        .run ⟨"pgqueue", .patchQueue "shop" "jobs" (some "work") none none none true⟩,
        .run ⟨"pgqueue", .deleteTicker "cleanup" "shop.jobs"⟩,
        .run ⟨"pgqueue", .insertTicker "cleanup" "shop.work"⟩,
        .run ⟨"pgqueue", .patchTicker "cleanup" "shop.work" (some ⟨0, 0, 3600000000⟩)⟩,
        .commit] :=
  ⟨renamingServer_keeps, rfl,
    ((cleanup_ticker_follows shop renameJobs renamingServer () renamingServer_keeps).1
      renamed rfl).1⟩

end QueueChange

end Manager

end TaskQueue
