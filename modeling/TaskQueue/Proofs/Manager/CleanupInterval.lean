import TaskQueue.Proofs.Manager.CleanupTicker

/-!
# The intervals of cleanup tickers

A span is written as an interval if and only if its whole microseconds fit 63 bits, and is read back
without what is finer than a microsecond. What was read from an interval is such a span, whole and
short enough, and is read back as it was. So the time to live of a queue that the database shows is
written as the interval of its cleanup ticker, exactly and without a failure of its own.
-/

namespace TaskQueue

namespace Interval

variable {d : Span} {i : Interval}

theorem ofSpan?_eq_some_iff :
    ofSpan? d = some i ↔ d.micros < Nat.pow 2 63 ∧ ⟨0, 0, Int64.ofNat d.micros⟩ = i := by
  unfold ofSpan?
  split <;> simp [*]

theorem exists_ofSpan?_iff : (∃ i, ofSpan? d = some i) ↔ (d.micros : Int) ≤ maxMicros := by
  simp only [ofSpan?_eq_some_iff, exists_and_left, exists_eq', and_true, Nat.pow_eq, maxMicros]
  omega

/-- What is finer than a microsecond is lost. -/
theorem nanos_of_ofSpan? (h : ofSpan? d = some i) : i.toSpan.nanos = d.micros * 1000 := by
  obtain ⟨hlt, rfl⟩ := ofSpan?_eq_some_iff.mp h
  exact toSpan_ofNat_micros hlt

end Interval

namespace Manager

variable {m : Manager} {q : Queue} {interval : Interval} {log : List Exchange}

/-- What is said, and what comes of it, when a queue is given its cleanup ticker with an
interval. -/
structure Registered (m : Manager) (q : Queue) (interval : Interval) (log : List Exchange)
    (r : Except OperationError Unit) : Prop where
  /-- The ticker is added and given the interval, unless adding it fails. -/
  requests : log.map (·.request) <+: QueueChange.tickerSet { m with ns := q.ns } q.queue interval
  complete : r = .ok () →
    log.map (·.request) = QueueChange.tickerSet { m with ns := q.ns } q.queue interval
  /-- It fails with the first failure of the database, and for no reason of its own. -/
  failure : causeOf? r = log.findSome? (·.failure? fun _ => none)

theorem registered_of_holds {r : Except OperationError Unit}
    (hfits : Interval.Fits (q.ttl.getD defaultCleanupInterval))
    (hpatch : patchInterval (some (q.ttl.getD defaultCleanupInterval)) = pure (some interval))
    (h : (m.registerCleanupTicker q).Holds log r) : Registered m q interval log r := by
  have hcareful : Careful (fun _ => none) (fun _ => True) none (fun _ => True)
      (m.registerCleanupTicker q) :=
    careful_registerCleanupTicker hfits (fun _ _ => trivial) fun _ _ _ => rfl
  have hfailure := (hcareful log r h).failure
  rw [Option.or_none] at hfailure
  rw [registerCleanupTicker, TickerTable.insert, Query.execute_eq, hpatch, pure_bind,
    TickerTable.patch, Query.fetchOptional_eq, Action.ofQuery, Action.ofQuery,
    Operation.mapError_asking, Operation.mapError_asking] at h
  obtain ⟨e, rfl, hinsert⟩ | ⟨_, first, rest, rfl, hinsert, hrest⟩ := Operation.holds_bind.mp h
  · obtain ⟨reply, rfl, -⟩ := Operation.holds_asking.mp hinsert
    refine ⟨⟨[_], rfl⟩, fun hok => ?_, hfailure⟩
    cases hok
  · obtain ⟨reply, rfl, -⟩ := Operation.holds_asking.mp hinsert
    obtain ⟨e, rfl, hset⟩ | ⟨_, second, last, rfl, hset, hlast⟩ := Operation.holds_bind.mp hrest
    · obtain ⟨reply, rfl, -⟩ := Operation.holds_asking.mp hset
      refine ⟨List.prefix_rfl, fun hok => ?_, hfailure⟩
      cases hok
    · obtain ⟨reply, rfl, -⟩ := Operation.holds_asking.mp hset
      obtain ⟨rfl, -⟩ := Operation.holds_pure.mp hlast
      exact ⟨List.prefix_rfl, fun _ => rfl, hfailure⟩

/-- Spans and intervals convert back and forth, and the cleanup ticker of a queue that the database
shows carries the time to live of the queue, or an hour: registering it says so, whatever it hears,
and fails only when the database fails. -/
theorem spans_convert_back {σ : Type} (m : Manager) (server : Dialogue.Server σ) (s : σ) :
    (∀ d : Span, ((∃ i, Interval.ofSpan? d = some i) ↔ (d.micros : Int) ≤ Interval.maxMicros) ∧
      ∀ i, Interval.ofSpan? d = some i → i.toSpan.nanos = d.micros * 1000) ∧
    (∀ i : Interval, ∃ j, Interval.ofSpan? i.toSpan = some j ∧ j.toSpan = i.toSpan) ∧
    ∀ row q, Queue.ofRow row = .ok q →
      ∃ interval, interval.toSpan = q.ttl.getD (.ofSecs 3600) ∧
        Registered m q interval (Dialogue.said server (m.registerCleanupTicker q).run s)
          (Dialogue.run server (m.registerCleanupTicker q).run s).result := by
  refine ⟨fun d => ⟨Interval.exists_ofSpan?_iff, fun i => Interval.nanos_of_ofSpan?⟩,
    Interval.fits_toSpan, fun row q hrow => ?_⟩
  have hfits := Queue.ofRow_fits hrow
  obtain ⟨interval, hpatch, hspan⟩ := patchInterval_of_fits hfits
  exact ⟨interval, hspan,
    registered_of_holds hfits hpatch (Dialogue.holds_said server (m.registerCleanupTicker q).run s)⟩

def monthlyRow : Row :=
  [("ns", .text "shop"), ("queue", .text "jobs"), ("ttl", .interval ⟨1, -2, 500000⟩),
    ("retries", .int 3), ("retry_delay", .interval ⟨0, 0, 1000000⟩)]

/-- A queue whose tasks live for a month less two days and half a second more. -/
def monthly : Queue :=
  { ns := "shop", queue := "jobs", ttl := some ⟨2419200500000000, by decide⟩, retries := 3,
    retryDelay := .ofSecs 1 }

theorem monthly_carries_ttl :
    Queue.ofRow monthlyRow = .ok monthly ∧
    (∃ interval, interval.toSpan = monthly.ttl.getD (.ofSecs 3600) ∧
      Registered QueueChange.shop monthly interval
        (Dialogue.said QueueChange.renamingServer
          (QueueChange.shop.registerCleanupTicker monthly).run ())
        (Dialogue.run QueueChange.renamingServer
          (QueueChange.shop.registerCleanupTicker monthly).run ()).result) ∧
    (Dialogue.said QueueChange.renamingServer
      (QueueChange.shop.registerCleanupTicker monthly).run ()).map (·.request) =
        QueueChange.tickerSet QueueChange.shop "jobs" ⟨0, 0, 2419200500000⟩ :=
  ⟨rfl, (spans_convert_back QueueChange.shop QueueChange.renamingServer ()).2.2 monthlyRow
    monthly rfl, rfl⟩

end Manager

end TaskQueue
