import TaskQueue.Proofs.Entity.Codec
import TaskQueue.Proofs.Time.Reading

/-!
# Entities that survive being written

Entities other than patches of queues read back as they were written. The one condition is that
their timestamps have years that can be read, which every entity that was itself read meets: what
was read once is read again from what is written for it, and is written the same.
-/

namespace TaskQueue

/-- Values with a JSON form that reads back: those that are valid, and so all that can be read. -/
structure Survives {α : Type} (encode : α → Json) (decode : Decoder α) (Valid : α → Prop) :
    Prop where
  reads : ∀ a, Valid a → decode (encode a) = .ok a
  fixed : ∀ j a, decode j = .ok a →
    decode (encode a) = .ok a ∧ ∀ b, decode (encode a) = .ok b → encode b = encode a

theorem Survives.of_valid {α : Type} {encode : α → Json} {decode : Decoder α} {Valid : α → Prop}
    (hreads : ∀ a, Valid a → decode (encode a) = .ok a)
    (hvalid : ∀ j a, decode j = .ok a → Valid a) : Survives encode decode Valid where
  reads := hreads
  fixed := by
    intro j a hread
    have hagain := hreads a (hvalid j a hread)
    refine ⟨hagain, fun b hb => ?_⟩
    rw [hagain, Except.ok.injEq] at hb
    rw [hb]

/-! ## Values -/

namespace Timestamp

/-- A timestamp of a year that can be read, such as any of the years 0 to 9999. -/
def Dated (t : Timestamp) : Prop :=
  isYear t.date.year = true

theorem Dated.of_le {t : Timestamp} (hlow : 0 ≤ t.date.year) (hhigh : t.date.year ≤ 9999) :
    t.Dated := by
  simp only [Dated, isYear, Bool.and_eq_true, decide_eq_true_eq]
  omega

theorem decode_toJson {t : Timestamp} (h : t.Dated) : decode t.toJson = .ok t := by
  simp only [decode, toJson, parse?_render h]

theorem dated_of_decode {j : Json} {t : Timestamp} (h : decode j = .ok t) : t.Dated := by
  cases j with
  | text s =>
      simp only [decode] at h
      split at h <;> cases h
      exact isYear_of_parse? ‹_›
  | null | bool | int | float | array | object => cases h

theorem optional_decode {o : Option Timestamp} (h : ∀ t ∈ o, t.Dated) :
    Decoder.optional decode (.ofOption toJson o) = .ok o := by
  cases o with
  | none => rfl
  | some t => exact congrArg (Except.map some) (decode_toJson (h t rfl))

end Timestamp

theorem Span.optional_decode (o : Option Span) :
    Decoder.optional decode (.ofOption toJson o) = .ok o :=
  Decoder.optional_ofOption decode_toJson toJson_ne_null o

namespace TaskStatus

theorem decode_toJson (s : TaskStatus) : decode s.toJson = .ok s := by
  cases s <;> rfl

theorem optional_decode (o : Option TaskStatus) :
    Decoder.optional decode (.ofOption toJson o) = .ok o :=
  Decoder.optional_ofOption decode_toJson (fun _ => nofun) o

end TaskStatus

theorem Decoder.optional_text (o : Option String) :
    optional text (.ofOption .text o) = .ok o := by
  have hread (s : String) : text (.text s) = .ok s := rfl
  exact optional_ofOption hread (fun _ => nofun) o

/-! ## Entities -/

theorem Queue.decode_toJson (q : Queue) : decode q.toJson = .ok q := by
  have hns : Decoder.text (.text q.ns) = .ok q.ns := rfl
  have hqueue : Decoder.text (.text q.queue) = .ok q.queue := rfl
  refine (((((Decoder.Fields.Reads.nothing ?_).field ?_ hns).field ?_ hqueue).optionalField ?_
    (Span.optional_decode q.ttl)).field ?_ (Decoder.int32_int q.retries)).field ?_
    (Span.decode_toJson q.retryDelay) |>.record <;> simp

namespace Task

/-- A task all of whose timestamps have years that can be read. -/
structure Dated (t : Task) : Prop where
  createdAt : t.createdAt.Dated
  delayedAt : ∀ ts ∈ t.delayedAt, ts.Dated
  startedAt : ∀ ts ∈ t.startedAt, ts.Dated
  finishedAt : ∀ ts ∈ t.finishedAt, ts.Dated
  diesAt : ∀ ts ∈ t.diesAt, ts.Dated

theorem decode_toJson {t : Task} (h : t.Dated) : decode t.toJson = .ok t := by
  have hns : Decoder.text (.text t.ns) = .ok t.ns := rfl
  have hqueue : Decoder.text (.text t.queue) = .ok t.queue := rfl
  have hpayload : Decoder.any t.payload = .ok t.payload := rfl
  have hresult : Decoder.any t.result = .ok t.result := rfl
  refine ((((((((((((((Decoder.Fields.Reads.nothing ?_).field ?_
    (Decoder.int64_int t.id)).field ?_ hns).field ?_ hqueue).field ?_ hpayload).field ?_
    hresult).optionalField ?_ (Decoder.optional_text t.worker)).field ?_
    (Timestamp.decode_toJson h.createdAt)).optionalField ?_
    (Timestamp.optional_decode h.delayedAt)).optionalField ?_
    (Timestamp.optional_decode h.startedAt)).optionalField ?_
    (Timestamp.optional_decode h.finishedAt)).optionalField ?_
    (Timestamp.optional_decode h.diesAt)).field ?_ (Decoder.int32_int t.retries)).field ?_
    (Decoder.int32_int t.initialRetries)).field ?_ (TaskStatus.decode_toJson t.status)
    |>.record <;> simp

theorem dated_of_decode {j : Json} {t : Task} (h : decode j = .ok t) : t.Dated := by
  have hany {α : Type} {decode : Decoder α} (j : Json) (a : α) (_ : decode j = .ok a) : True :=
    trivial
  have hdated (j : Json) (ts : Timestamp) (h : Timestamp.decode j = .ok ts) : ts.Dated :=
    Timestamp.dated_of_decode h
  refine Decoder.Fields.Makes.record ((((((((((((((Decoder.Fields.Makes.nothing ?_).field
    hany).field hany).field hany).field hany).field hany).optionalField hany).field
    hdated).optionalField hdated).optionalField hdated).optionalField hdated).optionalField
    hdated).field hany).field hany |>.field hany) h
  intro _ _ _ _ _ _ _ _ _ _ _ _ createdAt hcreated delayedAt hdelayed startedAt hstarted
    finishedAt hfinished diesAt hdies _ _ _ _ _ _
  exact ⟨hcreated, hdelayed, hstarted, hfinished, hdies⟩

end Task

namespace TaskDraft

def Dated (d : TaskDraft) : Prop :=
  ∀ ts ∈ d.delayedAt, ts.Dated

theorem decode_toJson {d : TaskDraft} (h : d.Dated) : decode d.toJson = .ok d := by
  have hpayload : Decoder.any d.payload = .ok d.payload := rfl
  refine ((Decoder.Fields.Reads.nothing ?_).field ?_ hpayload).optionalField ?_
    (Timestamp.optional_decode h) |>.record <;> simp

theorem dated_of_decode {j : Json} {d : TaskDraft} (h : decode j = .ok d) : d.Dated := by
  refine Decoder.Fields.Makes.record (((Decoder.Fields.Makes.nothing ?_).field
    fun _ _ _ => trivial).optionalField fun _ _ => Timestamp.dated_of_decode) h
  exact fun _ _ _ hdelayed => hdelayed

end TaskDraft

theorem QueueCount.decode_toJson (c : QueueCount) : decode c.toJson = .ok c := by
  have hqueue : Decoder.text (.text c.queue) = .ok c.queue := rfl
  refine (((Decoder.Fields.Reads.nothing ?_).field ?_ hqueue).field ?_
    (TaskStatus.decode_toJson c.status)).field ?_ (Decoder.int64_int c.count) |>.record <;> simp

namespace Ticker

def Dated (t : Ticker) : Prop :=
  ∀ ts ∈ t.ts, ts.Dated

theorem decode_toJson {t : Ticker} (h : t.Dated) : decode t.toJson = .ok t := by
  have hns : Decoder.text (.text t.ns) = .ok t.ns := rfl
  have hticker : Decoder.text (.text t.ticker) = .ok t.ticker := rfl
  refine ((((Decoder.Fields.Reads.nothing ?_).field ?_ hns).field ?_ hticker).optionalField ?_
    (Span.optional_decode t.interval)).optionalField ?_ (Timestamp.optional_decode h)
    |>.record <;> simp

theorem dated_of_decode {j : Json} {t : Ticker} (h : decode j = .ok t) : t.Dated := by
  have hany {α : Type} {decode : Decoder α} (j : Json) (a : α) (_ : decode j = .ok a) : True :=
    trivial
  refine Decoder.Fields.Makes.record (((((Decoder.Fields.Makes.nothing ?_).field hany).field
    hany).optionalField hany).optionalField fun _ _ => Timestamp.dated_of_decode) h
  exact fun _ _ _ _ _ _ _ hts => hts

end Ticker

theorem TickerPatch.decode_toJson (p : TickerPatch) : decode p.toJson = .ok p := by
  have hticker : Decoder.text (.text p.ticker) = .ok p.ticker := rfl
  refine ((Decoder.Fields.Reads.nothing ?_).field ?_ hticker).optionalField ?_
    (Span.optional_decode p.interval) |>.record <;> simp

theorem Page.fields_reads (p : Page) {written : List (String × Json)}
    (hdistinct : (written.map Prod.fst).Nodup) (hoffset : ("offset", .int p.offset.toNat) ∈ written)
    (hlimit : ("limit", .int p.limit.toNat) ∈ written) : fields.Reads written p :=
  (Decoder.Fields.Reads.nothing hdistinct).field hoffset (Decoder.uint64_int p.offset)
    |>.field hlimit (Decoder.uint64_int p.limit)

theorem Page.decode_toJson (p : Page) : decode p.toJson = .ok p :=
  (p.fields_reads (by simp) (by simp) (by simp)).record

theorem TaskPage.decode_toJson (p : TaskPage) : decode p.toJson = .ok p := by
  refine (p.page.fields_reads ?_ ?_ ?_).recordAround
    ((Decoder.Fields.Reads.nothing ?_).optionalField ?_ (TaskStatus.optional_decode p.status)) <;>
    simp

/-- Every entity whose timestamps have years that can be read is read back from what is written for
it; whatever was read has such timestamps only, so it is read back as well, and what is written for
it the second time is what was written the first time. -/
theorem entities_survive :
    Survives Queue.toJson Queue.decode (fun _ => True) ∧
      Survives Task.toJson Task.decode Task.Dated ∧
      Survives TaskDraft.toJson TaskDraft.decode TaskDraft.Dated ∧
      Survives Ticker.toJson Ticker.decode Ticker.Dated ∧
      Survives TickerPatch.toJson TickerPatch.decode (fun _ => True) ∧
      Survives QueueCount.toJson QueueCount.decode (fun _ => True) ∧
      Survives Page.toJson Page.decode (fun _ => True) ∧
      Survives TaskPage.toJson TaskPage.decode (fun _ => True) :=
  have hany {α : Type} {decode : Decoder α} (j : Json) (a : α) (_ : decode j = .ok a) : True :=
    trivial
  ⟨.of_valid (fun q _ => q.decode_toJson) hany,
    .of_valid (fun _ => Task.decode_toJson) fun _ _ => Task.dated_of_decode,
    .of_valid (fun _ => TaskDraft.decode_toJson) fun _ _ => TaskDraft.dated_of_decode,
    .of_valid (fun _ => Ticker.decode_toJson) fun _ _ => Ticker.dated_of_decode,
    .of_valid (fun p _ => p.decode_toJson) hany,
    .of_valid (fun c _ => c.decode_toJson) hany,
    .of_valid (fun p _ => p.decode_toJson) hany,
    .of_valid (fun p _ => p.decode_toJson) hany⟩

theorem blank_task_survives :
    Task.decode (Task.toJson (.blank ⟨⟨2024, 2, 29, by decide, by decide⟩, 3661, 120450789,
        by decide, by decide⟩)) =
      .ok (.blank ⟨⟨2024, 2, 29, by decide, by decide⟩, 3661, 120450789, by decide, by decide⟩) :=
  entities_survive.2.1.reads _ ⟨.of_le (by decide) (by decide), nofun, nofun, nofun, nofun⟩

end TaskQueue
