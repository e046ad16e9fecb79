import TaskQueue.Entity.Codec
import TaskQueue.Proofs.Json.Record

/-!
# Entities that are read back

A span reads back as it was written. So does a patch of a queue, but for one thing: null stands both
for a time to live that is kept and for one that is removed, and reads as the first.
-/

namespace TaskQueue

namespace Span

variable {d : Span}

theorem secs_lt : d.secs < Nat.pow 2 64 := by
  have hlimit := d.lt_limit
  simp only [secs, nanosPerSecond, Nat.pow_eq] at hlimit ⊢
  omega

theorem subsecNanos_lt : d.subsecNanos < Nat.pow 2 32 := by
  simp only [subsecNanos, nanosPerSecond, Nat.pow_eq]
  omega

theorem ofDecodedParts_parts : ofDecodedParts (d.secs, d.subsecNanos) = .ok d := by
  have hnanos : d.secs * nanosPerSecond + d.subsecNanos = d.nanos := by
    rw [secs, subsecNanos, Nat.div_add_mod']
  have hparts : ofParts? d.secs d.subsecNanos = some d := by
    rw [ofParts?, hnanos, ofNanos?, dif_pos d.lt_limit]
  rw [ofDecodedParts, hparts, Option.elim_some]

theorem parts_reads :
    parts.Reads [("secs", .int d.secs), ("nanos", .int d.subsecNanos)] (d.secs, d.subsecNanos) :=
  (Decoder.Fields.Reads.nothing (by simp)).field (by simp) (Decoder.unsigned_natCast secs_lt)
    |>.field (by simp) (Decoder.unsigned_natCast subsecNanos_lt)

theorem toJson_eq :
    d.toJson = .object [("nanos", .int d.subsecNanos), ("secs", .int d.secs)] := by
  have hlt : "nanos" < "secs" := by decide
  simp [toJson, Json.ofFields, Json.sortFields, Json.insertField, hlt]

theorem decode_toJson (d : Span) : decode d.toJson = .ok d := by
  have htaken := (parts_reads (d := d)).taken (.swap _ _ _)
  have hchecks : parts.checks.lookup "nanos" =
        some (fun j => (Decoder.unsigned 32 j).map fun _ => ()) ∧
      parts.checks.lookup "secs" = some (fun j => (Decoder.unsigned 64 j).map fun _ => ()) :=
    ⟨rfl, rfl⟩
  -- an object with other fields is no span, so every field is looked up
  rw [toJson_eq]
  simp only [decode, List.forM, hchecks, Decoder.unsigned_natCast secs_lt,
    Decoder.unsigned_natCast subsecNanos_lt, htaken, Except.map, bind, Except.bind, pure,
    Except.pure]
  exact ofDecodedParts_parts

theorem toJson_ne_null (d : Span) : d.toJson ≠ .null := by
  rw [toJson_eq]
  exact nofun

end Span

namespace Decoder

theorem uint32_int (n : UInt32) : uint32 (.int n.toNat) = .ok n := by
  rw [uint32, unsigned_natCast n.toNat_lt]
  exact congrArg Except.ok UInt32.ofNat_toNat

theorem uint64_int (n : UInt64) : uint64 (.int n.toNat) = .ok n := by
  rw [uint64, unsigned_natCast n.toNat_lt]
  exact congrArg Except.ok UInt64.ofNat_toNat

theorem int32_int (n : Int32) : int32 (.int n.toInt) = .ok n := by
  rw [int32, signed_int n.le_toInt n.toInt_lt]
  exact congrArg Except.ok (Int32.ofInt_toInt n)

theorem int64_int (n : Int64) : int64 (.int n.toInt) = .ok n := by
  rw [int64, signed_int n.le_toInt n.toInt_lt]
  exact congrArg Except.ok (Int64.ofInt_toInt n)

end Decoder

/-! ## Patches of queues -/

namespace TtlPatch

/-- What is read where a patch of a time to live was written. -/
def reread : TtlPatch → TtlPatch
  | keep | remove => keep
  | set ttl => set ttl

def span? : TtlPatch → Option Span
  | keep | remove => none
  | set ttl => some ttl

theorem decode_toJson (t : TtlPatch) : Decoder.optional Span.decode t.toJson = .ok t.span? := by
  cases t with
  | keep | remove => rfl
  | set ttl => exact Decoder.optional_ofOption Span.decode_toJson Span.toJson_ne_null (some ttl)

theorem ofOption_span? (t : TtlPatch) : .ofOption t.span? = t.reread := by
  cases t <;> rfl

theorem reread_eq_self_iff {t : TtlPatch} : t.reread = t ↔ t ≠ .remove := by
  cases t <;> simp [reread]

end TtlPatch

namespace QueuePatch

/-- The patch that is read where one was written. -/
def reread (p : QueuePatch) : QueuePatch :=
  { p with ttl := p.ttl.reread }

theorem decode_toJson (p : QueuePatch) : decode p.toJson = .ok p.reread := by
  have hretries : Decoder.optional .uint32 (.ofOption (fun n => .int n.toNat) p.retries) =
      .ok p.retries :=
    Decoder.optional_ofOption Decoder.uint32_int (fun _ => nofun) p.retries
  have hdelay := Decoder.optional_ofOption Span.decode_toJson Span.toJson_ne_null p.retryDelay
  rw [reread, ← TtlPatch.ofOption_span?]
  have hqueue : Decoder.text (.text p.queue) = .ok p.queue := rfl
  -- the fields as they are read; that each was written once is left to the end
  refine ((((Decoder.Fields.Reads.nothing ?_).field ?_ hqueue).optionalField ?_
    p.ttl.decode_toJson).optionalField ?_ hretries).optionalField ?_ hdelay |>.record <;> simp

/-- A patch that is written is always read. It is read as it was unless it removes the time to
live: then it has become one that keeps it, and one that does nothing if it did nothing else. -/
theorem decode_toJson_eq_iff (p : QueuePatch) :
    decode p.toJson = .ok p.reread ∧ (decode p.toJson = .ok p ↔ p.ttl ≠ .remove) ∧
      (p.reread.isEmpty = p.isEmpty ↔
        p.ttl ≠ .remove ∨ p.retries.isSome = true ∨ p.retryDelay.isSome = true) := by
  have hself : p.reread = p ↔ p.ttl ≠ .remove := by
    rw [← TtlPatch.reread_eq_self_iff]
    exact ⟨fun h => congrArg ttl h, fun h => by rw [reread, h]⟩
  refine ⟨p.decode_toJson, ?_, ?_⟩
  · rw [p.decode_toJson, Except.ok.injEq, hself]
  · obtain ⟨queue, ttl, retries, retryDelay⟩ := p
    cases ttl <;> cases retries <;> cases retryDelay <;>
      simp [reread, TtlPatch.reread, isEmpty]

/-- A patch that does nothing but remove the time to live is read as one that does nothing. -/
theorem removal_unread :
    decode (toJson { queue := "emails", ttl := .remove }) = .ok { queue := "emails", ttl := .keep } ∧
      decode (toJson { queue := "emails", ttl := .remove }) ≠
        .ok { queue := "emails", ttl := .remove } ∧
      isEmpty { queue := "emails", ttl := .remove } = false ∧
      isEmpty { queue := "emails", ttl := .keep } = true := by
  have hread : decode (toJson { queue := "emails", ttl := .remove }) =
      .ok { queue := "emails", ttl := .keep } :=
    decode_toJson { queue := "emails", ttl := .remove }
  refine ⟨hread, ?_, rfl, rfl⟩
  rw [hread]
  simp

end QueuePatch

end TaskQueue
