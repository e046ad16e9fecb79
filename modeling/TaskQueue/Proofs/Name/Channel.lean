import Mathlib.Data.String.Basic
import TaskQueue.Name

/-!
# Names of channels

The channel on which the insertions of a namespace are announced is named by an identifier of the
database, which has 63 bytes at most. A namespace may have as many characters, and the name of its
channel has thirteen more.
-/

namespace TaskQueue

theorem utf8ByteSize_eq_length {s : String} (h : ∀ c ∈ s.toList, c.val ≤ 127) :
    s.utf8ByteSize = s.length := by
  rw [← String.ofList_toList (s := s), String.utf8ByteSize_ofList, String.length_ofList]
  generalize s.toList = cs at h
  induction cs with
  | nil => rfl
  | cons c cs ih =>
      obtain ⟨hc, hcs⟩ := List.forall_mem_cons.mp h
      simp [ih hcs, Char.utf8Size_eq_one_iff.mpr hc]

namespace Name

variable {kind name n : String} {cs : List Char} {c : Char}

/-! ## Identifiers -/

theorem isIdentifierRest_of_isAlpha (h : c.isAlpha = true) : isIdentifierRest c = true := by
  simp [isIdentifierRest, Char.isAlphanum, h]

theorem val_le_of_isIdentifierRest (h : isIdentifierRest c = true) : c.val ≤ 127 := by
  delta isIdentifierRest Char.isAlphanum Char.isAlpha Char.isUpper Char.isLower Char.isDigit at h
  simp only [Bool.or_eq_true, Bool.and_eq_true, decide_eq_true_eq] at h
  rcases h with ((⟨-, h⟩ | ⟨-, h⟩) | ⟨-, h⟩) | rfl
  · exact UInt32.le_trans h (by decide)
  · exact UInt32.le_trans h (by decide)
  · exact UInt32.le_trans h (by decide)
  · decide

theorem bounds_of_isIdentifier (h : isIdentifier cs = true) :
    cs.length ≤ maxLength ∧ ∀ c ∈ cs, c.val ≤ 127 := by
  cases cs with
  | nil => cases h
  | cons c cs =>
      simp only [isIdentifier, Bool.and_eq_true, decide_eq_true_eq, List.all_eq_true] at h
      obtain ⟨⟨hfirst, hlength⟩, hrest⟩ := h
      refine ⟨hlength, List.forall_mem_cons.mpr ⟨?_, fun c hc => ?_⟩⟩
      · exact val_le_of_isIdentifierRest (isIdentifierRest_of_isAlpha hfirst)
      · exact val_le_of_isIdentifierRest (hrest c hc)

theorem isIdentifier_of_normalize (h : normalize kind name = .ok n) : isIdentifier n.toList = true := by
  simp only [normalize] at h
  split at h
  · cases h
  · split at h <;> cases h
    simpa using ‹_›

theorem normalize_of_validate (h : validate kind name = .ok n) :
    normalize kind name = .ok n ∧ n ∉ reserved := by
  unfold validate at h
  cases hn : normalize kind name with
  | error e => rw [hn] at h; cases h
  | ok n' =>
      rw [hn] at h
      simp only [bind, Except.bind] at h
      split at h <;> cases h
      exact ⟨rfl, ‹_›⟩

end Name

/-! ## Channels -/

/-- Whether a text can be the name of a channel: the database refuses to announce anything on one
that has no name, or a name that is longer than an identifier may be. -/
def IsChannel (channel : String) : Prop :=
  channel ≠ "" ∧ channel.utf8ByteSize ≤ 63

instance (channel : String) : Decidable (IsChannel channel) :=
  inferInstanceAs (Decidable (_ ∧ _))

variable {kind name ns : String}

theorem utf8ByteSize_insertChannel : (insertChannel ns).utf8ByteSize = ns.utf8ByteSize + 13 := by
  have hsuffix : "_".utf8ByteSize + insertTopic.utf8ByteSize = 13 := by decide +kernel
  rw [insertChannel, String.utf8ByteSize_append, String.utf8ByteSize_append, Nat.add_assoc, hsuffix]

/-- A namespace that is accepted has 63 characters at most; its insertions can be announced if and
only if it has 50 at most. -/
theorem isChannel_insertChannel_iff (h : Name.validate kind name = .ok ns) :
    ns.length ≤ Name.maxLength ∧ (IsChannel (insertChannel ns) ↔ ns.length ≤ 50) := by
  obtain ⟨hlength, hascii⟩ := Name.bounds_of_isIdentifier
    (Name.isIdentifier_of_normalize (Name.normalize_of_validate h).1)
  have hbytes : (insertChannel ns).utf8ByteSize = ns.length + 13 := by
    rw [utf8ByteSize_insertChannel, utf8ByteSize_eq_length hascii]
  have hne : insertChannel ns ≠ "" := by
    intro hempty
    rw [hempty] at hbytes
    exact absurd hbytes (by simp)
  refine ⟨String.length_toList ▸ hlength, ?_⟩
  unfold IsChannel
  rw [hbytes]
  simp only [ne_eq, hne, not_false_eq_true, true_and]
  omega

theorem isChannel_insertChannel_mail :
    Name.validate "namespace" "Mail" = .ok "mail" ∧ IsChannel (insertChannel "mail") := by
  have hmail : Name.validate "namespace" "Mail" = .ok "mail" := by decide +kernel
  exact ⟨hmail, (isChannel_insertChannel_iff hmail).2.mpr (by decide)⟩

/-- A namespace of 51 characters is accepted, and nothing can be announced in it. -/
theorem long_namespace_unannounced :
    Name.validate "namespace" "aaaaaaaaaabbbbbbbbbbccccccccccddddddddddeeeeeeeeeef" =
        .ok "aaaaaaaaaabbbbbbbbbbccccccccccddddddddddeeeeeeeeeef" ∧
      ¬ IsChannel (insertChannel "aaaaaaaaaabbbbbbbbbbccccccccccddddddddddeeeeeeeeeef") := by
  decide +kernel

end TaskQueue
