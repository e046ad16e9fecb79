import Mathlib.Data.List.TakeDrop
import TaskQueue.Proofs.Database.Conversation
import TaskQueue.Proofs.Database.Exchange
import TaskQueue.Proofs.Name.Normal
import TaskQueue.Manager.Tickers

/-!
# Names of cleanup tickers

The name of a cleanup ticker is a namespace and a queue with a point between them. It is read at its
first point, so it is read as what it was made of as long as there is no point in the namespace, and
only a name that was made so is read at all. No name in normal form has a point. So the tickers of a
namespace are told from all others by what their names begin with: the namespace and a point.
-/

namespace TaskQueue

namespace CleanupTicker

variable {ns queue a b c d s : String}

theorem toList_name : (name ns queue).toList = ns.toList ++ '.' :: queue.toList := by
  simp [name]

/-- A text is read as a namespace and a queue if and only if it is the name made of them, neither is
empty, and there is no point in the namespace. -/
theorem parse?_eq_some_iff :
    parse? s = some (a, b) ↔ s = name a b ∧ '.' ∉ a.toList ∧ a ≠ "" ∧ b ≠ "" := by
  constructor
  · intro h
    have hsplit := List.takeWhile_append_dropWhile (p := (· ≠ '.')) (l := s.toList)
    simp only [parse?, List.span_eq_takeWhile_dropWhile] at h
    cases hrest : s.toList.dropWhile (· ≠ '.') with
    | nil => rw [hrest] at h; cases h
    | cons point rest =>
        have hpoint : point = '.' := by
          have hhead := List.head?_dropWhile_not (· ≠ '.') s.toList
          rw [hrest] at hhead
          simpa using hhead
        rw [hrest] at h hsplit
        simp only [Option.ite_none_left_eq_some, Bool.or_eq_true, List.isEmpty_iff, not_or,
          Option.some.injEq, Prod.mk.injEq] at h
        obtain ⟨⟨hns, hqueue⟩, rfl, rfl⟩ := h
        refine ⟨?_, ?_, ?_, ?_⟩
        · rw [← String.toList_inj, toList_name, String.toList_ofList, String.toList_ofList]
          exact hpoint ▸ hsplit.symm
        · rw [String.toList_ofList]
          exact fun hmem => absurd (List.mem_takeWhile_imp hmem) (by simp)
        · rwa [ne_eq, String.ofList_eq_empty_iff]
        · rwa [ne_eq, String.ofList_eq_empty_iff]
  · rintro ⟨rfl, hpoint, ha, hb⟩
    have hkept : ∀ c ∈ a.toList, decide (c ≠ '.') = true := fun c hc =>
      decide_eq_true fun heq => hpoint (heq ▸ hc)
    rw [parse?, toList_name, List.span_eq_takeWhile_dropWhile, List.takeWhile_append_of_pos hkept,
      List.dropWhile_append_of_pos hkept]
    simp [ha, hb]

example : parse? "mail.old.letters" = some ("mail", "old.letters") := by decide

theorem parse?_name (hns : '.' ∉ ns.toList) (hne : ns ≠ "") (hqueue : queue ≠ "") :
    parse? (name ns queue) = some (ns, queue) :=
  parse?_eq_some_iff.mpr ⟨rfl, hns, hne, hqueue⟩

theorem not_mem_of_isNormal (h : Name.IsNormal a) : '.' ∉ a.toList := by
  intro hmem
  have hrest := Name.isIdentifierRest_of_mem (Name.isNormal_iff.mp h).1 hmem
  exact absurd hrest (by decide)

theorem ne_empty_of_isNormal (h : Name.IsNormal a) : a ≠ "" := by
  rintro rfl
  obtain ⟨c, cs, hcons, -⟩ := h
  cases hcons

theorem parse?_name_of_isNormal (hns : Name.IsNormal ns) (hqueue : Name.IsNormal queue) :
    parse? (name ns queue) = some (ns, queue) :=
  parse?_name (not_mem_of_isNormal hns) (ne_empty_of_isNormal hns) (ne_empty_of_isNormal hqueue)

/-- A text that is the name of the cleanup ticker of a queue, for names in normal form. -/
def NamesQueue (s : String) : Prop :=
  ∃ ns queue, Name.IsNormal ns ∧ Name.IsNormal queue ∧ s = name ns queue

/-- What begins with a namespace and a point is of that namespace, whatever the namespace: there is
one point only in a name that is made of names in normal form. -/
theorem isPrefixOf_iff (h : NamesQueue s) :
    (name ns "").isPrefixOf s = true ↔ (parse? s).map Prod.fst = some ns := by
  obtain ⟨a, b, ha, hb, rfl⟩ := h
  have hpoint := not_mem_of_isNormal ha
  rw [parse?_name_of_isNormal ha hb, String.isPrefixOf, String.startsWith_string_iff, toList_name,
    toList_name]
  simp only [String.toList_empty, Option.map_some, Option.some.injEq]
  constructor
  · rintro ⟨rest, hrest⟩
    have hsame : a.toList ++ '.' :: b.toList = ns.toList ++ '.' :: rest := by simpa using hrest.symm
    have hinj := (List.append_cons_inj_of_notMem hpoint (not_mem_of_isNormal hb)).mp hsame
    exact String.toList_inj.mp hinj.1
  · rintro rfl
    exact ⟨b.toList, by simp⟩

end CleanupTicker

namespace Manager

variable {m : Manager}

/-- The tickers of a listing that are named after queues of a namespace. -/
def ownTickers (ns : String) (all : Listing Ticker) : Listing Ticker :=
  let body := all.body.filter fun t => (CleanupTicker.name ns "").isPrefixOf t.ticker
  { count := UInt64.ofNat body.length, body }

theorem cleanupTickers_eq :
    m.cleanupTickers = ownTickers m.ns <$> m.cleanup.listTickers everything := by
  rw [map_eq_pure_bind]
  rfl

theorem body_ownTickers {ns : String} {all : Listing Ticker}
    (h : ∀ t ∈ all.body, CleanupTicker.NamesQueue t.ticker) :
    (ownTickers ns all).body =
      all.body.filter fun t => (CleanupTicker.parse? t.ticker).map Prod.fst = some ns := by
  refine List.filter_congr fun t ht => ?_
  rw [Bool.eq_iff_iff, decide_eq_true_eq]
  exact CleanupTicker.isPrefixOf_iff (h t ht)

/-- The name of a cleanup ticker is read as what it was made of, and a name that is read was made of
what it is read as; so two queues of names in normal form never share a ticker. Of the tickers that
the database lists, if all of them are named so, a manager shows those of its own namespace, in
order, and counts them. -/
theorem cleanup_names_decode {σ : Type} (m : Manager) (server : Dialogue.Server σ) (s : σ) :
    (∀ ns queue : String, '.' ∉ ns.toList → ns ≠ "" → queue ≠ "" →
      CleanupTicker.parse? (CleanupTicker.name ns queue) = some (ns, queue)) ∧
    (∀ text a b, CleanupTicker.parse? text = some (a, b) → CleanupTicker.name a b = text) ∧
    (∀ a b c d, Name.IsNormal a → Name.IsNormal b → Name.IsNormal c → Name.IsNormal d →
      CleanupTicker.name a b = CleanupTicker.name c d → a = c ∧ b = d) ∧
    let all := (m.cleanup.listTickers everything).run.run server s
    let own := m.cleanupTickers.run.run server s
    own.log = all.log ∧
    (∀ e, all.result = .error e → own.result = .error e) ∧
    ∀ listing, all.result = .ok listing →
      (∀ t ∈ listing.body, CleanupTicker.NamesQueue t.ticker) →
      ∃ kept, own.result = .ok kept ∧
        kept.body = listing.body.filter
          (fun t => (CleanupTicker.parse? t.ticker).map Prod.fst = some m.ns) ∧
        kept.count = UInt64.ofNat kept.body.length := by
  refine ⟨fun _ _ => CleanupTicker.parse?_name, fun text a b h => ?_,
    fun a b c d ha hb hc hd h => ?_, ?_, fun e he => ?_, fun listing hlisting hnames => ?_⟩
  · exact (CleanupTicker.parse?_eq_some_iff.mp h).1.symm
  · have hread := CleanupTicker.parse?_name_of_isNormal ha hb
    rw [h, CleanupTicker.parse?_name_of_isNormal hc hd] at hread
    cases hread
    exact ⟨rfl, rfl⟩
  · rw [cleanupTickers_eq, ExceptT.run_map, Dialogue.log_map]
  · rw [cleanupTickers_eq, ExceptT.run_map, Dialogue.run_map, he]
    rfl
  · refine ⟨ownTickers m.ns listing, ?_, body_ownTickers hnames, rfl⟩
    rw [cleanupTickers_eq, ExceptT.run_map, Dialogue.run_map, hlisting]
    rfl

end Manager

end TaskQueue
