import TaskQueue.Database.Dialogue
import TaskQueue.Proofs.Migration.Pattern

/-!
# How the server reads a statement

The server reads a text character by character. Quotes are heeded outside bodies only: a body begins
with a delimiter outside quotes, and ends at the next delimiter whatever stands before it. The name
of a schema comes as the server quotes it: a plain name is read as it is, and of any other name
nothing is read outside quotes.
-/

namespace TaskQueue.Migration

/-- What stands before and after the body of a function. -/
def delimiter : List Char := ['$', '$']

theorem delimiter_ne_nil : delimiter ≠ [] := by
  simp [delimiter]

/-- Where in a text the server is. -/
inductive Place where
  /-- Outside quotes and bodies, perhaps after the first half of a delimiter. -/
  | bare (half : Bool)
  | quoted (mark : Char)
  /-- In a body that was read so far. -/
  | body (done : List Char)
deriving Repr, DecidableEq

namespace Place

def start : Place := bare false

/-- A quote that is doubled closes and opens again. -/
def next : Place → Char → Place
  | bare half, c =>
    if c = '\'' ∨ c = '"' then quoted c
    else if c = '$' then if half then body [] else bare true
    else bare false
  | quoted mark, c => if c = mark then bare false else quoted mark
  | body done, c =>
    if c = '$' ∧ done.getLast? = some '$' then bare false else body (done ++ [c])

/-- The character, when it is read outside quotes and bodies. -/
def bare? : Place → Char → Option Char
  | bare _, c => if c = '\'' ∨ c = '"' then none else some c
  | _, _ => none

/-- The body that ends with a character. -/
def body? : Place → Char → Option (List Char)
  | body done, c => if c = '$' ∧ done.getLast? = some '$' then some done.dropLast else none
  | _, _ => none

/-- What the characters of a text say, each in its place. -/
def gather {α : Type} (f : Place → Char → Option α) : Place → List Char → List α
  | _, [] => []
  | p, c :: cs => (f p c).toList ++ gather f (p.next c) cs

end Place

open Place

/-- What is read of a text outside quotes and bodies. -/
def bare (text : List Char) : List Char := gather bare? start text

def bodies (text : List Char) : List (List Char) := gather body? start text

/-- A text after which the server is where it began. -/
def Closed (text : List Char) : Prop := text.foldl next start = start

variable {α : Type} {f : Place → Char → Option α} {p : Place} {n a b t x y done rest : List Char}
  {xs : List (List Char)} {schema : String}

instance : Decidable (Closed t) := inferInstanceAs (Decidable (_ = _))

theorem gather_append : gather f p (a ++ b) = gather f p a ++ gather f (a.foldl next p) b := by
  induction a generalizing p with
  | nil => rfl
  | cons c cs ih => rw [List.cons_append, gather, ih, gather, List.foldl_cons, List.append_assoc]

theorem gather_append_closed (h : Closed a) :
    gather f start (a ++ b) = gather f start a ++ gather f start b := by
  rw [gather_append, show a.foldl next start = start from h]

theorem closed_append (h : Closed a) : Closed (a ++ b) ↔ Closed b := by
  rw [Closed, List.foldl_append, show a.foldl next start = start from h, Closed]

theorem gather_intercalate (hn : Closed n) (hxs : ∀ x ∈ xs.dropLast, Closed x) :
    gather f start (n.intercalate xs) =
      (gather f start n).intercalate (xs.map (gather f start)) := by
  induction xs with
  | nil => rfl
  | cons x xs ih =>
      cases xs with
      | nil => simp
      | cons y ys =>
          obtain ⟨hx, hys⟩ := List.forall_mem_cons.mp hxs
          rw [List.intercalate_cons_cons, List.append_assoc, gather_append_closed hx,
            gather_append_closed hn, ih hys]
          simp only [List.map_cons, List.intercalate_cons_cons, List.append_assoc]

theorem closed_intercalate (hn : Closed n) (hxs : ∀ x ∈ xs.dropLast, Closed x) :
    Closed (n.intercalate xs) ↔ ∀ x ∈ xs.getLast?, Closed x := by
  induction xs with
  | nil => simp [Closed]
  | cons x xs ih =>
      cases xs with
      | nil => simp
      | cons y ys =>
          obtain ⟨hx, hys⟩ := List.forall_mem_cons.mp hxs
          rw [List.intercalate_cons_cons, List.append_assoc, closed_append hx, closed_append hn,
            ih hys, List.getLast?_cons_cons]

/-! ## Bodies -/

/-- A text that is read in its place outside bodies. -/
structure Outer (text : List Char) : Prop where
  closed : Closed text
  bodies : bodies text = []

/-- A text that can be the body of a function: the end of its last line is its end. -/
structure IsBody (text : List Char) : Prop where
  delimiters : occurrences delimiter text = 0
  ends : text.getLast? = some '\n'

instance : Decidable (Outer t) :=
  decidable_of_iff (Closed t ∧ bodies t = []) ⟨fun h => ⟨h.1, h.2⟩, fun h => ⟨h.closed, h.bodies⟩⟩

instance : Decidable (IsBody t) :=
  decidable_of_iff (occurrences delimiter t = 0 ∧ t.getLast? = some '\n')
    ⟨fun h => ⟨h.1, h.2⟩, fun h => ⟨h.delimiters, h.ends⟩⟩

/-- The parts of a text between delimiters, when every other part is a body. -/
def Alternate : List (List Char) → Prop
  | [] => False
  | [x] => Outer x
  | x :: y :: xs => Outer x ∧ IsBody y ∧ Alternate xs

instance decidableAlternate : ∀ xs, Decidable (Alternate xs)
  | [] => inferInstanceAs (Decidable False)
  | [x] => inferInstanceAs (Decidable (Outer x))
  | x :: y :: xs =>
    have := decidableAlternate xs
    inferInstanceAs (Decidable (Outer x ∧ IsBody y ∧ Alternate xs))

/-- The second member of a list, the fourth and so on. -/
def everyOther : List (List Char) → List (List Char)
  | _ :: y :: xs => y :: everyOther xs
  | _ => []

theorem everyOther_subset : everyOther xs ⊆ xs := by
  induction xs using everyOther.induct with
  | case1 x y xs ih =>
      exact List.Subset.trans (List.cons_subset_cons y ih) (List.subset_cons_self x (y :: xs))
  | case2 => simp [everyOther]

theorem everyOther_map (g : List Char → List Char) :
    ∀ xs : List (List Char), everyOther (xs.map g) = (everyOther xs).map g
  | [] => rfl
  | [_] => rfl
  | _ :: y :: xs => congrArg (g y :: ·) (everyOther_map g xs)

theorem Alternate.ne_nil (h : Alternate xs) : xs ≠ [] := by
  rintro rfl
  exact h

/-- In a body nothing is heeded but a delimiter. -/
theorem body_append (y done : List Char) (h : occurrences delimiter (done ++ y) = 0) :
    y.foldl next (body done) = body (done ++ y) ∧ gather bare? (body done) y = [] ∧
      gather body? (body done) y = [] := by
  induction y generalizing done with
  | nil => simp [gather]
  | cons c cs ih =>
      -- A character that ends the body makes a delimiter with the one before it.
      have hc : ¬ (c = '$' ∧ done.getLast? = some '$') := by
        rintro ⟨rfl, hlast⟩
        obtain ⟨done, rfl⟩ := List.getLast?_eq_some_iff.mp hlast
        exact (occurrences_eq_zero_iff delimiter_ne_nil).mp h ⟨done, cs, by simp [delimiter]⟩
      obtain ⟨hplace, hbare, hbodies⟩ := ih (done ++ [c]) (by simpa using h)
      refine ⟨?_, ?_, ?_⟩
      · rw [List.foldl_cons, next, if_neg hc, hplace, List.append_assoc, List.singleton_append]
      · rw [gather, next, if_neg hc, hbare]
        rfl
      · rw [gather, next, if_neg hc, hbodies, body?, if_neg hc]
        rfl

/-- A body between two delimiters is read as a whole. -/
theorem gather_body (hx : Closed x) (hy : IsBody y) :
    bare (x ++ delimiter ++ y ++ delimiter ++ rest) = bare x ++ delimiter ++ bare rest ∧
      bodies (x ++ delimiter ++ y ++ delimiter ++ rest) = bodies x ++ y :: bodies rest := by
  obtain ⟨hplace, hbare, hbodies⟩ := body_append y [] hy.delimiters
  have hopen : delimiter.foldl next start = body [] := rfl
  have hlast : y.getLast? ≠ some '$' := by simp [hy.ends]
  have hclose : delimiter.foldl next (body y) = start := by
    simp [delimiter, next, hlast, start]
  simp only [bare, bodies, List.append_assoc, gather_append_closed hx]
  simp only [gather_append, hopen, hplace, List.nil_append, hclose, hbare, hbodies]
  exact ⟨by simp [delimiter, gather, bare?, next, start, hlast],
    by simp [delimiter, gather, body?, next, start, hlast]⟩

theorem intercalate_body (h : xs ≠ []) : delimiter.intercalate (x :: y :: xs) =
    x ++ delimiter ++ y ++ delimiter ++ delimiter.intercalate xs := by
  rw [List.intercalate_cons_cons, List.intercalate_cons_of_ne_nil h]
  simp only [List.append_assoc]

theorem bodies_intercalate (h : Alternate xs) :
    bodies (delimiter.intercalate xs) = everyOther xs := by
  induction xs using Alternate.induct with
  | case1 => contradiction
  | case2 x => simpa [everyOther] using Outer.bodies h
  | case3 x y xs ih =>
      obtain ⟨hx, hy, hxs⟩ := h
      rw [intercalate_body hxs.ne_nil, (gather_body hx.closed hy).2, ih hxs, hx.bodies,
        everyOther, List.nil_append]

/-- There is no delimiter in the body that is being read. -/
def Place.Unended : Place → Prop
  | body done => occurrences delimiter done = 0
  | _ => True

theorem Place.Unended.next {c : Char} (h : p.Unended) :
    (p.next c).Unended ∧ ∀ y ∈ p.body? c, occurrences delimiter y = 0 := by
  cases p with
  | bare half =>
      refine ⟨?_, by simp [body?]⟩
      rw [Place.next]
      repeat' split
      all_goals trivial
  | quoted mark =>
      refine ⟨?_, by simp [body?]⟩
      rw [Place.next]
      split <;> trivial
  | body done =>
      have h : occurrences delimiter done = 0 := h
      by_cases hends : c = '$' ∧ done.getLast? = some '$'
      · refine ⟨by simp [Place.next, hends, Unended], fun y hy => ?_⟩
        obtain rfl : done.dropLast = y := by simpa [body?, hends] using hy
        rw [occurrences_eq_zero_iff delimiter_ne_nil] at h ⊢
        exact fun happears =>
          h (happears.trans (List.IsPrefix.isInfix done.dropLast_prefix))
      · have hapart : Apart delimiter done [c] :=
          apart_of_not_adjacent fun l hl r hr hadjacent => hends (by
            obtain ⟨rfl, rfl⟩ : l = '$' ∧ r = '$' := by
              simpa [delimiter, List.infix_cons_iff] using hadjacent
            simpa using And.intro hr hl)
        refine ⟨?_, by simp [body?, hends]⟩
        rw [Place.next, if_neg hends, Unended, occurrences_append hapart, h,
          occurrences_of_length_lt (by simp [delimiter])]

/-- No body has a delimiter in it. -/
theorem occurrences_of_mem_bodies : ∀ y ∈ bodies t, occurrences delimiter y = 0 := by
  have hfrom (p : Place) (hp : p.Unended) :
      ∀ y ∈ gather body? p t, occurrences delimiter y = 0 := by
    induction t generalizing p with
    | nil => simp [gather]
    | cons c cs ih =>
        obtain ⟨hnext, hbody⟩ := hp.next (c := c)
        intro y hy
        rw [gather, List.mem_append, Option.mem_toList] at hy
        exact hy.elim (hbody y) (ih _ hnext y)
  exact hfrom start trivial

/-! ## Names -/

/-- A name that needs no quotes. -/
def IsPlain (name : List Char) : Prop :=
  ∃ c cs, name = c :: cs ∧ (c.isLower = true ∨ c = '_') ∧
    ∀ d ∈ cs, d.isLower = true ∨ d.isDigit = true ∨ d = '_'

/-- A name as the server quotes it. -/
inductive IsQuoted : String → Prop
  | plain {name : String} (h : IsPlain name.toList) : IsQuoted name
  | quoted {name : String} (h : name ≠ "") : IsQuoted (Request.identifier name)

/-- What is read of a text that is nothing but words. -/
theorem outer_of_word (h : ∀ c ∈ t, ¬ (c = '\'' ∨ c = '"') ∧ c ≠ '$') :
    Outer t ∧ bare t = t := by
  induction t with
  | nil => exact ⟨⟨rfl, rfl⟩, rfl⟩
  | cons c cs ih =>
      obtain ⟨⟨hquote, hdelimiter⟩, hcs⟩ := List.forall_mem_cons.mp h
      obtain ⟨⟨hclosed, hbodies⟩, hbare⟩ := ih hcs
      have hnext : start.next c = start := by
        rw [start, next, if_neg hquote, if_neg hdelimiter]
      refine ⟨⟨?_, ?_⟩, ?_⟩
      · rw [Closed, List.foldl_cons, hnext, hclosed]
      · rw [bodies, gather, hnext, ← bodies, hbodies]
        rfl
      · rw [bare, gather, hnext, ← bare, hbare, start, bare?, if_neg hquote]
        rfl

theorem IsPlain.outer (h : IsPlain n) : Outer n ∧ bare n = n := by
  obtain ⟨c, cs, rfl, hc, hcs⟩ := h
  refine outer_of_word (List.forall_mem_cons.mpr ⟨?_, fun d hd => ?_⟩)
  · refine ⟨?_, ?_⟩
    · rintro (rfl | rfl) <;> exact absurd hc (by decide)
    · rintro rfl
      exact absurd hc (by decide)
  · have hd := hcs d hd
    refine ⟨?_, ?_⟩
    · rintro (rfl | rfl) <;> exact absurd hd (by decide)
    · rintro rfl
      exact absurd hd (by decide)

def doubled (c : Char) : List Char := if c = '"' then ['"', '"'] else [c]

theorem toList_identifier {name : String} :
    (Request.identifier name).toList = '"' :: (name.toList.flatMap doubled ++ ['"']) :=
  String.toList_ofList

/-- Between quotes, a quote that is doubled leaves the quotes open. -/
theorem quoted_doubled (cs : List Char) :
    (cs.flatMap doubled).foldl next (quoted '"') = quoted '"' ∧
      gather bare? (quoted '"') (cs.flatMap doubled) = [] ∧
      gather body? (quoted '"') (cs.flatMap doubled) = [] := by
  induction cs with
  | nil => exact ⟨rfl, rfl, rfl⟩
  | cons c cs ih =>
      have hc : (doubled c).foldl next (quoted '"') = quoted '"' ∧
          gather bare? (quoted '"') (doubled c) = [] ∧
          gather body? (quoted '"') (doubled c) = [] := by
        unfold doubled
        split
        · exact ⟨rfl, rfl, rfl⟩
        · simp [next, gather, bare?, body?, *]
      rw [List.flatMap_cons, List.foldl_append, gather_append, gather_append, hc.1, hc.2.1, hc.2.2]
      exact ih

/-- Of a name between quotes nothing is read outside quotes. -/
theorem outer_identifier {name : String} :
    Outer (Request.identifier name).toList ∧ bare (Request.identifier name).toList = [] := by
  obtain ⟨hplace, hbare, hbodies⟩ := quoted_doubled name.toList
  have hopen : start.next '"' = quoted '"' := rfl
  rw [toList_identifier]
  refine ⟨⟨?_, ?_⟩, ?_⟩
  · rw [Closed, List.foldl_cons, List.foldl_append, hopen, hplace]
    rfl
  · rw [bodies, gather, gather_append, hopen, hplace, hbodies]
    rfl
  · rw [bare, gather, gather_append, hopen, hplace, hbare]
    rfl

theorem IsQuoted.outer (h : IsQuoted schema) :
    Outer schema.toList ∧ (bare schema.toList = [] ∨
      IsPlain schema.toList ∧ bare schema.toList = schema.toList) := by
  cases h with
  | plain h => exact ⟨h.outer.1, .inr ⟨h, h.outer.2⟩⟩
  | quoted h => exact ⟨outer_identifier.1, .inl outer_identifier.2⟩

end TaskQueue.Migration
