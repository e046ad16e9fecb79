import TaskQueue.Proofs.Migration.Reading

/-!
# The name of a schema in a statement

The statements of the migrations are templates in which the name of the schema is put, as the server
quotes it. Where quotes are heeded, the name is read as a name and as nothing else. In the body of a
function a delimiter ends the body, whatever quotes are open: so a statement is read as its template
is, with the name in its places, if and only if the name has no delimiter or no body has a place for
it.
-/

namespace TaskQueue.Migration

variable {n t x a b rest : List Char} {xs : List (List Char)} {schema : String}
  {script : List String}

def template (script : List String) : List Char := ("\n".intercalate script ++ "\n").toList

/-- The characters of the placeholder. -/
def hole : List Char :=
  [':', 'P', 'G', 'Q', 'U', 'E', 'U', 'E', '_', 'S', 'C', 'H', 'E', 'M', 'A']

theorem hole_ne_nil : hole ≠ [] := by
  simp [hole]

theorem toList_placeholder : placeholder.toList = hole := String.toList_ofList

/-- A template with a name in its places. -/
def fill (name text : List Char) : List Char := replaceFrom hole name 0 text

theorem toList_statement :
    (statement schema script).toList = fill schema.toList (template script) := by
  rw [fill, ← toList_placeholder]
  exact String.toList_ofList

theorem fill_eq : fill n t = n.intercalate (parts hole t) := replaceFrom_eq

/-! ## Templates -/

/-- Each place for a name comes after a blank, a parenthesis or a colon, and before a point. -/
structure Framed (text : List Char) : Prop where
  before : ∀ x ∈ (parts hole text).dropLast,
    x.getLast? = some ' ' ∨ x.getLast? = some '(' ∨ x.getLast? = some ':'
  after : ∀ x ∈ (parts hole text).tail, x.head? = some '.'

/-- No place for a name is in quotes or in a body, and each is left where quotes are taken away. -/
structure Unquoted (text : List Char) : Prop where
  closed : ∀ x ∈ (parts hole text).dropLast, Closed x
  parts_bare : parts hole (bare text) = (parts hole text).map bare

/-- A statement in which the places for a name are found by the server as well. -/
structure Fitting (text : List Char) : Prop where
  framed : Framed text
  pos : 0 < occurrences hole text
  alternate : Alternate (parts delimiter text)
  parts : ∀ x ∈ parts delimiter text, Framed x ∧ Unquoted x

instance : Decidable (Framed t) :=
  decidable_of_iff ((∀ x ∈ (parts hole t).dropLast,
      x.getLast? = some ' ' ∨ x.getLast? = some '(' ∨ x.getLast? = some ':') ∧
      ∀ x ∈ (parts hole t).tail, x.head? = some '.')
    ⟨fun h => ⟨h.1, h.2⟩, fun h => ⟨h.before, h.after⟩⟩

instance : Decidable (Unquoted t) :=
  decidable_of_iff ((∀ x ∈ (parts hole t).dropLast, Closed x) ∧
      parts hole (bare t) = (parts hole t).map bare)
    ⟨fun h => ⟨h.1, h.2⟩, fun h => ⟨h.closed, h.parts_bare⟩⟩

instance : Decidable (Fitting t) :=
  decidable_of_iff (Framed t ∧ 0 < occurrences hole t ∧ Alternate (parts delimiter t) ∧
      ∀ x ∈ parts delimiter t, Framed x ∧ Unquoted x)
    ⟨fun ⟨hframed, hpos, halternate, hparts⟩ => ⟨hframed, hpos, halternate, hparts⟩,
      fun h => ⟨h.framed, h.pos, h.alternate, h.parts⟩⟩

theorem fitting_template : ∀ m ∈ all, ∀ script ∈ m.scripts, Fitting (template script) := by
  simp only [all, tables, functions, List.forall_mem_cons]
  simp only [template, String.toList_append, String.toList_intercalate, createQueueTable,
    createTaskTable, createQueueIndex, createUnstartedIndex, createTickerTable, createStatusType,
    createTaskStatus, createQueueInsert, createQueueNotify, createInsertTrigger, createQueueLock,
    createQueueUnlock, createQueueBackoff, createQueueFail, createQueueReturn, createQueueClean,
    createTickerNext, createQueueStatus, List.map_cons, List.map_nil]
  -- The characters of a line are those of its literal; to decode it again would take long.
  repeat rw [String.toList_ofList]
  decide +kernel

/-! ## Joints -/

/-- A text that begins with no part of a delimiter, and with nothing that comes after a colon in a
placeholder. -/
def Opens (text : List Char) : Prop :=
  ∃ c cs, text = c :: cs ∧ c ≠ '$' ∧ c ≠ 'P'

theorem opens_hole : Opens hole := ⟨_, _, rfl, by decide, by decide⟩

theorem IsQuoted.opens (h : IsQuoted schema) : Opens schema.toList := by
  cases h with
  | plain h =>
      obtain ⟨c, cs, hname, hc, -⟩ := h
      refine ⟨c, cs, hname, ?_, ?_⟩ <;>
      · rintro rfl
        exact absurd hc (by decide)
  | quoted h => exact ⟨'"', _, toList_identifier, by decide, by decide⟩

theorem apart_before (hn : Opens n)
    (hx : x.getLast? = some ' ' ∨ x.getLast? = some '(' ∨ x.getLast? = some ':') :
    Apart hole x (n ++ rest) := by
  obtain ⟨c, cs, rfl, -, hc⟩ := hn
  refine apart_of_not_adjacent fun l hl r hr hadjacent => ?_
  obtain rfl : c = r := by simpa using hr
  have hfollows : l = ':' → c = 'P' := by
    rintro rfl
    simpa [hole, List.infix_cons_iff] using hadjacent
  have hmem : l ∈ hole := hadjacent.subset (by simp)
  rw [Option.mem_def.mp hl] at hx
  simp only [Option.some.injEq] at hx
  rcases hx with rfl | rfl | rfl
  · exact absurd hmem (by decide)
  · exact absurd hmem (by decide)
  · exact hc (hfollows rfl)

theorem apart_point {p : List Char} (hp : '.' ∉ p) (hx : x.head? = some '.') :
    Apart p n (x ++ rest) := by
  obtain ⟨cs, rfl⟩ := List.head?_eq_some_iff.mp hx
  exact apart_of_head (by simpa using hp)

theorem apart_delimiter_of_opens (hn : Opens n) : Apart delimiter x (n ++ rest) := by
  obtain ⟨c, cs, rfl, hc, -⟩ := hn
  exact apart_of_head (by simpa [delimiter] using hc)

theorem apart_hole_delimiter : Apart hole a (delimiter ++ rest) :=
  apart_of_head (by simp [delimiter, hole])

theorem apart_delimiter_hole : Apart hole delimiter b :=
  apart_of_last (by simp [delimiter, hole])

/-! ## Places filled -/

/-- A name brings its own delimiters into every place, and no others come about. -/
theorem delimiters_fill (ht : Framed t) (hn : Opens n) :
    occurrences delimiter (fill n t) =
      occurrences delimiter t + occurrences hole t * occurrences delimiter n := by
  have hsum (m : List Char) (hm : Opens m) : occurrences delimiter (m.intercalate (parts hole t)) =
      ((parts hole t).map (occurrences delimiter)).sum +
        ((parts hole t).length - 1) * occurrences delimiter m :=
    occurrences_intercalate (fun _ _ _ => apart_delimiter_of_opens hm)
      fun x hx _ => apart_point (by decide) (ht.after x hx)
  have htext := hsum hole opens_hole
  rw [intercalate_parts hole_ne_nil, show occurrences delimiter hole = 0 by decide] at htext
  rw [fill_eq, hsum n hn, htext, ← occurrences]
  omega

/-- The placeholders that remain are those of the name. -/
theorem holes_fill (ht : Framed t) (hn : Opens n) :
    occurrences hole (fill n t) = occurrences hole t * occurrences hole n := by
  have hzero : ((parts hole t).map (occurrences hole)).sum = 0 := by
    refine List.sum_eq_zero fun k hk => ?_
    obtain ⟨x, hx, rfl⟩ := List.mem_map.mp hk
    exact occurrences_of_mem_partsFrom hole_ne_nil x hx
  rw [fill_eq, occurrences_intercalate (fun x hx _ => apart_before hn (ht.before x hx))
    (fun x hx _ => apart_point (by decide) (ht.after x hx)), hzero, ← occurrences, Nat.zero_add]

theorem bare_fill (ht : Unquoted t) (hn : Closed n) : bare (fill n t) = fill (bare n) (bare t) := by
  rw [fill_eq, fill_eq, ht.parts_bare]
  exact gather_intercalate hn ht.closed

theorem bodies_fill (ht : Unquoted t) (hn : Outer n) : bodies (fill n t) = bodies t := by
  have hsame (m : List Char) (hm : Outer m) :
      bodies (m.intercalate (parts hole t)) = [].intercalate ((parts hole t).map bodies) := by
    rw [← hm.bodies]
    exact gather_intercalate hm.closed ht.closed
  rw [fill_eq, hsame n hn, ← hsame hole (by decide), intercalate_parts hole_ne_nil]

theorem closed_fill (ht : Unquoted t) (hn : Closed n) : Closed (fill n t) ↔ Closed t := by
  rw [fill_eq, closed_intercalate hn ht.closed, ← closed_intercalate (n := hole) (by decide)
    ht.closed, intercalate_parts hole_ne_nil]

theorem outer_fill (ht : Unquoted t) (hn : Outer n) (h : Outer t) : Outer (fill n t) :=
  ⟨(closed_fill ht hn.closed).mpr h.closed, by rw [bodies_fill ht hn, h.bodies]⟩

theorem fill_concat {c : Char} (hc : c ∉ hole) : fill n (t ++ [c]) = fill n t ++ [c] := by
  rw [fill, replaceFrom_append (apart_of_head (by simpa using hc)),
    replaceFrom_of_occurrences (t := [c]) hole_ne_nil
      (occurrences_of_length_lt (by simp [hole])), ← fill]

theorem isBody_fill (ht : Framed t) (hn : Opens n)
    (hnone : occurrences hole t * occurrences delimiter n = 0) (h : IsBody t) :
    IsBody (fill n t) := by
  refine ⟨by rw [delimiters_fill ht hn, h.delimiters, hnone], ?_⟩
  obtain ⟨x, rfl⟩ := List.getLast?_eq_some_iff.mp h.ends
  rw [fill_concat (by decide), List.getLast?_concat]

/-! ## Statements -/

theorem fill_delimiter : fill n (a ++ delimiter ++ b) = fill n a ++ delimiter ++ fill n b := by
  rw [List.append_assoc, List.append_assoc, fill, replaceFrom_append apart_hole_delimiter,
    replaceFrom_append apart_delimiter_hole, replaceFrom_of_occurrences (t := delimiter) hole_ne_nil
      (occurrences_of_length_lt (by decide)), ← fill, ← fill]

theorem fill_intercalate :
    fill n (delimiter.intercalate xs) = delimiter.intercalate (xs.map (fill n)) :=
  replaceFrom_intercalate hole_ne_nil (by decide) (fun _ _ => apart_hole_delimiter)
    fun _ => apart_delimiter_hole

theorem alternate_fill (hxs : ∀ x ∈ xs, Framed x ∧ Unquoted x) (hn : Opens n) (hname : Outer n)
    (hnone : ∀ y ∈ everyOther xs, occurrences hole y * occurrences delimiter n = 0)
    (h : Alternate xs) : Alternate (xs.map (fill n)) := by
  induction xs using Alternate.induct with
  | case1 => contradiction
  | case2 x => exact outer_fill (hxs x (by simp)).2 hname h
  | case3 x y xs ih =>
      obtain ⟨hx, hy, hrest⟩ := h
      obtain ⟨hfirst, hsecond, hothers⟩ : (Framed x ∧ Unquoted x) ∧ (Framed y ∧ Unquoted y) ∧
          ∀ z ∈ xs, Framed z ∧ Unquoted z := by
        simpa only [List.forall_mem_cons] using hxs
      obtain ⟨hnone, hnones⟩ := List.forall_mem_cons.mp hnone
      exact ⟨outer_fill hfirst.2 hname hx, isBody_fill hsecond.1 hn hnone hy,
        ih hothers hnones hrest⟩

theorem bare_fill_intercalate (hxs : ∀ x ∈ xs, Framed x ∧ Unquoted x) (hname : Closed n)
    (h : Alternate xs) (hfilled : Alternate (xs.map (fill n))) :
    bare (delimiter.intercalate (xs.map (fill n))) =
      fill (bare n) (bare (delimiter.intercalate xs)) := by
  induction xs using Alternate.induct with
  | case1 => contradiction
  | case2 x => simpa using bare_fill (hxs x (by simp)).2 hname
  | case3 x y xs ih =>
      obtain ⟨hx, hy, hrest⟩ := h
      obtain ⟨hx', hy', hrest'⟩ := hfilled
      obtain ⟨hfirst, hothers⟩ := List.forall_mem_cons.mp hxs
      have hrests : bare (delimiter.intercalate (xs.map (fill n))) = _ :=
        ih (List.forall_mem_cons.mp hothers).2 hrest hrest'
      rw [List.map_cons, List.map_cons, intercalate_body hrest'.ne_nil,
        intercalate_body hrest.ne_nil, (gather_body hx'.closed hy').1, (gather_body hx.closed hy).1,
        bare_fill hfirst.2 hname, hrests, fill_delimiter]

/-- A text is read as a template is, with a name in its places. -/
structure Follows (name template text : List Char) : Prop where
  /-- Each body ends where it does in the template. -/
  bodies : bodies text = (bodies template).map (fill name)
  /-- Of the name nothing is read but what is read of it alone. -/
  outside : bare text = fill (bare name) (bare template)
  inside : ∀ y ∈ Migration.bodies template, bare (fill name y) = fill (bare name) (bare y)

theorem follows_iff (ht : Fitting t) (hn : Opens n) (hname : Outer n) :
    Follows n t (fill n t) ↔ ¬ delimiter <:+: n ∨ ∀ y ∈ bodies t, ¬ hole <:+: y := by
  have htext : delimiter.intercalate (parts delimiter t) = t := intercalate_parts delimiter_ne_nil
  have hbodies : bodies t = everyOther (parts delimiter t) := by
    rw [← bodies_intercalate ht.alternate, htext]
  have hparts (y : List Char) (hy : y ∈ bodies t) : Framed y ∧ Unquoted y :=
    ht.parts y (everyOther_subset (hbodies ▸ hy))
  refine ⟨fun h => ?_, fun h => ?_⟩
  · by_contra hboth
    obtain ⟨hdelimiter, hholes⟩ := not_or.mp hboth
    refine hholes fun y hy hhole => hdelimiter fun hfound => ?_
    -- The body would be read with a delimiter in it.
    have hnone : occurrences delimiter (fill n y) = 0 :=
      occurrences_of_mem_bodies _ (h.bodies ▸ List.mem_map_of_mem hy)
    rw [delimiters_fill (hparts y hy).1 hn, Nat.add_eq_zero_iff, Nat.mul_eq_zero,
      occurrences_eq_zero_iff hole_ne_nil,
      occurrences_eq_zero_iff (t := n) delimiter_ne_nil] at hnone
    exact hnone.2.elim (· hhole) (· hfound)
  · have hnone (y : List Char) (hy : y ∈ everyOther (parts delimiter t)) :
        occurrences hole y * occurrences delimiter n = 0 := by
      rw [Nat.mul_eq_zero, occurrences_eq_zero_iff hole_ne_nil,
        occurrences_eq_zero_iff delimiter_ne_nil]
      exact h.symm.imp_left (· y (hbodies ▸ hy))
    have hfilled : Alternate ((parts delimiter t).map (fill n)) :=
      alternate_fill ht.parts hn hname hnone ht.alternate
    have hfill : fill n t = delimiter.intercalate ((parts delimiter t).map (fill n)) := by
      rw [← fill_intercalate, htext]
    refine ⟨?_, ?_, fun y hy => bare_fill (hparts y hy).2 hname.closed⟩
    · rw [hfill, bodies_intercalate hfilled, everyOther_map, hbodies]
    · rw [hfill, bare_fill_intercalate ht.parts hname.closed ht.alternate hfilled, htext]

/-- The statement of a migration has the delimiters of its template if and only if the quoted name
of the schema has none; it is read as the template is, with the name in its places, if and only if
the name has none or no body has a place for it; it has a placeholder if and only if the name has
one. Outside quotes a name is read that is plain, and no other. -/
theorem statement_follows_template {m : Migration} (hschema : IsQuoted schema) (hm : m ∈ all)
    (hscript : script ∈ m.scripts) :
    (occurrences delimiter (statement schema script).toList =
        occurrences delimiter (template script) ↔ ¬ delimiter <:+: schema.toList) ∧
    (Follows schema.toList (template script) (statement schema script).toList ↔
      ¬ delimiter <:+: schema.toList ∨
        ∀ y ∈ bodies (template script), ¬ placeholder.toList <:+: y) ∧
    (bare schema.toList = [] ∨ IsPlain schema.toList ∧ bare schema.toList = schema.toList) ∧
    (placeholder.toList <:+: (statement schema script).toList ↔
      placeholder.toList <:+: schema.toList) := by
  have ht : Fitting (template script) := fitting_template m hm script hscript
  have hn : Opens schema.toList := hschema.opens
  have hpos : occurrences hole (template script) ≠ 0 := Nat.ne_of_gt ht.pos
  obtain ⟨hname, hbare⟩ := hschema.outer
  rw [toList_statement, toList_placeholder]
  refine ⟨?_, follows_iff ht hn hname, hbare, ?_⟩
  · rw [delimiters_fill ht.framed hn, Nat.add_eq_left, Nat.mul_eq_zero, or_iff_right hpos,
      occurrences_eq_zero_iff delimiter_ne_nil]
  · rw [← not_iff_not, ← occurrences_eq_zero_iff hole_ne_nil, ← occurrences_eq_zero_iff hole_ne_nil,
      holes_fill ht.framed hn, Nat.mul_eq_zero, or_iff_right hpos]

/-- A name with a blank in it, as the server quotes it. -/
def spacedName : String := Request.identifier "My Queue"

theorem spacedName_follows_template :
    IsQuoted spacedName ∧ functions ∈ all ∧ createQueueClean ∈ functions.scripts ∧
    occurrences delimiter (statement spacedName createQueueClean).toList =
      occurrences delimiter (template createQueueClean) ∧
    Follows spacedName.toList (template createQueueClean)
      (statement spacedName createQueueClean).toList ∧
    bare spacedName.toList = [] ∧
    ¬ placeholder.toList <:+: (statement spacedName createQueueClean).toList := by
  have hschema : IsQuoted spacedName := .quoted (by decide)
  have hm : functions ∈ all := by simp [all]
  have hscript : createQueueClean ∈ functions.scripts := by simp [functions]
  have hname : spacedName.toList = ['"', 'M', 'y', ' ', 'Q', 'u', 'e', 'u', 'e', '"'] := by
    rw [spacedName, toList_identifier, show "My Queue".toList = _ from String.toList_ofList]
    rfl
  have hnone : ¬ delimiter <:+: spacedName.toList := by
    rw [hname]
    decide
  obtain ⟨hdelimiters, hfollows, -, hholes⟩ := statement_follows_template hschema hm hscript
  refine ⟨hschema, hm, hscript, hdelimiters.mpr hnone, hfollows.mpr (.inl hnone), ?_,
    fun h => absurd (hholes.mp h) ?_⟩
  · rw [hname]
    rfl
  · rw [hname, toList_placeholder]
    decide

/-- A name with a delimiter in it, as the server quotes it. -/
def delimitedName : String := Request.identifier "a$$b"

/-- The body of the function ends within the name. -/
theorem delimitedName_ends_body :
    IsQuoted delimitedName ∧ functions ∈ all ∧ createQueueReturn ∈ functions.scripts ∧
    occurrences delimiter (template createQueueReturn) = 2 ∧
    occurrences delimiter (statement delimitedName createQueueReturn).toList = 4 ∧
    bodies (statement delimitedName createQueueReturn).toList = ["\n    update \"a".toList] := by
  have hname : delimitedName.toList = ['"', 'a', '$', '$', 'b', '"'] := by
    rw [delimitedName, toList_identifier, show "a$$b".toList = _ from String.toList_ofList]
    rfl
  refine ⟨.quoted (by decide), by simp [all], by simp [functions], ?_⟩
  rw [toList_statement, hname]
  simp only [template, createQueueReturn, String.toList_append, String.toList_intercalate,
    List.map_cons, List.map_nil]
  repeat rw [String.toList_ofList]
  decide +kernel

end TaskQueue.Migration
