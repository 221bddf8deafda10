import DataAccess.Proofs.Mapping.Labels
import Mathlib.Data.List.Nodup

/-!
# `DataAccess.Proofs.Mapping.Graph`: the entities of a row, put together

`Model.settle` goes through the joins from the last to the first and
attaches the entity of each to that of its base, wherever it is at that
time. Here it is shown that this is the graph one would put together
from the top.

`Model.Assembled` is that graph: the entity of a place has the entities
attached to it that the row has for the joins hanging off the place, each
of them assembled itself. `Settling` is what holds between two joins: of
every entity that is still to be attached, the joins that were done make
up a part of what is attached to it. Since a base goes before the joins
that hang off it, nothing is missing any more once its own turn comes
(`settle_assembled`).

Nothing fails but the entities themselves, which may refuse a value or
another entity (`populated_error`, `settle_error`).
-/

set_option autoImplicit false

namespace DataAccess.Model

open JoinRegistry (aliasUnder targetUnder segmentsUnder Stands WellFormed)

variable {ι ε : Type}

/-! ### The graph of a row -/

/-- The entity that a row has for a join, unless it has no identity. -/
def instance? (m : Model ι ε) (row : Row) (j : Join ι) : Option ε :=
  match m.populated j.target row (some j.tableAlias.text) with
  | .ok e => if m.isNew e then none else some e
  | .error _ => none

/-- The joins that hang off a place and that a row has an entity for. -/
def matched (m : Model ι ε) (row : Row) (place : Option (Join ι)) (js : List (Join ι)) :
    List (Join ι) :=
  js.filter fun j => j.base = place.map (·.identifier) ∧ (m.instance? row j).isSome

/-- An entity with others attached to it, each at the relation of its
join. -/
def attachAll (m : Model ι ε) (owner : ε) (parts : List (Join ι × ε)) : Result ε :=
  parts.foldlM (fun owner part => m.attach part.1.relation part.2 owner) owner

/-- The entity of a place, which is a join or the root, with all that
hangs off the place: what the row has for the joins there, each assembled
before it is attached. The joins are in the order of attaching. -/
inductive Assembled (m : Model ι ε) (root : ι) (row : Row) (joins : List (Join ι)) :
    Option (Join ι) → ε → Prop where
  | intro {place : Option (Join ι)} {own e : ε} {parts : List (Join ι × ε)}
    (hown : m.populated (targetUnder root place) row (some (aliasUnder place).text) = .ok own)
    (hjoins : parts.map (·.1) = m.matched row place joins)
    (hparts : ∀ part ∈ parts, Assembled m root row joins (some part.1) part.2)
    (hattach : m.attachAll own parts = .ok e) : Assembled m root row joins place e

section Matched
variable {m : Model ι ε} {row : Row} {place : Option (Join ι)} {j : Join ι} {js : List (Join ι)}

/-- The matched joins at a place are those that have it as their base, and
an instance in the row. -/
theorem mem_matched : j ∈ m.matched row place js
    ↔ j ∈ js ∧ j.base = place.map (·.identifier) ∧ (m.instance? row j).isSome := by
  simp [matched]

/-- What matches among two lists of joins is what matches in each. -/
theorem matched_append (ks : List (Join ι)) :
    m.matched row place (js ++ ks) = m.matched row place js ++ m.matched row place ks :=
  List.filter_append ..

/-- No join matches at a place that none has as its base. -/
theorem matched_eq_nil (h : ∀ j ∈ js, j.base ≠ place.map (·.identifier)) :
    m.matched row place js = [] :=
  List.filter_eq_nil_iff.mpr fun j hj hplace => h j hj (of_decide_eq_true hplace).1

end Matched

/-! ### What is found for the joins -/

section Joined
variable {m : Model ι ε} {row : Row}

/-- An instance was read from the columns under the alias of its join. -/
theorem populated_of_instance? {j : Join ι} {e : ε} (h : m.instance? row j = some e) :
    m.populated j.target row (some j.tableAlias.text) = .ok e := by
  rw [instance?] at h
  split at h
  · split at h
    · cases h
    · rename_i own hown hnew
      rw [hown, Option.some.inj h]
  · cases h

/-- The entities that were found, one for each join that has one. -/
theorem joined_eq {js : List (Join ι)} {found : List (String × ε)}
    (h : m.joined row js = .ok found) :
    found = js.filterMap fun j => (m.instance? row j).map (j.identifier, ·) := by
  induction js generalizing found with
  | nil => exact (Except.ok.inj h).symm
  | cons j js ih =>
      obtain ⟨e, he, h⟩ := Result.bind_eq_ok.mp h
      obtain ⟨rest, hrest, h⟩ := Result.bind_eq_ok.mp h
      obtain rfl := Except.ok.inj h
      rw [List.filterMap_cons, ← ih hrest, instance?, he]
      by_cases hnew : m.isNew e = true <;> simp [hnew]

/-- Looking up a join among what was found. -/
theorem lookup_joined {js : List (Join ι)} {found : List (String × ε)}
    (h : m.joined row js = .ok found)
    (hjs : js.Pairwise fun j k => j.identifier ≠ k.identifier) :
    ∀ j ∈ js, found.lookup j.identifier = m.instance? row j := by
  rw [joined_eq h]
  clear h
  -- Over the joins; the list of what was found is their instances, in order.
  induction js with
  | nil => simp
  | cons k js ih =>
      obtain ⟨hk, hjs⟩ := List.pairwise_cons.mp hjs
      intro j hj
      rcases List.mem_cons.mp hj with rfl | hj
      · -- No join after the first one has its identifier.
        cases hinstance : m.instance? row j with
        | some e => simp [hinstance]
        | none =>
            simp only [List.filterMap_cons, hinstance, Option.map_none,
              List.lookup_eq_none_iff, List.mem_filterMap, Option.map_eq_some_iff]
            rintro _ ⟨k, hin, e, -, rfl⟩
            simpa using hk k hin
      · have hne : (j.identifier == k.identifier) = false := by
          simpa using (hk j hj).symm
        cases hinstance : m.instance? row k with
        | some e => simp [hinstance, List.lookup_cons, hne, ih hjs j hj]
        | none => simp [hinstance, ih hjs j hj]

/-- Replacing an entity changes what is found for that one join. -/
theorem lookup_replaced (identifier other : String) (e : ε) (found : List (String × ε)) :
    (replaced identifier e found).lookup other
      = if other = identifier then (found.lookup other).map fun _ => e
        else found.lookup other := by
  induction found with
  | nil => simp [replaced]
  | cons entry found ih =>
      obtain ⟨name, x⟩ := entry
      show ((if name = identifier then (identifier, e) else (name, x))
        :: replaced identifier e found).lookup other = _
      -- Each entry is replaced or not, and is or is not the one looked up.
      by_cases hhere : name = identifier
      · subst hhere
        by_cases hother : other = name
        · simp [hother]
        · simp [List.lookup_cons, beq_eq_false_iff_ne.mpr hother, ih, hother]
      · by_cases hother : other = name
        · simp [hother, hhere]
        · simp [List.lookup_cons, beq_eq_false_iff_ne.mpr hother, ih, hhere]

end Joined

/-! ### Attaching what was found -/

section Settle
variable {m : Model ι ε} {root : ι} {row : Row} {maxDepth : Nat} {r : JoinRegistry ι}

/-- The entity of a place with those of some joins attached to it, each
assembled. -/
def Composed (m : Model ι ε) (root : ι) (row : Row) (joins : List (Join ι))
    (place : Option (Join ι)) (children : List (Join ι)) (e : ε) : Prop :=
  ∃ own parts,
    m.populated (targetUnder root place) row (some (aliasUnder place).text) = .ok own ∧
    parts.map (·.1) = children ∧
    (∀ part ∈ parts, Assembled m root row joins (some part.1) part.2) ∧
    m.attachAll own parts = .ok e

/-- What is composed of all the joins at its place is assembled. -/
theorem Composed.assembled {joins : List (Join ι)} {place : Option (Join ι)} {e : ε}
    (h : Composed m root row joins place (m.matched row place joins) e) :
    Assembled m root row joins place e := by
  obtain ⟨own, parts, hown, hjoins, hparts, hattach⟩ := h
  exact .intro hown hjoins hparts hattach

/-- One more entity is attached. -/
theorem Composed.attach {joins children : List (Join ι)} {place : Option (Join ι)} {j : Join ι}
    {owner e owner' : ε} (h : Composed m root row joins place children owner)
    (he : Assembled m root row joins (some j) e)
    (hattach : m.attach j.relation e owner = .ok owner') :
    Composed m root row joins place (children ++ [j]) owner' := by
  obtain ⟨own, parts, hown, rfl, hparts, hall⟩ := h
  refine ⟨own, parts ++ [(j, e)], hown, by simp, fun part hpart => ?_, ?_⟩
  · rcases List.mem_append.mp hpart with hpart | hpart
    · exact hparts part hpart
    · rw [List.mem_singleton.mp hpart]
      exact he
  · rw [attachAll, List.foldlM_append]
    exact Result.bind_eq_ok.mpr ⟨owner, hall, Result.bind_eq_ok.mpr ⟨owner', hattach, rfl⟩⟩

/-- What was attached to a place stays as it is while a join is done that
does not hang off it, or that the row has nothing for. -/
theorem Composed.skip {joins done : List (Join ι)} {place : Option (Join ι)} {j : Join ι} {e : ε}
    (h : Composed m root row joins place (m.matched row place done) e)
    (hj : j.base = place.map (·.identifier) → m.instance? row j = none) :
    Composed m root row joins place (m.matched row place (done ++ [j])) e := by
  have hnone : m.matched row place [j] = [] := by
    rw [matched, List.filter_eq_nil_iff]
    intro k hk hmatch
    obtain ⟨hbase, hsome⟩ := of_decide_eq_true hmatch
    obtain rfl := List.mem_singleton.mp hk
    rw [hj hbase] at hsome
    cases hsome
  rw [matched_append, hnone, List.append_nil]
  exact h

/-- A join that is done makes up one more of what is attached to its
base. -/
theorem Composed.extend {joins done : List (Join ι)} {place : Option (Join ι)} {j : Join ι}
    {owner e owner' : ε} (h : Composed m root row joins place (m.matched row place done) owner)
    (hbase : j.base = place.map (·.identifier)) (hfound : (m.instance? row j).isSome)
    (he : Assembled m root row joins (some j) e)
    (hattach : m.attach j.relation e owner = .ok owner') :
    Composed m root row joins place (m.matched row place (done ++ [j])) owner' := by
  have hone : m.matched row place [j] = [j] := by
    simp [matched, hbase, hfound]
  rw [matched_append, hone]
  exact h.attach he hattach

/-- All joins that hang off a join come before it in the order of
attaching. -/
theorem matched_done (h : WellFormed m.schema root maxDepth r) {done todo : List (Join ι)}
    {j : Join ι} (horder : r.joins.reverse = done ++ j :: todo) :
    m.matched row (some j) r.joins.reverse = m.matched row (some j) done := by
  have hsplit : r.joins = todo.reverse ++ j :: done.reverse := by
    rw [← List.reverse_reverse r.joins, horder]
    simp
  have hsorted := h.sorted
  rw [hsplit] at hsorted
  have hleft : ∀ k ∈ j :: todo, k.base ≠ (some j).map (·.identifier) := by
    intro k hk hbase
    -- The identifier of `k` would go after that of its base `j`.
    obtain ⟨base, segment, n, hs⟩ := h.stands k (List.mem_reverse.mp (by simp [horder, hk]))
    rw [hs.base_eq] at hbase
    cases base with
    | none => cases hbase
    | some b =>
        have hsame : b.identifier = j.identifier := Option.some.inj hbase
        have hlt := hs.base_lt
        rw [hsame] at hlt
        rcases List.mem_cons.mp hk with rfl | hk
        · exact absurd hlt (lt_irrefl _)
        · have hbefore := (List.pairwise_append.mp hsorted).2.2 k (by simpa using hk) j (by simp)
          exact absurd hlt (lt_asymm hbefore)
  rw [horder, matched_append, matched_eq_nil hleft, List.append_nil]

/-- After the joins `done` and before the joins `todo`: what is attached
to the root and to the entities that are still to be attached. -/
structure Settling (m : Model ι ε) (root : ι) (row : Row) (joins done todo : List (Join ι))
    (top : ε) (found : List (String × ε)) : Prop where
  top : Composed m root row joins none (m.matched row none done) top
  missing : ∀ j ∈ todo, found.lookup j.identifier = none → m.instance? row j = none
  present : ∀ j ∈ todo, ∀ e, found.lookup j.identifier = some e →
    (m.instance? row j).isSome ∧
      Composed m root row joins (some j) (m.matched row (some j) done) e

/-- A join is done without a change of the entities that were found, as
none of them is its base unless the row has nothing for it. -/
theorem Settling.pass {joins done todo : List (Join ι)} {j : Join ι} {top top' : ε}
    {found : List (String × ε)} (hs : Settling m root row joins done (j :: todo) top found)
    (htop : Composed m root row joins none (m.matched row none (done ++ [j])) top')
    (hj : ∀ k ∈ todo, ∀ e, found.lookup k.identifier = some e →
      j.base = (some k).map (·.identifier) → m.instance? row j = none) :
    Settling m root row joins (done ++ [j]) todo top' found where
  top := htop
  missing k hk := hs.missing k (List.mem_cons_of_mem _ hk)
  present k hk e he := by
    obtain ⟨hsome, hcomposed⟩ := hs.present k (List.mem_cons_of_mem _ hk) e he
    exact ⟨hsome, hcomposed.skip (hj k hk e he)⟩

/-- A join is done, and its entity is attached to that of its base. -/
theorem Settling.attach {joins done todo : List (Join ι)} {j : Join ι} {top e owner owner' : ε}
    {found : List (String × ε)} {base : String}
    (hs : Settling m root row joins done (j :: todo) top found)
    (htop : Composed m root row joins none (m.matched row none (done ++ [j])) top)
    (hbase : j.base = some base) (howner : found.lookup base = some owner)
    (hfound : (m.instance? row j).isSome) (he : Assembled m root row joins (some j) e)
    (hattach : m.attach j.relation e owner = .ok owner') :
    Settling m root row joins (done ++ [j]) todo top (replaced base owner' found) where
  top := htop
  missing k hk hmissing := by
    rw [lookup_replaced] at hmissing
    refine hs.missing k (List.mem_cons_of_mem _ hk) ?_
    split at hmissing
    · exact Option.map_eq_none_iff.mp hmissing
    · exact hmissing
  present k hk y hy := by
    rw [lookup_replaced] at hy
    split at hy
    · -- The base has one more attached to it.
      rename_i hhere
      rw [hhere, howner] at hy
      obtain rfl := Option.some.inj hy
      obtain ⟨hsome, hcomposed⟩ :=
        hs.present k (List.mem_cons_of_mem _ hk) owner (by rw [hhere, howner])
      exact ⟨hsome, hcomposed.extend (by simp [hbase, hhere]) hfound he hattach⟩
    -- All others are as they were: `j` does not hang off them.
    · rename_i hother
      obtain ⟨hsome, hcomposed⟩ := hs.present k (List.mem_cons_of_mem _ hk) y hy
      exact ⟨hsome, hcomposed.skip fun hplace =>
        absurd (by simpa [hbase] using hplace.symm) hother⟩

/-- One join is done, and its entity is attached if its base has one. -/
theorem Settling.step (h : WellFormed m.schema root maxDepth r) {done todo : List (Join ι)}
    {j : Join ι} (horder : r.joins.reverse = done ++ j :: todo) {top e : ε}
    {found : List (String × ε)}
    (hs : Settling m root row r.joins.reverse done (j :: todo) top found)
    (hrun : m.settle (j :: todo) top found = .ok e) :
    ∃ top' found', Settling m root row r.joins.reverse (done ++ [j]) todo top' found' ∧
      m.settle todo top' found' = .ok e := by
  rw [settle] at hrun
  split at hrun
  · -- The row has nothing for `j`.
    rename_i hnone
    have hj := hs.missing j (by simp) hnone
    exact ⟨top, found, hs.pass (hs.top.skip fun _ => hj) fun _ _ _ _ _ => hj, hrun⟩
  rename_i x hx
  obtain ⟨hfound, hcomposed⟩ := hs.present j (by simp) x hx
  -- All joins under `j` come before it, so that its entity is complete.
  have hassembled : Assembled m root row r.joins.reverse (some j) x := by
    rw [← matched_done h horder] at hcomposed
    exact hcomposed.assembled
  split at hrun
  · -- `j` hangs off the root.
    rename_i hbase
    obtain ⟨top', hattach, hrun⟩ := Result.bind_eq_ok.mp hrun
    have htop := hs.top.extend hbase hfound hassembled hattach
    refine ⟨top', found, hs.pass htop fun k _ _ _ hplace => ?_, hrun⟩
    simp [hbase] at hplace
  rename_i base hbase
  have htop : Composed m root row r.joins.reverse none (m.matched row none (done ++ [j])) top :=
    hs.top.skip fun hplace => by simp [hbase] at hplace
  split at hrun
  · -- The base of `j` was not found, and `j` is dropped with it.
    rename_i hnone
    refine ⟨top, found, hs.pass htop fun k _ y hy hplace => ?_, hrun⟩
    obtain rfl : base = k.identifier := by simpa [hbase] using hplace
    cases hnone.symm.trans hy
  · rename_i owner howner
    obtain ⟨owner', hattach, hrun⟩ := Result.bind_eq_ok.mp hrun
    exact ⟨top, replaced base owner' found,
      hs.attach htop hbase howner hfound hassembled hattach, hrun⟩

/-- The joins that are left are done one after the other, and then the
root is assembled. -/
theorem settle_assembled (h : WellFormed m.schema root maxDepth r) {done todo : List (Join ι)}
    (horder : r.joins.reverse = done ++ todo) {top e : ε} {found : List (String × ε)}
    (hs : Settling m root row r.joins.reverse done todo top found)
    (hrun : m.settle todo top found = .ok e) :
    Assembled m root row r.joins.reverse none e := by
  induction todo generalizing done top found with
  | nil =>
      obtain rfl := Except.ok.inj hrun
      rw [List.append_nil] at horder
      have htop := hs.top
      rw [← horder] at htop
      exact htop.assembled
  | cons j todo ih =>
      obtain ⟨top', found', hs', hrest⟩ := hs.step h horder hrun
      exact ih (by simp [horder]) hs' hrest

/-- The entity of a row is the graph put together from the top. -/
theorem mapRow_assembled (h : WellFormed m.schema root maxDepth r) {e : ε}
    (hrun : m.mapRow root r row = .ok e) : Assembled m root row r.joins.reverse none e := by
  obtain ⟨own, hown, hrun⟩ := Result.bind_eq_ok.mp hrun
  obtain ⟨found, hfound, hrun⟩ := Result.bind_eq_ok.mp hrun
  have hlookup := lookup_joined hfound (h.sorted.imp fun hlt => ne_of_lt hlt)
  refine settle_assembled h (List.nil_append _).symm ⟨⟨own, [], hown, rfl, by simp, rfl⟩, ?_, ?_⟩
    hrun
  · intro j hj hnone
    rw [← hlookup j (List.mem_reverse.mp hj), hnone]
  · intro j hj x hx
    have hinstance : m.instance? row j = some x := by
      rw [← hlookup j (List.mem_reverse.mp hj), hx]
    exact ⟨by simp [hinstance], x, [], populated_of_instance? hinstance, rfl, by simp, rfl⟩

end Settle

/-! ### Errors -/

section Errors
variable {m : Model ι ε} {row : Row}

/-- A field of an entity is left alone, or it is given a value, which the
entity may refuse. -/
theorem populateField_cases (m : Model ι ε) (row : Row) (qualifier : Option String) (f : Field)
    (e : ε) :
    (columnValue? row qualifier f = none ∧
        (m.populateField row qualifier f).exec e = (.ok (), e)) ∨
    ∃ v, columnValue? row qualifier f = some v ∧
      ((∃ e', m.setValue f.name (v.coerce f.kind) e = .ok e' ∧
          (m.populateField row qualifier f).exec e = (.ok (), e')) ∨
        ∃ error, m.setValue f.name (v.coerce f.kind) e = .error error ∧
          (m.populateField row qualifier f).exec e = (.error error, e)) := by
  cases hv : columnValue? row qualifier f with
  | none =>
      refine Or.inl ⟨rfl, ?_⟩
      rw [populateField, hv]
      rfl
  | some v =>
      refine Or.inr ⟨v, rfl, ?_⟩
      have hrun : (m.populateField row qualifier f).exec e
          = (Work.ofResult (m.setValue f.name (v.coerce f.kind) e) >>= set).exec e := by
        rw [populateField, hv]
        rfl
      -- There is a value; the entity takes it or refuses it.
      cases hset : m.setValue f.name (v.coerce f.kind) e with
      | ok e' => exact Or.inl ⟨e', rfl, by rw [hrun, hset, Work.exec_bind]; rfl⟩
      | error error => exact Or.inr ⟨error, rfl, by rw [hrun, hset, Work.exec_bind]; rfl⟩

/-- Reading the columns of a table fails only where an entity refuses a
value. -/
theorem populated_error {k : ι} {qualifier : Option String} {error : Error}
    (h : m.populated k row qualifier = .error error) :
    ∃ f ∈ (m.schema k).fields, ∃ v owner, columnValue? row qualifier f = some v ∧
      m.setValue f.name (v.coerce f.kind) owner = .error error := by
  have hrun : ((m.populate k row qualifier).exec (m.construct k)).1 = .error error := by
    rw [populated] at h
    split at h
    · cases h
    · rename_i hexec
      rw [hexec, Except.error.inj h]
  rw [populate] at hrun
  generalize m.construct k = e at hrun
  generalize (m.schema k).fields = fields at hrun
  -- Over the fields, for any entity that those before have filled.
  induction fields generalizing e with
  | nil => cases hrun
  | cons f fields ih =>
      have hcons : (f :: fields).forM (m.populateField row qualifier)
          = (m.populateField row qualifier f >>= fun _ =>
              fields.forM (m.populateField row qualifier)) := rfl
      rw [hcons, Work.exec_bind] at hrun
      rcases m.populateField_cases row qualifier f e with
        ⟨-, hexec⟩ | ⟨v, hv, ⟨e', -, hexec⟩ | ⟨error', hset, hexec⟩⟩
      · rw [hexec] at hrun
        obtain ⟨g, hg, hrefused⟩ := ih e hrun
        exact ⟨g, List.mem_cons_of_mem _ hg, hrefused⟩
      · rw [hexec] at hrun
        obtain ⟨g, hg, hrefused⟩ := ih e' hrun
        exact ⟨g, List.mem_cons_of_mem _ hg, hrefused⟩
      · rw [hexec] at hrun
        obtain rfl := Except.error.inj hrun
        exact ⟨f, by simp, v, e, hv, hset⟩

/-- A failure among the joins comes from reading the columns of one of
them. -/
theorem joined_error {js : List (Join ι)} {error : Error} (h : m.joined row js = .error error) :
    ∃ j ∈ js, m.populated j.target row (some j.tableAlias.text) = .error error := by
  induction js with
  | nil => cases h
  | cons j js ih =>
      rcases Result.bind_eq_error.mp h with h | ⟨e, -, h⟩
      · exact ⟨j, by simp, h⟩
      rcases Result.bind_eq_error.mp h with h | ⟨rest, -, h⟩
      · obtain ⟨k, hk, herror⟩ := ih h
        exact ⟨k, List.mem_cons_of_mem _ hk, herror⟩
      · cases h

/-- A failure in putting the entities together comes from attaching one to
another. -/
theorem settle_error {js : List (Join ι)} {top : ε} {found : List (String × ε)} {error : Error}
    (h : m.settle js top found = .error error) :
    ∃ j ∈ js, ∃ e owner, m.attach j.relation e owner = .error error := by
  induction js generalizing top found with
  | nil => cases h
  | cons j js ih =>
      -- A failure later on is told by the induction.
      have hrest : ∀ {top found}, m.settle js top found = .error error →
          ∃ k ∈ j :: js, ∃ e owner, m.attach k.relation e owner = .error error := by
        intro top found h
        obtain ⟨k, hk, herror⟩ := ih h
        exact ⟨k, List.mem_cons_of_mem _ hk, herror⟩
      rw [settle] at h
      split at h
      · exact hrest h
      rename_i e he
      split at h
      · rcases Result.bind_eq_error.mp h with h | ⟨top', -, h⟩
        · exact ⟨j, by simp, e, top, h⟩
        · exact hrest h
      split at h
      · exact hrest h
      rename_i owner howner
      rcases Result.bind_eq_error.mp h with h | ⟨owner', -, h⟩
      · exact ⟨j, by simp, e, owner, h⟩
      · exact hrest h

end Errors

end DataAccess.Model
