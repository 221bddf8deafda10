import DataAccess.Proofs.Mapping.Graph
import DataAccess.Record
import Mathlib.Data.List.Induction
import Mathlib.Logic.Function.Basic

/-!
# `DataAccess.Proofs.Mapping.Rebuilt`: the graph of a row, by paths

What is attached to an entity is known to its model only. `Relates` says
of a way to look it up that it sees what was attached and nothing else;
records can be looked up in this way (`Record.relates`). Along a path of
relations the graph of a row then has an entity exactly where the path
has a join, and the row has an entity for it and for all joins on the way
(`Assembled.reached`, `Assembled.holds`).

`Rebuilds` is all that mapping a row of a find comes to, and
`run_rebuilds` says so for the criteria of every program.
-/

set_option autoImplicit false

namespace DataAccess

namespace Model

open Criteria (splitPath DotFree)
open JoinRegistry (aliasUnder targetUnder segmentsUnder Stands WellFormed)

variable {ι ε : Type}

/-! ### Looking up what is attached -/

/-- Looking up what is attached to an entity: nothing at first, setting a
field changes nothing, and attaching changes the one relation. -/
structure Relates (m : Model ι ε) (related : ε → String → Option ε) : Prop where
  construct : ∀ k name, related (m.construct k) name = none
  setValue : ∀ field v e e', m.setValue field v e = .ok e' → related e' = related e
  attach : ∀ name other e e', m.attach name other e = .ok e' →
    related e' = Function.update (related e) name (some other)

/-- The row has an entity for every join along a path, and for that at its
end. -/
def Reached (m : Model ι ε) (row : Row) (r : JoinRegistry ι) (path : List String) : Prop :=
  ∀ start, start ≠ [] → start <+: path →
    ∃ j ∈ r.joins, splitPath j.identifier = start ∧ (m.instance? row j).isSome

section Relates
variable {m : Model ι ε} {root : ι} {row : Row} {related : ε → String → Option ε}

/-- Nothing is attached to an entity that was only given its fields. -/
theorem Relates.populated (hr : m.Relates related) {k : ι} {qualifier : Option String} {e : ε}
    (h : m.populated k row qualifier = .ok e) (name : String) : related e name = none := by
  -- Giving a field its value attaches nothing.
  have hkeeps : Work.Keeps (fun e => related e name = none) (m.populate k row qualifier) := by
    refine Work.keeps_forM _ fun f _ e he => ?_
    rcases m.populateField_cases row qualifier f e with
      ⟨-, hexec⟩ | ⟨v, -, ⟨e', hset, hexec⟩ | ⟨error, -, hexec⟩⟩
    · rwa [hexec]
    · rw [hexec, hr.setValue _ _ _ _ hset]
      exact he
    · rwa [hexec]
  have hkept := hkeeps _ (hr.construct k name)
  rw [Model.populated] at h
  split at h
  · rename_i hexec
    rw [hexec] at hkept
    rwa [← Except.ok.inj h]
  · cases h

/-- Attaching leaves other relations alone. -/
theorem Relates.attachAll_of_notMem (hr : m.Relates related) {parts : List (Join ι × ε)}
    {own e : ε} (h : m.attachAll own parts = .ok e) {name : String}
    (hname : ∀ part ∈ parts, part.1.relation ≠ name) : related e name = related own name := by
  induction parts generalizing own with
  | nil => rw [Except.ok.inj h]
  | cons part parts ih =>
      obtain ⟨own', hattach, hrest⟩ := Result.bind_eq_ok.mp h
      rw [ih hrest fun other hother => hname other (by simp [hother]),
        hr.attach _ _ _ _ hattach, Function.update_of_ne (hname part (by simp)).symm]

/-- What is attached at different relations is found there. -/
theorem Relates.attachAll_of_mem (hr : m.Relates related) {parts : List (Join ι × ε)}
    {own e : ε} (h : m.attachAll own parts = .ok e)
    (hparts : parts.Pairwise fun part other => part.1.relation ≠ other.1.relation) :
    ∀ part ∈ parts, related e part.1.relation = some part.2 := by
  induction parts generalizing own with
  | nil => simp
  | cons first parts ih =>
      obtain ⟨hfirst, hparts⟩ := List.pairwise_cons.mp hparts
      obtain ⟨own', hattach, hrest⟩ := Result.bind_eq_ok.mp h
      intro part hpart
      rcases List.mem_cons.mp hpart with rfl | hpart
      · -- Nothing that comes later is attached at the same relation.
        rw [hr.attachAll_of_notMem hrest fun other hother => (hfirst other hother).symm,
          hr.attach _ _ _ _ hattach, Function.update_self]
      · exact ih hrest hparts part hpart

end Relates

/-! ### Paths -/

section Paths
variable {m : Model ι ε} {root : ι} {row : Row} {related : ε → String → Option ε}
  {maxDepth : Nat} {r : JoinRegistry ι}

/-- The joins at one place are of different relations. -/
theorem pairwise_matched (h : WellFormed m.schema root maxDepth r) (row : Row)
    (place : Option (Join ι)) :
    (m.matched row place r.joins.reverse).Pairwise fun j k => j.relation ≠ k.relation := by
  have hnodup : (m.matched row place r.joins.reverse).Nodup :=
    (List.nodup_reverse.mpr h.nodup).filter _
  refine hnodup.imp_of_mem fun hj hk hne hrelation => hne ?_
  obtain ⟨hj, hbase, -⟩ := mem_matched.mp hj
  obtain ⟨hk, hother, -⟩ := mem_matched.mp hk
  exact h.eq_of_relation (List.mem_reverse.mp hj) (List.mem_reverse.mp hk)
    (hbase.trans hother.symm) hrelation

/-- An entity of the graph has attached to it what its place has, at the
relations of the joins there. -/
theorem Assembled.related_eq (h : WellFormed m.schema root maxDepth r) (hr : m.Relates related)
    {place : Option (Join ι)} {e : ε} (he : Assembled m root row r.joins.reverse place e) :
    (∀ j ∈ m.matched row place r.joins.reverse,
        ∃ x, related e j.relation = some x ∧ Assembled m root row r.joins.reverse (some j) x) ∧
      ∀ name, (∀ j ∈ m.matched row place r.joins.reverse, j.relation ≠ name) →
        related e name = none := by
  cases he with
  | @intro _ own _ parts hown hjoins hparts hattach =>
      rw [← hjoins]
      refine ⟨fun j hj => ?_, fun name hname => ?_⟩
      -- Joins at one place are of different relations, so that each part is found.
      · obtain ⟨part, hpart, rfl⟩ := List.mem_map.mp hj
        have hapart := pairwise_matched h row place
        rw [← hjoins, List.pairwise_map] at hapart
        exact ⟨part.2, hr.attachAll_of_mem hattach hapart part hpart, hparts part hpart⟩
      · rw [hr.attachAll_of_notMem hattach fun part hpart =>
          hname part.1 (List.mem_map_of_mem hpart), hr.populated hown]

/-- A place is known by the relations that lead to it. -/
theorem place_eq (h : WellFormed m.schema root maxDepth r) {place other : Option (Join ι)}
    (hplace : ∀ j ∈ place, j ∈ r.joins) (hother : ∀ j ∈ other, j ∈ r.joins)
    (heq : segmentsUnder place = segmentsUnder other) : place = other := by
  refine h.base_unique hplace hother ?_
  -- The root has no segments, and every other place has some.
  cases place with
  | none =>
      cases other with
      | none => rfl
      | some k => exact absurd heq.symm (Criteria.splitPath_ne_nil k.identifier)
  | some j =>
      cases other with
      | none => exact absurd heq (Criteria.splitPath_ne_nil j.identifier)
      | some k =>
          have hidentifier : j.identifier = k.identifier := by
            rw [← Criteria.intercalate_splitPath j.identifier,
              ← Criteria.intercalate_splitPath k.identifier]
            exact congrArg (".".intercalate ·) heq
          simp [hidentifier]

/-- A join hangs off the place that the relations before its own lead
to. -/
theorem base_of_segments (h : WellFormed m.schema root maxDepth r) {place : Option (Join ι)}
    (hplace : ∀ j ∈ place, j ∈ r.joins) {j : Join ι} (hj : j ∈ r.joins) {name : String}
    (hpath : splitPath j.identifier = segmentsUnder place ++ [name]) :
    j.base = place.map (·.identifier) ∧ j.relation = name := by
  obtain ⟨base, segment, n, hs⟩ := h.stands j hj
  rw [hs.splitPath_identifier] at hpath
  obtain ⟨hbefore, hlast⟩ := List.append_inj' hpath rfl
  rw [hs.base_eq, place_eq h hs.base_mem hplace hbefore, hs.relation_eq.2]
  exact ⟨rfl, (List.cons.inj hlast).1⟩

/-- The last relation of a path leads on from the place before it. -/
theorem segments_of_base (h : WellFormed m.schema root maxDepth r) {place : Option (Join ι)}
    (hplace : ∀ j ∈ place, j ∈ r.joins) {j : Join ι} (hj : j ∈ r.joins)
    (hbase : j.base = place.map (·.identifier)) :
    splitPath j.identifier = segmentsUnder place ++ [j.relation] := by
  obtain ⟨base, segment, n, hs⟩ := h.stands j hj
  rw [hs.base_eq] at hbase
  rw [hs.splitPath_identifier, h.base_unique hs.base_mem hplace hbase, hs.relation_eq.2]

/-- Where the graph has an entity at the end of a path, the row has one
for every join along it, and that at the end is assembled. -/
theorem Assembled.holds (h : WellFormed m.schema root maxDepth r) (hr : m.Relates related)
    {e : ε} (he : Assembled m root row r.joins.reverse none e) (path : List String) {x : ε}
    (hx : path.foldlM related e = some x) :
    m.Reached row r path ∧ ∃ place : Option (Join ι), (∀ j ∈ place, j ∈ r.joins) ∧
      segmentsUnder place = path ∧ Assembled m root row r.joins.reverse place x := by
  induction path using List.reverseRecOn generalizing x with
  | nil =>
      obtain rfl := Option.some.inj hx
      refine ⟨fun start hne hstart => absurd (List.prefix_nil.mp hstart) hne, none, by simp, rfl,
        he⟩
  | append_singleton path name ih =>
      rw [List.foldlM_append] at hx
      obtain ⟨owner, howner, hlast⟩ := Option.bind_eq_some_iff.mp hx
      obtain ⟨hreached, place, hplace, hpath, howner⟩ := ih howner
      obtain ⟨hattached, hothers⟩ := howner.related_eq h hr
      have hrelated : related owner name = some x := by simpa using hlast
      -- One of the joins at the place is that of the last relation.
      obtain ⟨j, hj, rfl⟩ : ∃ j ∈ m.matched row place r.joins.reverse, j.relation = name := by
        by_contra hnone
        rw [hothers name fun j hj hname => hnone ⟨j, hj, hname⟩] at hrelated
        cases hrelated
      obtain ⟨y, hy, hassembled⟩ := hattached j hj
      obtain rfl : y = x := Option.some.inj (hy.symm.trans hrelated)
      obtain ⟨hj, hbase, hsome⟩ := mem_matched.mp hj
      rw [List.mem_reverse] at hj
      have hsegments : splitPath j.identifier = path ++ [j.relation] := by
        rw [segments_of_base h hplace hj hbase, hpath]
      refine ⟨fun start hne hstart => ?_, some j, by simpa using hj, hsegments, hassembled⟩
      rcases List.prefix_concat_iff.mp hstart with rfl | hstart
      · exact ⟨j, hj, hsegments, hsome⟩
      · exact hreached start hne hstart

/-- Where the row has an entity for every join along a path, the graph has
one at its end. -/
theorem Assembled.reached (h : WellFormed m.schema root maxDepth r) (hr : m.Relates related)
    {e : ε} (he : Assembled m root row r.joins.reverse none e) (path : List String)
    (hpath : m.Reached row r path) : ∃ x, path.foldlM related e = some x := by
  -- Over the path from its end: the last join hangs off what its start leads to.
  induction path using List.reverseRecOn with
  | nil => exact ⟨e, rfl⟩
  | append_singleton path name ih =>
      obtain ⟨owner, howner⟩ := ih fun start hne hstart =>
        hpath start hne (hstart.trans (List.prefix_append path [name]))
      obtain ⟨-, place, hplace, rfl, hassembled⟩ := he.holds h hr path howner
      obtain ⟨j, hj, hsegments, hsome⟩ := hpath _ (by simp) (List.prefix_refl _)
      obtain ⟨hbase, rfl⟩ := base_of_segments h hplace hj hsegments
      have hmatched : j ∈ m.matched row place r.joins.reverse :=
        mem_matched.mpr ⟨List.mem_reverse.mpr hj, hbase, hsome⟩
      obtain ⟨x, hx, -⟩ := (hassembled.related_eq h hr).1 j hmatched
      refine ⟨x, ?_⟩
      rw [List.foldlM_append, howner]
      simpa using hx

end Paths

/-! ### Rows of a find -/

/-- The entities of a row of a find, which has the columns of a criteria
in order, are the graph that the criteria fetches. -/
structure Rebuilds (m : Model ι ε) (c : Criteria ι) (row : Row) : Prop where
  /-- No two columns have the same label. -/
  labels : ((c.projection m.schema).map (·.text)).Nodup
  /-- Every column has its value at its place. -/
  values : ∀ ref ∈ c.projection m.schema,
    (ref, row.projected (c.projection m.schema) ref) ∈ (c.projection m.schema).zip row.values
  /-- An entity is given those values for its fields, except nulls. -/
  reads : ∀ table ∈ c.tables, m.populate table.2 row (some table.1.text)
    = (m.schema table.2).fields.forM fun f =>
        m.assign f (row.projected (c.projection m.schema) ⟨table.1, f.column⟩)
  /-- It fails only if an entity refuses a value or another entity. -/
  refused : ∀ error, m.mapRow c.root c.joins row = .error error →
    (∃ table ∈ c.tables, ∃ f ∈ (m.schema table.2).fields, ∃ owner,
      m.setValue f.name
        ((row.projected (c.projection m.schema) ⟨table.1, f.column⟩).coerce f.kind) owner
          = .error error) ∨
    ∃ j ∈ c.joins.joins, ∃ e owner, m.attach j.relation e owner = .error error
  /-- No join comes twice. -/
  once : c.joins.joins.Nodup
  /-- Each entity is attached to that of its base, with all its own. -/
  assembled : ∀ e, m.mapRow c.root c.joins row = .ok e →
    m.Assembled c.root row c.joins.joins.reverse none e
  /-- There is an entity at a path if the row has one for every join along
  it, and only then. -/
  reached : ∀ e, m.mapRow c.root c.joins row = .ok e → ∀ related, m.Relates related →
    ∀ path : List String, (path.foldlM related e).isSome ↔ m.Reached row c.joins path
  /-- What is at the path of a join is the entity assembled for it. -/
  holds : ∀ e, m.mapRow c.root c.joins row = .ok e → ∀ related, m.Relates related →
    ∀ j ∈ c.joins.joins, ∀ x, (splitPath j.identifier).foldlM related e = some x →
      m.Assembled c.root row c.joins.joins.reverse (some j) x

/-- A row is refused by an entity that refuses a value, or by one that
refuses another. -/
theorem mapRow_error {m : Model ι ε} {c : Criteria ι} {row : Row} {error : Error}
    (h : m.mapRow c.root c.joins row = .error error) :
    (∃ table ∈ c.tables, m.populated table.2 row (some table.1.text) = .error error) ∨
      ∃ j ∈ c.joins.joins, ∃ e owner, m.attach j.relation e owner = .error error := by
  rcases Result.bind_eq_error.mp h with h | ⟨top, -, h⟩
  · exact Or.inl ⟨(.main, c.root), by simp [Criteria.tables], h⟩
  rcases Result.bind_eq_error.mp h with h | ⟨found, -, h⟩
  · obtain ⟨j, hj, herror⟩ := joined_error h
    refine Or.inl ⟨(j.tableAlias, j.target), ?_, herror⟩
    exact List.mem_cons_of_mem _ (List.mem_map.mpr ⟨j, hj, rfl⟩)
  · obtain ⟨j, hj, e, owner, herror⟩ := settle_error h
    exact Or.inr ⟨j, List.mem_reverse.mp hj, e, owner, herror⟩

/-- With a well-formed registry and valid tables, a row is rebuilt. -/
theorem rebuilds_of_wellFormed {m : Model ι ε} {c : Criteria ι} {maxDepth : Nat}
    (h : WellFormed m.schema c.root maxDepth c.joins)
    (hvalid : ∀ table ∈ c.tables, (m.schema table.2).validate = .ok ()) {row : Row}
    (hrow : row.columns = (c.projection m.schema).map (·.text)) : m.Rebuilds c row where
  labels := Criteria.nodup_labels h hvalid
  values _ := Row.projected_mem hrow
  reads _ := m.populate_eq hrow
  refused error herror := by
    refine (mapRow_error herror).imp_left fun ⟨table, htable, hpopulated⟩ => ?_
    obtain ⟨f, hf, v, owner, hv, hset⟩ := populated_error hpopulated
    refine ⟨table, htable, f, hf, owner, ?_⟩
    rw [columnValue?_eq hrow (Criteria.mem_projection htable hf)] at hv
    split at hv
    · cases hv
    · rwa [Option.some.inj hv]
  once := h.nodup
  assembled _ := mapRow_assembled h
  reached e he related hr path := by
    have hassembled := mapRow_assembled h he
    rw [Option.isSome_iff_exists]
    exact ⟨fun ⟨x, hx⟩ => (hassembled.holds h hr path hx).1, hassembled.reached h hr path⟩
  holds e he related hr j hj x hx := by
    obtain ⟨-, place, hplace, hpath, hplaced⟩ := (mapRow_assembled h he).holds h hr _ hx
    have hsame : place = some j := place_eq h hplace (by simpa using hj) hpath
    rwa [hsame] at hplaced

end Model

/-- Whatever was fetched and whatever failed on the way: a row with the
columns of the find is mapped to the graph of what was fetched and
found. -/
theorem Criteria.run_rebuilds {ι ε : Type} (m : Model ι ε) (root : ι) (settings : QuerySettings)
    (changes : List Change) (hpaths : ∀ change ∈ changes, change.OnPaths DotFree)
    (hvalid : ∀ table ∈ (run m.schema (new root settings) changes).tables,
      (m.schema table.2).validate = .ok ())
    (row : Row)
    (hrow : row.columns
      = ((run m.schema (new root settings) changes).projection m.schema).map (·.text)) :
    m.Rebuilds (run m.schema (new root settings) changes) row := by
  have hsound := run_sound_wellFormed m.schema root settings hpaths
  generalize run m.schema (new root settings) changes = c at *
  obtain rfl := hsound.root_eq
  exact Model.rebuilds_of_wellFormed hsound.joins hvalid hrow

/-! ### Records -/

/-- What was attached to a record last is found at its relation. -/
theorem Record.lookup_insertNamed {α : Type} (name : String) (a : α) (items : List (String × α)) :
    (fun other => (insertNamed name a items).lookup other)
      = Function.update (fun other => items.lookup other) name (some a) := by
  funext other
  -- At the name itself the new item is found, elsewhere what was there.
  by_cases hother : other = name
  · subst hother
    rw [Function.update_self]
    induction items with
    | nil => simp [insertNamed]
    | cons item items ih =>
        obtain ⟨n, b⟩ := item
        rw [insertNamed]
        split
        · simp
        · rename_i hne
          simp [List.lookup_cons, beq_eq_false_iff_ne.mpr (Ne.symm hne), ih]
  · rw [Function.update_of_ne hother]
    induction items with
    | nil => simp [insertNamed, List.lookup_cons, beq_eq_false_iff_ne.mpr hother]
    | cons item items ih =>
        obtain ⟨n, b⟩ := item
        rw [insertNamed]
        split
        · rename_i hhere
          simp [List.lookup_cons, hhere, beq_eq_false_iff_ne.mpr hother]
        · simp [List.lookup_cons, ih]

/-- The records attached to a record are what its model attached. -/
theorem Record.relates {ι : Type} [DecidableEq ι] (types : ι → RecordType ι) :
    (Record.model types).Relates fun r name => r.related.lookup name where
  construct _ _ := rfl
  setValue field v r r' h := by
    obtain ⟨f, -, h⟩ := Result.bind_eq_ok.mp h
    obtain ⟨w, -, h⟩ := Result.bind_eq_ok.mp h
    rw [← Except.ok.inj h]
    rfl
  attach name other r r' h := by
    -- Only a relation of the type can be attached at.
    have hrun : Record.attach types name other r = .ok r' := h
    rw [Record.attach] at hrun
    split at hrun
    · cases hrun
    split at hrun
    · rw [← Except.ok.inj hrun]
      exact Record.lookup_insertNamed name other r.related
    · cases hrun

namespace Criteria

/-- People as records, with their bosses and mentors. -/
def personType : RecordType Unit := ⟨people (), [], [some (), some ()]⟩

/-- Someone with a boss whose mentor is known too. There is no mentor, and
what the columns of the mentor's boss hold is of no use. -/
def personRow : Row :=
  .of (((run people (new ()) [.fetch "boss.mentor", .fetch "mentor.boss"]).projection
      people).map (·.text))
    ([some 1, some 2, none, some 2, none, some 3, some 3, none, none, none, none, some 4,
      some 4, none, none].map fun key => (key.map Value.int64).getD .null)

/-- The boss comes with a mentor; the mentor, who was not found, is left
out with all that was fetched through it. -/
theorem run_rebuilds_people :
    let m := Record.model fun _ : Unit => personType
    let c := run people (new ()) [.fetch "boss.mentor", .fetch "mentor.boss"]
    m.Rebuilds c personRow ∧ m.Relates (fun r name => r.related.lookup name) ∧
      (m.mapRow c.root c.joins personRow).toOption.map (fun (r : Record Unit) =>
          [["boss"], ["boss", "mentor"], ["mentor"], ["mentor", "boss"]].map fun path =>
            (path.foldlM (fun (r : Record Unit) name => r.related.lookup name) r).isSome)
        = some [true, true, false, false] := by
  refine ⟨?_, Record.relates _, by decide +kernel⟩
  -- The row has the columns of the find in their order.
  refine run_rebuilds (Record.model fun _ : Unit => personType) () {}
    [.fetch "boss.mentor", .fetch "mentor.boss"] (by simp [Change.OnPaths]) ?_ personRow ?_
  · exact fun table _ => rfl
  · decide +kernel

end Criteria

end DataAccess
