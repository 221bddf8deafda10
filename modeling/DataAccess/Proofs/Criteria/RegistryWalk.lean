import DataAccess.Proofs.Criteria.Reference
import DataAccess.Proofs.Schema.Walk

/-!
# `DataAccess.Proofs.Criteria.RegistryWalk`: joins and the walks of a schema

A join of a registry is made once, from what the schema declares then,
and is found again without another look at the schema. That this makes no
difference is shown here: the join of a path is the one that the walk of
the path through the schema prescribes, whoever asked for it first
(`WellFormed.prescribed`).

So a path can be resolved if and only if it is short enough, has no empty
relation, and is a walk (`resolve_ok_iff`), whether or not joins of it
are there. What is registered afterwards are the paths that were there,
and the parts at the start of the new one (`mem_paths_resolve`).
-/

set_option autoImplicit false

namespace DataAccess.JoinRegistry

open Criteria (splitPath DotFree)

variable {ι : Type} {schema : Schema ι} {root : ι} {maxDepth : Nat} {r r' : JoinRegistry ι}

/-! ### The paths of a registry -/

/-- The paths that have a join. -/
def paths (r : JoinRegistry ι) : List (List String) :=
  r.joins.map fun j => splitPath j.identifier

/-- The alias of the table at the end of a path: that of the root, or
that of the join of the path. -/
def aliasAt? (r : JoinRegistry ι) : List String → Option Alias
  | [] => some .main
  | segment :: path => (r.get? (".".intercalate (segment :: path))).map (·.tableAlias)

/-- The join `j` is what the schema prescribes for the path `path` and
the relation `segment` after it: its type and columns are those of that
leg of the walk, and it hangs off the table at the end of `path`. -/
def Prescribed (schema : Schema ι) (root : ι) (r : JoinRegistry ι) (path : List String)
    (segment : String) (j : Join ι) : Prop :=
  ∃ kind relation field identity, schema.Walk root path kind ∧
    schema.Leg kind segment relation field identity ∧ j.relation = segment ∧
    j.target = relation.target ∧ j.idColumn = identity.column ∧
    j.baseColumn = field.column ∧ r.aliasAt? path = some j.baseAlias

/-- The paths of a registry are those that its identifiers spell. -/
theorem mem_paths {path : List String} :
    path ∈ r.paths ↔ ∃ j ∈ r.joins, splitPath j.identifier = path :=
  List.mem_map

/-- Registered paths stay registered. -/
theorem Extends.paths_subset (h : r.Extends r') : r.paths ⊆ r'.paths := by
  intro path hpath
  obtain ⟨j, hj, rfl⟩ := mem_paths.mp hpath
  obtain ⟨k, hk, hjk⟩ := h j hj
  refine mem_paths.mpr ⟨k, hk, ?_⟩
  rw [hjk]

/-- The parts at the start of a registered path are registered, too. -/
theorem WellFormed.mem_paths_of_prefix (h : WellFormed schema root maxDepth r)
    {path part : List String} (hpath : path ∈ r.paths) (hne : part ≠ [])
    (hstart : part <+: path) : part ∈ r.paths := by
  obtain ⟨j, hj, rfl⟩ := mem_paths.mp hpath
  obtain ⟨k, hk, hid⟩ := h.closed j hj part hne hstart
  refine mem_paths.mpr ⟨k, hk, ?_⟩
  rw [hid, Criteria.splitPath_intercalate
    (fun s hs => Criteria.dotFree_splitPath j.identifier s (hstart.subset hs)) hne]

/-- A join is found by its identifier. -/
theorem WellFormed.get?_eq_some_iff (h : WellFormed schema root maxDepth r) {j : Join ι}
    {identifier : String} :
    r.get? identifier = some j ↔ j ∈ r.joins ∧ j.identifier = identifier := by
  refine ⟨get?_eq_some, fun ⟨hj, hid⟩ => ?_⟩
  cases hget : r.get? identifier with
  | none => exact absurd hid (get?_eq_none hget j hj)
  | some k =>
      obtain ⟨hk, hkid⟩ := get?_eq_some hget
      rw [h.eq_of_identifier hk hj (hkid.trans hid.symm)]

/-- The alias at the path of a join is the join's own. -/
theorem WellFormed.aliasAt?_splitPath (h : WellFormed schema root maxDepth r) {j : Join ι}
    (hj : j ∈ r.joins) : r.aliasAt? (splitPath j.identifier) = some j.tableAlias := by
  have hget : (r.get? (".".intercalate (splitPath j.identifier))).map (·.tableAlias)
      = some j.tableAlias := by
    rw [Criteria.intercalate_splitPath, h.get?_eq_some_iff.mpr ⟨hj, rfl⟩, Option.map_some]
  cases hpath : splitPath j.identifier with
  | nil => exact absurd hpath (Criteria.splitPath_ne_nil _)
  | cons segment path => rwa [hpath] at hget

/-! ### Joins stand for walks -/

/-- To follow a relation is to be made of a leg of the type. -/
theorem follows_iff {kind : ι} {segment : String} {j : Join ι} :
    Follows schema kind segment j ↔ ∃ relation field identity,
      schema.Leg kind segment relation field identity ∧ j.relation = relation.name ∧
      j.target = relation.target ∧ j.idColumn = identity.column ∧
      j.baseColumn = field.column := by
  constructor
  · rintro ⟨relation, identity, hrelation, hidentity, hcolumn, hname, htarget, hid⟩
    obtain ⟨field, hfield, hbase⟩ := Declaration.columnName_eq_ok.mp hcolumn
    have hleg : schema.Leg kind segment relation field identity :=
      ⟨Declaration.relation_eq_ok.mp hrelation, hfield,
        Declaration.identityField_eq_ok.mp hidentity⟩
    exact ⟨relation, field, identity, hleg, hname, htarget, hid, hbase.symm⟩
  · rintro ⟨relation, field, identity, hleg, hname, htarget, hid, hbase⟩
    exact ⟨relation, identity, Declaration.relation_eq_ok.mpr hleg.named,
      Declaration.identityField_eq_ok.mpr hleg.identified,
      Declaration.columnName_eq_ok.mpr ⟨field, hleg.joined, hbase.symm⟩, hname, htarget, hid⟩

/-- The path of a join leads to its type. -/
theorem WellFormed.walk (h : WellFormed schema root maxDepth r) :
    ∀ j ∈ r.joins, schema.Walk root (splitPath j.identifier) j.target := by
  refine h.induction fun j _ base segment n hs hbase => ?_
  obtain ⟨relation, field, identity, hleg, -, htarget, -⟩ := follows_iff.mp hs.follows
  rw [hs.splitPath_identifier, htarget]
  cases base with
  | none => exact .next hleg (.here _)
  | some b => exact (hbase b rfl).snoc hleg

/-- The path of a base leads from the root to its target. -/
theorem WellFormed.walk_under (h : WellFormed schema root maxDepth r) {base : Option (Join ι)}
    (hbase : ∀ b ∈ base, b ∈ r.joins) :
    schema.Walk root (segmentsUnder base) (targetUnder root base) := by
  cases base with
  | none => exact .here root
  | some b => exact h.walk b (hbase b rfl)

/-- The alias at the path of a base is the base's own. -/
theorem WellFormed.aliasAt?_under (h : WellFormed schema root maxDepth r)
    {base : Option (Join ι)} (hbase : ∀ b ∈ base, b ∈ r.joins) :
    r.aliasAt? (segmentsUnder base) = some (aliasUnder base) := by
  cases base with
  | none => rfl
  | some b => exact h.aliasAt?_splitPath (hbase b rfl)

/-- The walk of its path prescribes what a join is. -/
theorem WellFormed.prescribed (h : WellFormed schema root maxDepth r) {j : Join ι}
    (hj : j ∈ r.joins) {path : List String} {segment : String}
    (hpath : splitPath j.identifier = path ++ [segment]) :
    Prescribed schema root r path segment j := by
  obtain ⟨base, segment', n, hs⟩ := h.stands j hj
  -- The base and the last relation are read off the path.
  rw [hs.splitPath_identifier] at hpath
  obtain ⟨rfl, hsegment⟩ := List.append_inj' hpath rfl
  obtain rfl : segment' = segment := List.singleton_inj.mp hsegment
  obtain ⟨relation, field, identity, hleg, hname, htarget, hid, hcolumn⟩ :=
    follows_iff.mp hs.follows
  refine ⟨_, relation, field, identity, h.walk_under hs.base_mem, hleg, ?_, htarget, hid,
    hcolumn, ?_⟩
  · rw [hname, hleg.name_eq]
  · rw [h.aliasAt?_under hs.base_mem, hs.baseAlias]

/-! ### When a path can be resolved -/

/-- A join can be made if the schema declares the relation. -/
theorem create_ok_of_leg {base : Option (Join ι)} {segment : String} {relation : Relation ι}
    {field identity : Field}
    (hleg : schema.Leg (targetUnder root base) segment relation field identity)
    (identifier : String) (depth : Nat) (r : JoinRegistry ι) :
    ∃ j r', (create schema root base identifier depth segment).exec r = (.ok j, r') := by
  have hrelation := Declaration.relation_eq_ok.mpr hleg.named
  have hidentity := Declaration.identityField_eq_ok.mpr hleg.identified
  have hcolumn := Declaration.columnName_eq_ok.mpr ⟨field, hleg.joined, rfl⟩
  rw [targetUnder] at hrelation hcolumn
  simp only [create, Work.exec_bind, Work.exec_ofResult, Work.exec_get, hrelation, hidentity,
    hcolumn, Work.exec_set, Work.exec_pure]
  exact ⟨_, _, rfl⟩

/-- The join of a step follows a relation of the type that it hangs
off. -/
theorem step_follows (h : WellFormed schema root maxDepth r) {base : Option (Join ι)}
    (hbase : ∀ b ∈ base, b ∈ r.joins) {segment : String} (hdot : '.' ∉ segment.toList)
    {depth : Nat} {j : Join ι} (hok : (step schema root base depth segment).exec r = (.ok j, r')) :
    Follows schema (targetUnder root base) segment j := by
  -- A step fails, finds a join, or makes one.
  rcases step_cases schema root base depth segment r with
    ⟨e, he⟩ | ⟨k, hk, hmem, hid⟩ | ⟨k, hk, hmade, -⟩
  · cases hok.symm.trans he
  · -- A join that was there stands under the base that its identifier tells.
    obtain rfl : j = k := Except.ok.inj (congrArg Prod.fst (hok.symm.trans hk))
    obtain ⟨other, segment', n, hs⟩ := h.stands j hmem
    have hpath := hs.splitPath_identifier
    rw [hid, splitPath_identifierUnder base hdot] at hpath
    obtain ⟨hunder, hsegment⟩ := List.append_inj' hpath rfl
    obtain rfl : segment = segment' := List.singleton_inj.mp hsegment
    have htarget : targetUnder root base = targetUnder root other := by
      have hwalk := h.walk_under hbase
      rw [hunder] at hwalk
      exact hwalk.unique (h.walk_under hs.base_mem)
    rw [htarget]
    exact hs.follows
  · obtain rfl : j = k := Except.ok.inj (congrArg Prod.fst (hok.symm.trans hk))
    exact hmade.follows

/-- A step can be made if and only if the schema declares the relation,
whether or not its join is there. -/
theorem step_ok_iff (h : WellFormed schema root maxDepth r) {base : Option (Join ι)}
    (hbase : ∀ b ∈ base, b ∈ r.joins) {segment : String} (hdot : '.' ∉ segment.toList)
    (depth : Nat) :
    (∃ j r', (step schema root base depth segment).exec r = (.ok j, r')) ↔
      ∃ relation field identity,
        schema.Leg (targetUnder root base) segment relation field identity := by
  constructor
  · rintro ⟨j, r', hok⟩
    obtain ⟨relation, field, identity, hleg, -⟩ := follows_iff.mp (step_follows h hbase hdot hok)
    exact ⟨relation, field, identity, hleg⟩
  · rintro ⟨relation, field, identity, hleg⟩
    cases hget : r.get? (identifierUnder base segment) with
    | some j => exact ⟨j, r, step_found hget schema root depth⟩
    | none =>
        rw [step_missing hget]
        exact create_ok_of_leg hleg _ depth r

/-- What a step leaves behind if it can be made: a tree of joins, with
its join in it. -/
theorem step_leads (h : WellFormed schema root maxDepth r) {base : Option (Join ι)}
    (hbase : ∀ b ∈ base, b ∈ r.joins) {segment : String} (hdot : '.' ∉ segment.toList)
    (hdepth : depthUnder base < maxDepth) {j : Join ι}
    (hok : (step schema root base (depthUnder base) segment).exec r = (.ok j, r')) :
    WellFormed schema root maxDepth r' ∧ (∀ b ∈ some j, b ∈ r'.joins) ∧
      j.depth = depthUnder base := by
  rcases step_spec h base (depthUnder base) segment hbase hdot rfl hdepth with
    ⟨e, he⟩ | ⟨k, t, hk, ht, hmem, hkdepth⟩
  · cases hok.symm.trans he
  · obtain ⟨rfl, rfl⟩ : j = k ∧ r' = t := by simpa using hok.symm.trans hk
    exact ⟨ht, by simpa using hmem, hkdepth⟩

/-- The join of one relation after the base, and then those of a path
from there. -/
def follow (schema : Schema ι) (root : ι) (base : Option (Join ι)) (depth : Nat)
    (segment : String) (path : List String) : Work (JoinRegistry ι) (Join ι) := do
  let join ← step schema root base depth segment
  JoinRegistry.walk schema root join (depth + 1) path

/-- Going on from a join is following the path from there. -/
theorem walk_cons (j : Join ι) (depth : Nat) (segment : String) (path : List String) :
    JoinRegistry.walk schema root j depth (segment :: path)
      = follow schema root (some j) depth segment path :=
  rfl

/-- A path that can be resolved is not empty, has no empty relation and
is not too long. The rest is following it from the root. -/
theorem exec_resolve_eq_ok {path : List String} {j : Join ι} :
    (resolve schema root maxDepth path).exec r = (.ok j, r') ↔
      "" ∉ path ∧ path.length ≤ maxDepth ∧ ∃ segment rest,
        path = segment :: rest ∧ (follow schema root none 0 segment rest).exec r = (.ok j, r') := by
  have hempty : path.any String.isEmpty = true ↔ "" ∈ path := by simp
  unfold resolve
  -- The guards are read in the order in which `resolve` makes them.
  split
  · rename_i hany
    exact ⟨(nomatch ·), fun hok => absurd (hempty.mp hany) hok.1⟩
  · rename_i hany
    split
    · rename_i hlong
      exact ⟨(nomatch ·), fun hok => absurd hok.2.1 (not_le.mpr hlong)⟩
    · rename_i hshort
      cases path with
      | nil => exact ⟨(nomatch ·), fun ⟨_, _, _, _, hnil, _⟩ => nomatch hnil⟩
      | cons segment rest =>
          refine ⟨fun hok => ⟨mt hempty.mpr hany, not_lt.mp hshort, segment, rest, rfl, hok⟩, ?_⟩
          rintro ⟨-, -, _, _, heq, hok⟩
          obtain ⟨rfl, rfl⟩ := List.cons.inj heq
          exact hok

/-- A path can be followed from a base that is there if and only if it
leads somewhere from the type of the base. -/
theorem follow_ok_iff {r : JoinRegistry ι} {path : List String} {segment : String}
    {base : Option (Join ι)} (h : WellFormed schema root maxDepth r)
    (hbase : ∀ b ∈ base, b ∈ r.joins) (hdot : DotFree (segment :: path))
    (hdepth : depthUnder base + path.length < maxDepth) :
    (∃ j r', (follow schema root base (depthUnder base) segment path).exec r = (.ok j, r')) ↔
      ∃ last, schema.Walk (targetUnder root base) (segment :: path) last := by
  have hsegment : '.' ∉ segment.toList := hdot segment (by simp)
  -- After the first step what is left of the path is followed from its join.
  have hrest : ∀ {k t}, (step schema root base (depthUnder base) segment).exec r = (.ok k, t) →
      ((∃ j r', (JoinRegistry.walk schema root k (depthUnder base + 1) path).exec t = (.ok j, r'))
        ↔ ∃ last, schema.Walk k.target path last) := by
    intro k t hstep
    obtain ⟨ht, hk, hkdepth⟩ := step_leads h hbase hsegment (by omega) hstep
    cases path with
    | nil => exact ⟨fun _ => ⟨_, .here _⟩, fun _ => ⟨k, t, rfl⟩⟩
    | cons next path =>
        rw [walk_cons, ← hkdepth]
        refine follow_ok_iff ht hk (fun s hs => hdot s (List.mem_cons_of_mem _ hs)) ?_
        rw [List.length_cons] at hdepth
        show k.depth + 1 + path.length < maxDepth
        omega
  constructor
  · rintro ⟨j, r', hok⟩
    obtain ⟨k, t, hstep, hwalk⟩ := Work.exec_bind_eq_ok.mp hok
    obtain ⟨last, hlast⟩ := (hrest hstep).mp ⟨j, r', hwalk⟩
    obtain ⟨relation, field, identity, hleg, -, htarget, -⟩ :=
      follows_iff.mp (step_follows h hbase hsegment hstep)
    rw [htarget] at hlast
    exact ⟨last, .next hleg hlast⟩
  · rintro ⟨last, hlast⟩
    cases hlast with
    | @next _ _ _ _ relation field identity hleg htail =>
        obtain ⟨k, t, hstep⟩ := (step_ok_iff h hbase hsegment (depthUnder base)).mpr
          ⟨relation, field, identity, hleg⟩
        -- The join of the step follows the leg that the walk begins with.
        obtain ⟨relation', field', identity', hleg', -, htarget, -⟩ :=
          follows_iff.mp (step_follows h hbase hsegment hstep)
        obtain ⟨rfl, -, -⟩ := hleg.unique hleg'
        rw [← htarget] at htail
        obtain ⟨j, r', hwalk⟩ := (hrest hstep).mpr ⟨last, htail⟩
        exact ⟨j, r', Work.exec_bind_eq_ok.mpr ⟨k, t, hstep, hwalk⟩⟩
termination_by path.length

/-- A path can be resolved if and only if it has a relation, has no empty
one and no more than are allowed, and leads somewhere from the root. -/
theorem resolve_ok_iff (h : WellFormed schema root maxDepth r) {path : List String}
    (hdot : DotFree path) :
    (∃ j r', (resolve schema root maxDepth path).exec r = (.ok j, r')) ↔
      path ≠ [] ∧ path.length ≤ maxDepth ∧ "" ∉ path ∧ ∃ last, schema.Walk root path last := by
  simp only [exec_resolve_eq_ok]
  -- With a relation at its start a path is followed from the root.
  cases path with
  | nil => simp
  | cons segment path =>
      have hfollow : path.length < maxDepth → _ := fun hlength =>
        follow_ok_iff h (show ∀ b ∈ (none : Option (Join ι)), b ∈ r.joins by simp) hdot
          (by simpa [depthUnder] using hlength)
      constructor
      · rintro ⟨j, r', hsegments, hlength, s, rest, heq, hok⟩
        obtain ⟨rfl, rfl⟩ := List.cons.inj heq
        exact ⟨by simp, hlength, hsegments, (hfollow hlength).mp ⟨j, r', hok⟩⟩
      · rintro ⟨-, hlength, hsegments, hwalk⟩
        obtain ⟨j, r', hok⟩ := (hfollow hlength).mpr hwalk
        exact ⟨j, r', hsegments, hlength, segment, path, rfl, hok⟩

/-! ### What is registered afterwards -/

/-- A step registers its own path at most, also if it fails. -/
theorem mem_paths_step {base : Option (Join ι)} {depth : Nat} {segment : String}
    (hdot : '.' ∉ segment.toList) {part : List String}
    (hpart : part ∈ ((step schema root base depth segment).exec r).2.paths) :
    part ∈ r.paths ∨ part = segmentsUnder base ++ [segment] := by
  -- Only a join that is made adds a path, and it is its own.
  rcases step_cases schema root base depth segment r with
    ⟨e, he⟩ | ⟨k, hk, -⟩ | ⟨k, hk, hmade, -⟩
  · rw [he] at hpart
    exact Or.inl hpart
  · rw [hk] at hpart
    exact Or.inl hpart
  · rw [hk] at hpart
    obtain ⟨l, hl, rfl⟩ := mem_paths.mp hpart
    rcases mem_grow.mp hl with rfl | ⟨m, hm, rfl⟩
    · rw [hmade.identifier_eq, splitPath_identifierUnder base hdot]
      exact Or.inr rfl
    · exact Or.inl (mem_paths.mpr ⟨m, hm, by rw [bump_eq]⟩)

/-- Following a path registers parts at its start at most, also if it
fails. -/
theorem mem_paths_follow {r : JoinRegistry ι} {path : List String} {segment : String}
    {base : Option (Join ι)} {depth : Nat} (hdot : DotFree (segment :: path))
    {part : List String}
    (hpart : part ∈ ((follow schema root base depth segment path).exec r).2.paths) :
    part ∈ r.paths ∨ part ≠ [] ∧ part <+: segmentsUnder base ++ segment :: path := by
  have hsegment : '.' ∉ segment.toList := hdot segment (by simp)
  -- The path of the first step is a part at the start.
  have hfirst : part ∈ ((step schema root base depth segment).exec r).2.paths →
      part ∈ r.paths ∨ part ≠ [] ∧ part <+: segmentsUnder base ++ segment :: path := by
    refine fun hstep => (mem_paths_step hsegment hstep).imp_right ?_
    rintro rfl
    exact ⟨by simp, (List.prefix_append_right_inj _).mpr (by simp)⟩
  rcases hstep : (step schema root base depth segment).exec r with ⟨e | k, t⟩ <;>
    rw [hstep] at hfirst
  · rw [follow, Work.exec_bind_error hstep] at hpart
    exact hfirst hpart
  rw [follow, Work.exec_bind_ok hstep] at hpart
  cases path with
  | nil => exact hfirst hpart
  | cons next path =>
      rw [walk_cons] at hpart
      rcases mem_paths_follow (fun s hs => hdot s (List.mem_cons_of_mem _ hs)) hpart with
        hold | ⟨hne, hstart⟩
      · exact hfirst hold
      · rw [segmentsUnder, (step_ok hstep).2, splitPath_identifierUnder base hsegment,
          List.append_assoc, List.singleton_append] at hstart
        exact Or.inr ⟨hne, hstart⟩
termination_by path.length

/-- Resolving a path registers parts at its start at most, also if it
fails, and nothing if a relation of it is empty. -/
theorem mem_paths_of_resolve {path : List String} (hdot : DotFree path) {part : List String}
    (hpart : part ∈ ((resolve schema root maxDepth path).exec r).2.paths) :
    part ∈ r.paths ∨ part ≠ [] ∧ part <+: path ∧ "" ∉ path := by
  unfold resolve at hpart
  split at hpart
  · exact Or.inl hpart
  -- A path that gets past the guards has no empty relation.
  rename_i hany
  split at hpart
  · exact Or.inl hpart
  have hsegments : "" ∉ path := by simpa using hany
  cases path with
  | nil => exact Or.inl hpart
  | cons segment rest =>
      exact (mem_paths_follow hdot hpart).imp_right
        fun ⟨hne, hstart⟩ => ⟨hne, hstart, hsegments⟩

/-- Resolving a path registers it with all parts at its start, next to
the paths that were there. -/
theorem mem_paths_resolve (h : WellFormed schema root maxDepth r) {path : List String}
    (hdot : DotFree path) {j : Join ι}
    (hok : (resolve schema root maxDepth path).exec r = (.ok j, r')) {part : List String} :
    part ∈ r'.paths ↔ part ∈ r.paths ∨ part ≠ [] ∧ part <+: path := by
  have hleft : r' = ((resolve schema root maxDepth path).exec r).2 := by rw [hok]
  constructor
  · intro hpart
    rw [hleft] at hpart
    exact (mem_paths_of_resolve hdot hpart).imp_right fun hnew => ⟨hnew.1, hnew.2.1⟩
  -- Nothing that was registered is lost.
  · rintro (hold | ⟨hne, hstart⟩)
    · have hext := resolve_extends schema root maxDepth path r (Extends.refl r)
      rw [← hleft] at hext
      exact hext.paths_subset hold
    · -- The join of the whole path is there, and so are those of its parts.
      have hwell := resolve_wellFormed hdot r h
      rw [← hleft] at hwell
      exact hwell.mem_paths_of_prefix (mem_paths.mpr ⟨j, resolve_ok hdot hok⟩) hne hstart

/-! ### Paths that are registered already -/

/-- A step to a path that is registered finds its join. -/
theorem step_registered (h : WellFormed schema root maxDepth r) {base : Option (Join ι)}
    {segment : String} (hdot : '.' ∉ segment.toList)
    (hmem : segmentsUnder base ++ [segment] ∈ r.paths) (depth : Nat) :
    ∃ j, (step schema root base depth segment).exec r = (.ok j, r) ∧
      splitPath j.identifier = segmentsUnder base ++ [segment] := by
  obtain ⟨j, hj, hpath⟩ := mem_paths.mp hmem
  have hid : j.identifier = identifierUnder base segment := by
    rw [← Criteria.intercalate_splitPath j.identifier, hpath,
      ← splitPath_identifierUnder base hdot, Criteria.intercalate_splitPath]
  exact ⟨j, step_found (h.get?_eq_some_iff.mpr ⟨hj, hid⟩) schema root depth, hpath⟩

/-- A path that is registered is followed without any change. -/
theorem follow_registered (h : WellFormed schema root maxDepth r) {path : List String}
    {segment : String} {base : Option (Join ι)} (hdot : DotFree (segment :: path))
    (hmem : segmentsUnder base ++ segment :: path ∈ r.paths) (depth : Nat) :
    ∃ j, (follow schema root base depth segment path).exec r = (.ok j, r) := by
  induction path generalizing segment base depth with
  | nil =>
      obtain ⟨k, hstep, -⟩ := step_registered h (hdot segment (by simp)) hmem depth
      exact ⟨k, Work.exec_bind_eq_ok.mpr ⟨k, r, hstep, rfl⟩⟩
  | cons next path ih =>
      have hfirst : segmentsUnder base ++ [segment] ∈ r.paths :=
        h.mem_paths_of_prefix hmem (by simp) ((List.prefix_append_right_inj _).mpr (by simp))
      obtain ⟨k, hstep, hpath⟩ := step_registered h (hdot segment (by simp)) hfirst depth
      -- What is left of the path goes on from the join that was found.
      have hrest : segmentsUnder (some k) ++ next :: path ∈ r.paths := by
        rwa [segmentsUnder, hpath, List.append_assoc, List.singleton_append]
      obtain ⟨j, hwalk⟩ := ih (fun s hs => hdot s (List.mem_cons_of_mem _ hs)) hrest (depth + 1)
      exact ⟨j, Work.exec_bind_eq_ok.mpr ⟨k, r, hstep, hwalk⟩⟩

/-- Resolving a path that is registered changes nothing. -/
theorem resolve_registered (h : WellFormed schema root maxDepth r) {path : List String}
    (hempty : "" ∉ path) (hmem : path ∈ r.paths) :
    ∃ j, (resolve schema root maxDepth path).exec r = (.ok j, r) := by
  obtain ⟨j, hj, hpath⟩ := mem_paths.mp hmem
  have hlength : path.length ≤ maxDepth := by
    rw [← hpath, h.length_splitPath j hj]
    exact h.shallow j hj
  obtain ⟨segment, rest, rfl⟩ := List.exists_cons_of_ne_nil
    (hpath ▸ Criteria.splitPath_ne_nil j.identifier)
  have hdot : DotFree (segment :: rest) := hpath ▸ Criteria.dotFree_splitPath j.identifier
  have hunder : segmentsUnder (none : Option (Join ι)) ++ segment :: rest ∈ r.paths := hmem
  obtain ⟨k, hk⟩ := follow_registered h hdot hunder 0
  exact ⟨k, exec_resolve_eq_ok.mpr ⟨hempty, hlength, segment, rest, rfl, hk⟩⟩

end DataAccess.JoinRegistry
