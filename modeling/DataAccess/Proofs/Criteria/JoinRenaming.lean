import DataAccess.Proofs.Criteria.RegistryWalk
import Mathlib.Data.List.Sort
import Mathlib.Data.Set.Function

/-!
# `DataAccess.Proofs.Criteria.JoinRenaming`: registries with the same paths

Two registries of one root that have the same paths are the same but for
the names of their aliases. `renameTo` reads the new name of an alias off
the other registry: the alias that the same path has there.

The order of the joins is that of their identifiers
(`WellFormed.map_identifier_eq`). The rest of a join is settled by its
path: where it hangs by the parts of the path, its columns by the walk
through the schema, its counter by the joins that hang off it
(`WellFormed.renamed_eq`). Only the numbers in the aliases depend on which
of two joins at one base was asked for first, and these name the joins
apart in both registries, so that the renaming is a bijection
(`WellFormed.bijOn_renameTo`).
-/

set_option autoImplicit false

namespace DataAccess

variable {ι : Type}

/-- The join under other aliases. -/
def Join.renamed (rename : Alias → Alias) (j : Join ι) : Join ι :=
  { j with tableAlias := rename j.tableAlias, baseAlias := rename j.baseAlias }

namespace JoinRegistry

open Criteria (splitPath)

/-- The joins under other aliases. -/
def renamed (rename : Alias → Alias) (r : JoinRegistry ι) : JoinRegistry ι :=
  { r with joins := r.joins.map (Join.renamed rename) }

/-- The aliases of a query: that of the root and those of the joins. -/
def aliases (r : JoinRegistry ι) : List Alias :=
  .main :: r.joins.map (·.tableAlias)

/-- The alias in `r'` of the path that has the alias in `r`. -/
def renameTo (r r' : JoinRegistry ι) (a : Alias) : Alias :=
  ((r.joins.find? (·.tableAlias = a)).bind fun j => r'.aliasAt? (splitPath j.identifier)).getD a

variable {schema : Schema ι} {root : ι} {maxDepth : Nat} {r r' : JoinRegistry ι} {j k : Join ι}

/-! ### The aliases of a path -/

/-- The root keeps its alias. -/
theorem WellFormed.renameTo_main (h : WellFormed schema root maxDepth r)
    (r' : JoinRegistry ι) : r.renameTo r' .main = .main := by
  have hnone : r.joins.find? (·.tableAlias = Alias.main) = none := by
    -- The alias of the root has no steps, and that of a join has some.
    rw [List.find?_eq_none]
    intro j hj hmain
    have hsteps := h.length_steps j hj
    rw [of_decide_eq_true hmain] at hsteps
    exact absurd hsteps (Nat.zero_ne_add_one j.depth)
  rw [renameTo, hnone, Option.bind_none, Option.getD_none]

/-- The new name of the alias of a join is the alias of its path. -/
theorem WellFormed.renameTo_tableAlias (h : WellFormed schema root maxDepth r)
    (h' : WellFormed schema root maxDepth r') (hj : j ∈ r.joins) (hk : k ∈ r'.joins)
    (hid : j.identifier = k.identifier) : r.renameTo r' j.tableAlias = k.tableAlias := by
  have hfind : r.joins.find? (·.tableAlias = j.tableAlias) = some j := by
    obtain ⟨l, hl⟩ := Option.isSome_iff_exists.mp
      (List.find?_isSome (p := fun l => decide (l.tableAlias = j.tableAlias)).mpr
        ⟨j, hj, decide_eq_true rfl⟩)
    have halias : l.tableAlias = j.tableAlias := by simpa using List.find?_some hl
    rw [hl, h.eq_of_tableAlias l (List.mem_of_find?_eq_some hl) j hj halias]
  rw [renameTo, hfind, Option.bind_some, hid, h'.aliasAt?_splitPath hk, Option.getD_some]

/-! ### Joins of one path -/

/-- The bases of two joins of one path are joins of one path, or the
root. -/
theorem Stands.base_eq_of_identifier {base base' : Option (Join ι)} {segment segment' : String}
    {n n' : Nat} (hs : Stands schema root r j base segment n)
    (hs' : Stands schema root r' k base' segment' n') (hid : j.identifier = k.identifier) :
    base.map (·.identifier) = base'.map (·.identifier) ∧ segment = segment' := by
  have hpath := hs.splitPath_identifier
  rw [hid, hs'.splitPath_identifier] at hpath
  obtain ⟨hunder, hsegment⟩ := List.append_inj' hpath rfl
  refine ⟨?_, (List.singleton_inj.mp hsegment).symm⟩
  -- Only the root has no segments, so both bases are the root, or neither is.
  cases base with
  | none =>
      cases base' with
      | none => rfl
      | some b' => exact absurd hunder (Criteria.splitPath_ne_nil b'.identifier)
  | some b =>
      cases base' with
      | none => exact absurd hunder.symm (Criteria.splitPath_ne_nil b.identifier)
      | some b' =>
          have hsame := congrArg (".".intercalate ·) hunder
          simp only [segmentsUnder, Criteria.intercalate_splitPath] at hsame
          simp [hsame]

/-- Two joins of one path differ in their aliases and counters only. -/
theorem WellFormed.renamed_of_identifier (h : WellFormed schema root maxDepth r)
    (h' : WellFormed schema root maxDepth r') (hj : j ∈ r.joins) (hk : k ∈ r'.joins)
    (hid : j.identifier = k.identifier) :
    k = { j.renamed (r.renameTo r') with children := k.children } := by
  obtain ⟨base, segment, n, hs⟩ := h.stands j hj
  obtain ⟨base', segment', n', hs'⟩ := h'.stands k hk
  obtain ⟨hbase, rfl⟩ := hs.base_eq_of_identifier hs' hid
  have hdepth : j.depth = k.depth := by
    have hlength := h.length_splitPath j hj
    rw [hid, h'.length_splitPath k hk] at hlength
    exact (Nat.succ_injective hlength).symm
  have hbaseAlias : r.renameTo r' j.baseAlias = k.baseAlias := by
    rw [hs.baseAlias, hs'.baseAlias]
    cases base with
    | none =>
        cases base' with
        | none => exact h.renameTo_main r'
        | some b' => cases hbase
    | some b =>
        cases base' with
        | none => cases hbase
        | some b' =>
            exact h.renameTo_tableAlias h' (hs.base_mem b rfl) (hs'.base_mem b' rfl)
              (Option.some.inj hbase)
  -- What the schema says of the path is the same for both.
  obtain ⟨kind, relation, field, identity, hwalk, hleg, hrelation, htarget, hidColumn, hcolumn,
    -⟩ := h.prescribed hj hs.splitPath_identifier
  obtain ⟨kind', relation', field', identity', hwalk', hleg', hrelation', htarget', hidColumn',
    hcolumn', -⟩ := h'.prescribed hk (hid ▸ hs.splitPath_identifier)
  obtain rfl := hwalk.unique hwalk'
  obtain ⟨rfl, rfl, rfl⟩ := hleg.unique hleg'
  have hat : j.base = k.base := by rw [hs.base_eq, hs'.base_eq, hbase]
  have htableAlias := h.renameTo_tableAlias h' hj hk hid
  rcases k with ⟨_, _, _, _, _, _, _, _, _, children⟩
  simp only [Join.renamed, Join.mk.injEq]
  exact ⟨hid.symm, hdepth.symm, hat.symm, hbaseAlias.symm, hrelation'.trans hrelation.symm,
    hcolumn'.trans hcolumn.symm, htarget'.trans htarget.symm, hidColumn'.trans hidColumn.symm,
    htableAlias.symm, trivial⟩

/-! ### All joins -/

/-- What is settled by the identifier of a join is the same, one join
after another. -/
theorem map_eq_map_of_identifier {α : Type} {js ks : List (Join ι)} {f g : Join ι → α}
    (hids : js.map (·.identifier) = ks.map (·.identifier))
    (hfg : ∀ j ∈ js, ∀ k ∈ ks, j.identifier = k.identifier → f j = g k) : js.map f = ks.map g := by
  induction js generalizing ks with
  | nil =>
      obtain rfl : ks = [] := List.map_eq_nil_iff.mp hids.symm
      rfl
  | cons j js ih =>
      obtain ⟨k, ks, rfl, hid, hrest⟩ := List.map_eq_cons_iff.mp hids.symm
      rw [List.map_cons, List.map_cons, hfg j (by simp) k (by simp) hid.symm,
        ih hrest.symm fun j hj k hk => hfg j (by simp [hj]) k (by simp [hk])]

/-- The same paths have the same identifiers, in the same order. -/
theorem WellFormed.map_identifier_eq (h : WellFormed schema root maxDepth r)
    (h' : WellFormed schema root maxDepth r') (hpaths : ∀ path, path ∈ r.paths ↔ path ∈ r'.paths) :
    r.joins.map (·.identifier) = r'.joins.map (·.identifier) := by
  have hmem : ∀ {s : JoinRegistry ι} {identifier},
      identifier ∈ s.joins.map (·.identifier) ↔ splitPath identifier ∈ s.paths := by
    intro s identifier
    rw [List.mem_map, mem_paths]
    refine exists_congr fun j => and_congr_right fun _ => ⟨congrArg splitPath, fun hpath => ?_⟩
    rw [← Criteria.intercalate_splitPath j.identifier, hpath, Criteria.intercalate_splitPath]
  -- Both registries are sorted, so they agree in order if they do in members.
  apply List.SortedLT.eq_of_mem_iff
  · exact (List.pairwise_map.mpr h.sorted).sortedLT
  · exact (List.pairwise_map.mpr h'.sorted).sortedLT
  · intro identifier
    rw [hmem, hmem, hpaths]

section SamePaths
variable (h : WellFormed schema root maxDepth r) (h' : WellFormed schema root maxDepth r')
  (hpaths : ∀ path, path ∈ r.paths ↔ path ∈ r'.paths)
include h h' hpaths

/-- As many joins hang off each place. -/
theorem WellFormed.countP_base_eq (place : Option String) :
    r.joins.countP (·.base = place) = r'.joins.countP (·.base = place) := by
  have hbases : r.joins.map (·.base) = r'.joins.map (·.base) := by
    refine map_eq_map_of_identifier (h.map_identifier_eq h' hpaths) fun j hj k hk hid => ?_
    rw [h.renamed_of_identifier h' hj hk hid]
    rfl
  have hcount : ∀ s : JoinRegistry ι, s.joins.countP (·.base = place)
      = (s.joins.map (·.base)).countP (· = place) := by
    intro s
    rw [List.countP_map]
    rfl
  rw [hcount, hcount, hbases]

/-- Registries with the same paths are the same but for their aliases. -/
theorem WellFormed.renamed_eq : r.renamed (r.renameTo r') = r' := by
  have hjoins : r.joins.map (Join.renamed (r.renameTo r')) = r'.joins.map id := by
    refine map_eq_map_of_identifier (h.map_identifier_eq h' hpaths) fun j hj k hk hid => ?_
    have hchildren : j.children = k.children := by
      have hcounted := h.counted (some j) (by simpa using hj)
      have hcounted' := h'.counted (some k) (by simpa using hk)
      rw [h.countP_base_eq h' hpaths, Option.map_some, hid] at hcounted
      exact hcounted.trans hcounted'.symm
    rw [id, h.renamed_of_identifier h' hj hk hid, ← hchildren]
    rfl
  have htopLevel : r.topLevel = r'.topLevel := by
    have hcounted := h.counted none (by simp)
    rw [h.countP_base_eq h' hpaths] at hcounted
    exact hcounted.trans (h'.counted none (by simp)).symm
  rw [List.map_id] at hjoins
  rw [renamed, hjoins, htopLevel]

/-- An alias that is renamed and renamed back is what it was. -/
theorem WellFormed.renameTo_renameTo {a : Alias} (ha : a ∈ r.aliases) :
    r.renameTo r' a ∈ r'.aliases ∧ r'.renameTo r (r.renameTo r' a) = a := by
  rcases List.mem_cons.mp ha with rfl | ha
  · rw [h.renameTo_main, h'.renameTo_main]
    exact ⟨List.mem_cons_self, rfl⟩
  · obtain ⟨j, hj, rfl⟩ := List.mem_map.mp ha
    obtain ⟨k, hk, hid⟩ : ∃ k ∈ r'.joins, k.identifier = j.identifier :=
      List.mem_map.mp (h.map_identifier_eq h' hpaths ▸ List.mem_map_of_mem hj)
    rw [h.renameTo_tableAlias h' hj hk hid.symm, h'.renameTo_tableAlias h hk hj hid]
    exact ⟨List.mem_cons_of_mem _ (List.mem_map_of_mem hk), rfl⟩

/-- The aliases of two registries with the same paths are renamed one to
one. -/
theorem WellFormed.bijOn_renameTo :
    Set.BijOn (r.renameTo r') {a | a ∈ r.aliases} {a | a ∈ r'.aliases} := by
  have hback : ∀ path, path ∈ r'.paths ↔ path ∈ r.paths := fun path => (hpaths path).symm
  exact Set.InvOn.bijOn
    ⟨fun a ha => (h.renameTo_renameTo h' hpaths ha).2,
      fun a ha => (h'.renameTo_renameTo h hback ha).2⟩
    (fun a ha => (h.renameTo_renameTo h' hpaths ha).1)
    (fun a ha => (h'.renameTo_renameTo h hback ha).1)

end SamePaths

end JoinRegistry

end DataAccess
