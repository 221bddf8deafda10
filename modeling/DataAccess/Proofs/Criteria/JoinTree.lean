import DataAccess.Proofs.Criteria.Alias
import DataAccess.Proofs.Criteria.Change
import Mathlib.Data.List.Lex
import Mathlib.Data.List.Nodup

/-!
# `DataAccess.Proofs.Criteria.JoinTree`: the joins of a reachable criteria

What `JoinRegistry.WellFormed` means for the identifiers, counters and
aliases that a statement is built from, and that every criteria has it.

`JoinRegistry.Tree` says it without mention of where a join stands: the
identifiers are closed under taking the beginning of a path, the
counters count, and an alias is that of the base and one more number.
Aliases are then apart (`WellFormed.eq_of_tableAlias`), since going up
the tree from two joins with one alias meets the same bases on both
sides. `run_tree` holds for every program, the schema being a graph of
any shape.
-/

set_option autoImplicit false

namespace DataAccess

variable {ι : Type}

namespace JoinRegistry

open Criteria (splitPath DotFree)

/-- The joins of a criteria are a tree of paths below `root`, and their
aliases tell them apart. -/
structure Tree (schema : Schema ι) (root : ι) (maxDepth : Nat) (r : JoinRegistry ι) : Prop where
  /-- An identifier has one join. -/
  unique : ∀ j ∈ r.joins, ∀ k ∈ r.joins, j.identifier = k.identifier → j = k
  /-- Every part at the start of a path has a join too. -/
  closed : ∀ j ∈ r.joins, ∀ path, path ≠ [] → path <+: splitPath j.identifier →
    ∃ k ∈ r.joins, k.identifier = ".".intercalate path
  /-- The depth of a join is the number of its relations less one. -/
  depth : ∀ j ∈ r.joins, (splitPath j.identifier).length = j.depth + 1 ∧ j.depth < maxDepth
  /-- A join of one relation hangs off the root, and takes one of the
  numbers given out there. -/
  top : ∀ j ∈ r.joins, j.depth = 0 → j.base = none ∧ j.baseAlias = .main ∧
    ∃ n, j.tableAlias.steps = [n] ∧ 1 ≤ n ∧ n ≤ r.topLevel
  /-- Any other join hangs off that of its path without the last
  relation, and takes one of the numbers given out there. -/
  nested : ∀ j ∈ r.joins, j.depth ≠ 0 → ∃ b ∈ r.joins,
    j.base = some b.identifier ∧ splitPath b.identifier = (splitPath j.identifier).dropLast ∧
    j.baseAlias = b.tableAlias ∧
    ∃ n, j.tableAlias.steps = b.tableAlias.steps ++ [n] ∧ 1 ≤ n ∧ n ≤ b.children
  /-- The counter of the root. -/
  topLevel : r.topLevel = r.joins.countP (·.depth = 0)
  /-- The counters of the joins. -/
  children : ∀ b ∈ r.joins, b.children = r.joins.countP (·.base = some b.identifier)
  /-- No counter exceeds the number of relations that are declared. -/
  bounded : r.topLevel ≤ (schema root).relations.length ∧
    ∀ b ∈ r.joins, b.children ≤ (schema b.target).relations.length
  /-- No two joins have the same alias in a statement. -/
  apart : ∀ j ∈ r.joins, ∀ k ∈ r.joins, j.tableAlias.text = k.tableAlias.text → j = k
  /-- No join has the alias of the root. -/
  notMain : ∀ j ∈ r.joins, j.tableAlias.text ≠ Alias.main.text

section WellFormed
variable {schema : Schema ι} {root : ι} {maxDepth : Nat} {r : JoinRegistry ι}

/-- No join is registered twice. -/
theorem WellFormed.nodup (h : WellFormed schema root maxDepth r) : r.joins.Nodup :=
  h.sorted.imp fun hlt heq => absurd (congrArg Join.identifier heq) (ne_of_lt hlt)

/-- The relation of a join is declared, by the last name of its path. -/
theorem Stands.relation_eq {j : Join ι} {base : Option (Join ι)} {segment : String} {n : Nat}
    (hs : Stands schema root r j base segment n) :
    j.relation ∈ (schema (targetUnder root base)).relations.map (·.name) ∧
      j.relation = segment := by
  obtain ⟨relation, identity, hrel, -, -, hname, -⟩ := hs.follows
  rw [Declaration.relation] at hrel
  cases hfind : (schema (targetUnder root base)).relations.find? (·.name == segment) with
  | none => simp [hfind] at hrel
  | some found =>
      simp only [hfind, Except.ok.injEq] at hrel
      have hsegment : found.name = segment := by simpa using List.find?_some hfind
      rw [hname, ← hrel]
      exact ⟨List.mem_map.mpr ⟨found, List.mem_of_find?_eq_some hfind, rfl⟩, hsegment⟩

/-- The start of a path is the start of the path to the base, or the
whole. -/
theorem WellFormed.closed (h : WellFormed schema root maxDepth r) :
    ∀ j ∈ r.joins, ∀ path, path ≠ [] → path <+: splitPath j.identifier →
      ∃ k ∈ r.joins, k.identifier = ".".intercalate path := by
  refine h.induction fun j hj base segment n hs hbase path hne hpath => ?_
  rw [hs.splitPath_identifier] at hpath
  rcases List.prefix_concat_iff.mp hpath with rfl | hpath
  · -- The whole path is that of `j`.
    refine ⟨j, hj, ?_⟩
    rw [← hs.splitPath_identifier, Criteria.intercalate_splitPath]
  · -- A shorter one starts the path of the base, so there has to be one.
    cases base with
    | none => exact absurd (List.prefix_nil.mp hpath) hne
    | some b => exact hbase b rfl path hne hpath

/-- Two joins with one alias are the same. -/
theorem WellFormed.eq_of_tableAlias (h : WellFormed schema root maxDepth r) :
    ∀ j ∈ r.joins, ∀ k ∈ r.joins, j.tableAlias = k.tableAlias → j = k := by
  refine h.induction fun j hj base segment n hs hbase k hk halias => ?_
  obtain ⟨other, last, m, ht⟩ := h.stands k hk
  -- The aliases of the bases are equal, and so are the bases.
  have hunder : (aliasUnder base).steps = (aliasUnder other).steps := by
    have hsteps := congrArg Alias.steps halias
    rw [hs.steps, ht.steps] at hsteps
    exact (List.append_inj' hsteps rfl).1
  have hsame : base = other := by
    -- They are equally deep, so that either both joins hang off the root or neither does.
    have hlength := congrArg List.length hunder
    rw [h.length_steps_aliasUnder hs.base_mem, h.length_steps_aliasUnder ht.base_mem] at hlength
    cases base with
    | none =>
        cases other with
        | none => rfl
        | some c => exact absurd hlength (Nat.zero_ne_add_one c.depth)
    | some b =>
        cases other with
        | none => exact absurd hlength (Nat.succ_ne_zero b.depth)
        | some c =>
            have hbc : b.tableAlias = c.tableAlias := congrArg Alias.mk hunder
            rw [hbase b rfl c (ht.base_mem c rfl) hbc]
  -- The joins at one base differ in their last numbers.
  apply h.eq_of_identifier hj hk
  exact h.apart j hj k hk (by rw [hs.base_eq, ht.base_eq, hsame]) halias

/-- Two joins of one relation at one base are the same. -/
theorem WellFormed.eq_of_relation (h : WellFormed schema root maxDepth r) {j k : Join ι}
    (hj : j ∈ r.joins) (hk : k ∈ r.joins) (hbase : j.base = k.base)
    (hrelation : j.relation = k.relation) : j = k := by
  obtain ⟨base, segment, n, hs⟩ := h.stands j hj
  obtain ⟨other, last, m, ht⟩ := h.stands k hk
  have hsame : base = other := by
    refine h.base_unique hs.base_mem ht.base_mem ?_
    rw [← hs.base_eq, ← ht.base_eq, hbase]
  apply h.eq_of_identifier hj hk
  rw [hs.identifier, ht.identifier, ← hs.relation_eq.2, ← ht.relation_eq.2, hsame, hrelation]

/-- The joins of one base are of different relations of its type. -/
theorem WellFormed.hanging_le (h : WellFormed schema root maxDepth r)
    (base : Option (Join ι)) (hbase : ∀ b ∈ base, b ∈ r.joins) :
    r.hanging base ≤ (schema (targetUnder root base)).relations.length := by
  have hhere : ∀ j ∈ r.joins.filter (·.base = base.map (·.identifier)),
      j ∈ r.joins ∧ j.base = base.map (·.identifier) := fun j hj => by simpa using hj
  have hnames : ((r.joins.filter (·.base = base.map (·.identifier))).map
      (·.relation)).length ≤ ((schema (targetUnder root base)).relations.map (·.name)).length := by
    -- They are joins of different relations.
    apply List.Nodup.length_le_of_subset
    · refine List.Nodup.map_on (fun j hj k hk hname => ?_) (h.nodup.filter _)
      have hplace := (hhere j hj).2.trans (hhere k hk).2.symm
      exact h.eq_of_relation (hhere j hj).1 (hhere k hk).1 hplace hname
    · -- Every one of them is declared.
      intro name hname
      obtain ⟨j, hj, rfl⟩ := List.mem_map.mp hname
      obtain ⟨other, segment, n, hs⟩ := h.stands j (hhere j hj).1
      have hplace := hs.base_eq.symm.trans (hhere j hj).2
      rw [h.base_unique hs.base_mem hbase hplace] at hs
      exact hs.relation_eq.1
  rw [List.length_map, List.length_map] at hnames
  rw [h.counted base hbase, List.countP_eq_length_filter]
  exact hnames

/-- A text goes before the texts that it begins. -/
theorem lt_append {s t : String} (ht : t ≠ "") : s < s ++ t := by
  rw [String.lt_iff_toList_lt, String.toList_append]
  have hne : t.toList ≠ [] := fun h => ht (String.toList_eq_nil_iff.mp h)
  induction s.toList with
  | nil =>
      obtain ⟨c, cs, hcs⟩ := List.exists_cons_of_ne_nil hne
      rw [hcs]
      exact List.nil_lt_cons c cs
  | cons c cs ih => exact List.cons_lt_cons_self.mpr ih

/-- The identifier of a base goes before that of a join that hangs off
it. -/
theorem Stands.base_lt {j b : Join ι} {segment : String} {n : Nat}
    (hs : Stands schema root r j (some b) segment n) : b.identifier < j.identifier := by
  rw [hs.identifier, identifierUnder, String.append_assoc]
  exact lt_append (by simp)

/-- What goes before a join in the order of identifiers comes before it
in the list. -/
theorem WellFormed.mem_earlier (h : WellFormed schema root maxDepth r) {j k : Join ι}
    {earlier later : List (Join ι)} (hj : r.joins = earlier ++ j :: later) (hk : k ∈ r.joins)
    (hlt : k.identifier < j.identifier) : k ∈ earlier := by
  have hsorted := h.sorted
  rw [hj] at hk hsorted
  rcases List.mem_append.mp hk with hk | hk
  · exact hk
  -- Neither `j` itself nor a join after it goes before `j`.
  · rcases List.mem_cons.mp hk with rfl | hk
    · exact absurd hlt (lt_irrefl _)
    · have hafter := (List.pairwise_cons.mp (List.pairwise_append.mp hsorted).2.1).1 k hk
      exact absurd hafter (lt_asymm hlt)

/-- A well-formed registry is a tree of joins. -/
theorem WellFormed.tree (h : WellFormed schema root maxDepth r) :
    Tree schema root maxDepth r where
  unique j hj k hk := h.eq_of_identifier hj hk
  closed := h.closed
  depth j hj := ⟨h.length_splitPath j hj, h.shallow j hj⟩
  top j hj hdepth := by
    obtain ⟨base, segment, n, hs⟩ := h.stands j hj
    cases base with
    | none => exact ⟨hs.base_eq, hs.baseAlias, n, hs.steps, hs.pos, hs.le⟩
    | some b => exact absurd (hs.depth.symm.trans hdepth) (Nat.succ_ne_zero b.depth)
  nested j hj hdepth := by
    obtain ⟨base, segment, n, hs⟩ := h.stands j hj
    cases base with
    | none => exact absurd hs.depth hdepth
    | some b =>
        refine ⟨b, hs.base_mem b rfl, hs.base_eq, ?_, hs.baseAlias, n, hs.steps, hs.pos, hs.le⟩
        rw [hs.splitPath_identifier, List.dropLast_concat]
        rfl
  topLevel := by
    rw [show r.topLevel = r.hanging none from rfl, h.counted none (by simp)]
    -- Hanging off the root and being at depth 0 are the same.
    refine List.countP_congr fun j hj => ?_
    obtain ⟨base, segment, n, hs⟩ := h.stands j hj
    rw [hs.base_eq, hs.depth]
    cases base <;> simp [depthUnder]
  children b hb := h.counted (some b) (by simpa using hb)
  bounded := ⟨h.hanging_le none (by simp), fun b hb =>
    h.hanging_le (some b) (by simpa using hb)⟩
  apart j hj k hk htext := h.eq_of_tableAlias j hj k hk (Alias.text_inj.mp htext)
  notMain j hj htext := by
    have hsteps := h.length_steps j hj
    rw [Alias.text_inj.mp htext] at hsteps
    exact absurd hsteps (Nat.zero_ne_add_one j.depth)

end WellFormed

end JoinRegistry

/-- Every change leaves the tree of joins well-formed, and so do many. -/
theorem Criteria.run_sound_wellFormed (schema : Schema ι) (root : ι) (settings : QuerySettings)
    {changes : List Change} (hpaths : ∀ change ∈ changes, change.OnPaths DotFree) :
    Sound schema root settings (JoinRegistry.WellFormed schema root settings.joinMaxDepth)
      (run schema (new root settings) changes) := by
  have hresolve : ∀ path, DotFree path →
      Work.Keeps (JoinRegistry.WellFormed schema root settings.joinMaxDepth)
        (JoinRegistry.resolve schema root settings.joinMaxDepth path) :=
    fun path hpath => JoinRegistry.resolve_wellFormed hpath
  have hempty : JoinRegistry.WellFormed schema root settings.joinMaxDepth .empty :=
    JoinRegistry.wellFormed_empty
  exact run_sound hresolve (fun _ => id) hempty (sound_new hempty) hpaths

/-- Whatever changes led to a criteria, its registry is well formed. -/
theorem Criteria.run_wellFormed (schema : Schema ι) (root : ι) (settings : QuerySettings)
    {changes : List Change} (hpaths : ∀ change ∈ changes, change.OnPaths DotFree) :
    JoinRegistry.WellFormed schema root settings.joinMaxDepth
      (run schema (new root settings) changes).joins :=
  (run_sound_wellFormed schema root settings hpaths).joins

/-- Every criteria that a program reaches has a tree of joins: whatever
the entity types refer to, whatever depth is allowed, whatever changes
are made, and wherever they fail. The only names that may not have points
are those of a path that is given as a list. -/
theorem Criteria.run_tree (schema : Schema ι) (root : ι) (settings : QuerySettings)
    (changes : List Change) (hpaths : ∀ change ∈ changes, change.OnPaths DotFree) :
    JoinRegistry.Tree schema root settings.joinMaxDepth
      (run schema (new root settings) changes).joins :=
  (run_wellFormed schema root settings hpaths).tree

namespace Criteria

/-- Fetches below two bases in turn, of which one fails half way. -/
def fetchesInTurn : List Change :=
  [.fetch "mentor.boss", .order "boss.mentor.id" .ascending, .fetch "boss.cat",
    .fetchPath ["boss", "boss"]]

/-- The aliases follow the order in which the joins were asked for, and
the fetch that failed took no number. -/
theorem run_tree_people :
    JoinRegistry.Tree people () 20 (run people (new ()) fetchesInTurn).joins ∧
      (run people (new ()) fetchesInTurn).joins.joins.map
          (fun j => (j.identifier, j.tableAlias.text))
        = [("boss", "t_2"), ("boss.boss", "t_2_2"), ("boss.mentor", "t_2_1"),
          ("mentor", "t_1"), ("mentor.boss", "t_1_1")] := by
  refine ⟨run_tree people () {} fetchesInTurn ?_, by decide +kernel⟩
  simp [fetchesInTurn, Change.OnPaths, DotFree]

end Criteria

end DataAccess
