import DataAccess.Proofs.Criteria.Path
import DataAccess.Proofs.Support.Work
import Mathlib.Data.String.Basic

/-!
# `DataAccess.Proofs.Criteria.JoinRegistry`: the tree of joins

The joins of a registry form a tree below the root. `Stands` says what
the place of one join is: the base it hangs off, the relation that leads
there, and the number it took among those of its base. `WellFormed` says
that every join has a place, and that the counters of the registry are
the numbers of joins that hang off the root and off each join.

A registry changes only by `create`, whose two outcomes are in
`create_cases`. `wellFormed_grow` is the step: a new join keeps the tree
well-formed, because it takes the number after all those given out at
its base. `step_spec`, `walk_spec` and `resolve_wellFormed` carry this
along a path, which may fail at any relation.
-/

set_option autoImplicit false

namespace DataAccess.JoinRegistry

open Criteria (splitPath DotFree)

variable {ι : Type}

/-! ### Where a join stands -/

/-- The table that a join hangs off: a joined one, or the root. -/
def aliasUnder (base : Option (Join ι)) : Alias :=
  (base.map (·.tableAlias)).getD .main

/-- The entity type that a join hangs off. -/
def targetUnder (root : ι) (base : Option (Join ι)) : ι :=
  (base.map (·.target)).getD root

/-- The identifier of one more relation after the base. -/
def identifierUnder (base : Option (Join ι)) (segment : String) : String :=
  match base with
  | none => segment
  | some b => b.identifier ++ "." ++ segment

/-- The relations of the path to the base. -/
def segmentsUnder (base : Option (Join ι)) : List String :=
  match base with
  | none => []
  | some b => splitPath b.identifier

/-- How many relations come before one more after the base. -/
def depthUnder (base : Option (Join ι)) : Nat :=
  match base with
  | none => 0
  | some b => b.depth + 1

/-- A segment without points is the last one of its identifier. -/
theorem splitPath_identifierUnder (base : Option (Join ι)) {segment : String}
    (hdot : '.' ∉ segment.toList) :
    splitPath (identifierUnder base segment) = segmentsUnder base ++ [segment] := by
  cases base with
  | none => exact Criteria.splitPath_singleton hdot
  | some b => exact Criteria.splitPath_append b.identifier hdot

/-- The counter of the joins that hang off the base. -/
def hanging (r : JoinRegistry ι) (base : Option (Join ι)) : Nat :=
  match base with
  | none => r.topLevel
  | some b => b.children

/-- The join is that of the relation `segment` of the type `kind`, as the
schema declares it. -/
def Follows (schema : Schema ι) (kind : ι) (segment : String) (j : Join ι) : Prop :=
  ∃ relation identity,
    (schema kind).relation segment = .ok relation ∧
    (schema relation.target).identityField = .ok identity ∧
    (schema kind).columnName relation.joinField = .ok j.baseColumn ∧
    j.relation = relation.name ∧ j.target = relation.target ∧ j.idColumn = identity.column

/-- The join `j` is the `n`-th that hangs off `base`, by the relation
`segment`. -/
structure Stands (schema : Schema ι) (root : ι) (r : JoinRegistry ι) (j : Join ι)
    (base : Option (Join ι)) (segment : String) (n : Nat) : Prop where
  base_mem : ∀ b ∈ base, b ∈ r.joins
  dotFree : '.' ∉ segment.toList
  identifier : j.identifier = identifierUnder base segment
  depth : j.depth = depthUnder base
  base_eq : j.base = base.map (·.identifier)
  baseAlias : j.baseAlias = aliasUnder base
  steps : j.tableAlias.steps = (aliasUnder base).steps ++ [n]
  pos : 1 ≤ n
  le : n ≤ r.hanging base
  follows : Follows schema (targetUnder root base) segment j

/-- The joins are a tree below `root`, of paths with at most `maxDepth`
relations, and the counters are right. -/
structure WellFormed (schema : Schema ι) (root : ι) (maxDepth : Nat) (r : JoinRegistry ι) :
    Prop where
  sorted : r.joins.Pairwise fun j k => j.identifier < k.identifier
  stands : ∀ j ∈ r.joins, ∃ base segment n, Stands schema root r j base segment n
  shallow : ∀ j ∈ r.joins, j.depth < maxDepth
  counted : ∀ base : Option (Join ι), (∀ b ∈ base, b ∈ r.joins) →
    r.hanging base = r.joins.countP (·.base = base.map (·.identifier))
  apart : ∀ j ∈ r.joins, ∀ k ∈ r.joins, j.base = k.base → j.tableAlias = k.tableAlias →
    j.identifier = k.identifier

/-! ### One more join -/

/-- What happens to the other joins when one more hangs off the base. -/
def bump (base : Option (Join ι)) (k : Join ι) : Join ι :=
  match base with
  | none => k
  | some b => countChild b.identifier k

/-- The registry with `j` as one more join that hangs off the base. -/
def grow (r : JoinRegistry ι) (base : Option (Join ι)) (j : Join ι) : JoinRegistry ι :=
  ⟨insertOrdered j (r.joins.map (bump base)),
    if base.isNone then r.topLevel + 1 else r.topLevel⟩

/-- The join that `create` makes. -/
structure Made (schema : Schema ι) (root : ι) (r : JoinRegistry ι) (base : Option (Join ι))
    (identifier : String) (depth : Nat) (segment : String) (j : Join ι) : Prop where
  identifier_eq : j.identifier = identifier
  depth_eq : j.depth = depth
  base_eq : j.base = base.map (·.identifier)
  baseAlias : j.baseAlias = aliasUnder base
  tableAlias : j.tableAlias = (aliasUnder base).child depth (r.hanging base + 1)
  children : j.children = 0
  follows : Follows schema (targetUnder root base) segment j

/-- The counting of `nextAlias`, and the new join in its place. -/
theorem grow_eq (r : JoinRegistry ι) (base : Option (Join ι)) (depth : Nat) (j : Join ι) :
    { (r.nextAlias base depth).2 with
        joins := insertOrdered j (r.nextAlias base depth).2.joins } = r.grow base j := by
  cases base with
  | none =>
      show _ = (⟨insertOrdered j (r.joins.map id), _⟩ : JoinRegistry ι)
      rw [List.map_id]
      rfl
  | some b => rfl

/-- The alias of a new join is that of its base, one step longer, with the
next free number. -/
theorem nextAlias_fst (r : JoinRegistry ι) (base : Option (Join ι)) (depth : Nat) :
    (r.nextAlias base depth).1 = (aliasUnder base).child depth (r.hanging base + 1) := by
  cases base with
  | none => simp [nextAlias, aliasUnder, hanging, Alias.child, Alias.main]
  | some b => rfl

/-- `create` fails and changes nothing, or it makes one join, with which
the registry grows. -/
theorem create_cases (schema : Schema ι) (root : ι) (base : Option (Join ι))
    (identifier : String) (depth : Nat) (segment : String) (r : JoinRegistry ι) :
    (∃ e, (create schema root base identifier depth segment).exec r = (.error e, r)) ∨
    ∃ j, (create schema root base identifier depth segment).exec r = (.ok j, r.grow base j) ∧
      Made schema root r base identifier depth segment j := by
  -- The three looks at the schema fail, each in turn, before anything changes.
  simp only [create, Work.exec_bind, Work.exec_ofResult, Work.exec_get]
  cases hrel : (schema ((base.map (·.target)).getD root)).relation segment with
  | error e => exact Or.inl ⟨e, rfl⟩
  | ok relation =>
      cases hid : (schema relation.target).identityField with
      | error e => exact Or.inl ⟨e, by simp only [hid]⟩
      | ok identity =>
          cases hcol : (schema ((base.map (·.target)).getD root)).columnName
              relation.joinField with
          | error e => exact Or.inl ⟨e, by simp only [hid, hcol]⟩
          | ok column =>
              simp only [hid, hcol, Work.exec_set, Work.exec_pure, grow_eq]
              exact Or.inr ⟨_, rfl, rfl, rfl, rfl, rfl, nextAlias_fst r base depth, rfl,
                relation, identity, hrel, hid, hcol, rfl, rfl, rfl⟩

/-! ### The registry with one more join -/

/-- Only the counter of the base changes. -/
theorem bump_eq (base : Option (Join ι)) (k : Join ι) :
    bump base k = { k with
      children := k.children + if base.map (·.identifier) = some k.identifier then 1 else 0 } := by
  cases base with
  | none => rfl
  | some b =>
      by_cases h : k.identifier = b.identifier
      · simp [bump, countChild, h]
      · simp [bump, countChild, h, Ne.symm h]

/-- Only the order of the joins depends on where a new one goes. -/
theorem insertOrdered_perm (j : Join ι) (ks : List (Join ι)) :
    (insertOrdered j ks).Perm (j :: ks) := by
  induction ks with
  | nil => exact List.Perm.refl _
  | cons k ks ih =>
      rw [insertOrdered]
      split
      · exact List.Perm.refl _
      · exact (ih.cons k).trans (List.Perm.swap j k ks)

/-- A join with an identifier of its own finds its place in the order. -/
theorem insertOrdered_sorted {j : Join ι} {ks : List (Join ι)}
    (hks : ks.Pairwise fun j k => j.identifier < k.identifier)
    (hj : ∀ k ∈ ks, k.identifier ≠ j.identifier) :
    (insertOrdered j ks).Pairwise fun j k => j.identifier < k.identifier := by
  induction ks with
  | nil => simp [insertOrdered]
  | cons k ks ih =>
      obtain ⟨hk, hks⟩ := List.pairwise_cons.mp hks
      rw [insertOrdered]
      split
      · -- The join goes before `k`, and so before all of the rest.
        rename_i hlt
        refine List.pairwise_cons.mpr ⟨fun l hl => ?_, List.pairwise_cons.mpr ⟨hk, hks⟩⟩
        rcases List.mem_cons.mp hl with rfl | hl
        · exact hlt
        · exact lt_trans hlt (hk l hl)
      · -- It goes into the rest, where `k` is before it.
        rename_i hlt
        have hkj : k.identifier < j.identifier :=
          lt_of_le_of_ne (not_lt.mp hlt) (hj k (by simp))
        refine List.pairwise_cons.mpr ⟨fun l hl => ?_, ih hks fun l hl => hj l (by simp [hl])⟩
        rcases List.mem_cons.mp ((insertOrdered_perm j ks).mem_iff.mp hl) with rfl | hl
        · exact hkj
        · exact hk l hl

/-- The joins afterwards are the new one and the old ones, of which the
base has its counter raised. -/
theorem mem_grow {r : JoinRegistry ι} {base : Option (Join ι)} {j k : Join ι} :
    k ∈ (r.grow base j).joins ↔ k = j ∨ ∃ l ∈ r.joins, bump base l = k := by
  rw [grow, (insertOrdered_perm j _).mem_iff, List.mem_cons, List.mem_map]

/-- The new join is one more under its base, and under no other. -/
theorem countP_grow (r : JoinRegistry ι) (base : Option (Join ι)) (j : Join ι)
    (place : Option String) :
    (r.grow base j).joins.countP (·.base = place)
      = r.joins.countP (·.base = place) + if j.base = place then 1 else 0 := by
  have hbump : (r.joins.map (bump base)).countP (·.base = place)
      = r.joins.countP (·.base = place) := by
    -- A join hangs off the same place, whatever its counter is.
    rw [List.countP_map]
    congr 1
    funext k
    simp [bump_eq]
  rw [grow, (insertOrdered_perm j _).countP_eq, List.countP_cons, hbump]
  simp only [decide_eq_true_eq]

/-- The counter of a place, counted on if the new join hangs off it. -/
theorem hanging_grow (r : JoinRegistry ι) (base other : Option (Join ι)) (j : Join ι) :
    (r.grow base j).hanging (other.map (bump base))
      = r.hanging other
        + if base.map (·.identifier) = other.map (·.identifier) then 1 else 0 := by
  cases other with
  | none => cases base <;> simp [hanging, grow]
  | some b => simp [hanging, bump_eq]

section Bump
variable (base other : Option (Join ι))

/-- A counter that is raised does not change the alias that joins are made
under. -/
theorem aliasUnder_bump : aliasUnder (other.map (bump base)) = aliasUnder other := by
  cases other <;> simp [aliasUnder, bump_eq]

/-- A counter that is raised does not change the type under a base. -/
theorem targetUnder_bump (root : ι) :
    targetUnder root (other.map (bump base)) = targetUnder root other := by
  cases other <;> simp [targetUnder, bump_eq]

/-- A counter that is raised does not change the identifiers under a base. -/
theorem identifierUnder_bump (segment : String) :
    identifierUnder (other.map (bump base)) segment = identifierUnder other segment := by
  cases other <;> simp [identifierUnder, bump_eq]

/-- A counter that is raised does not change the depth under a base. -/
theorem depthUnder_bump : depthUnder (other.map (bump base)) = depthUnder other := by
  cases other <;> simp [depthUnder, bump_eq]

/-- A base is found under the same identifier, whatever its counter is. -/
theorem map_identifier_bump :
    (other.map (bump base)).map (·.identifier) = other.map (·.identifier) := by
  cases other <;> simp [bump_eq]

end Bump

/-! ### Well-formed registries -/

section WellFormed
variable {schema : Schema ι} {root : ι} {maxDepth : Nat} {r : JoinRegistry ι}

/-- Without joins there is nothing to be said. -/
theorem wellFormed_empty : WellFormed schema root maxDepth (empty : JoinRegistry ι) where
  sorted := List.Pairwise.nil
  stands _ hj := absurd hj List.not_mem_nil
  shallow _ hj := absurd hj List.not_mem_nil
  counted base hbase := by
    cases base with
    | none => rfl
    | some b => exact absurd (hbase b rfl) List.not_mem_nil
  apart _ hj := absurd hj List.not_mem_nil

/-- There is one join of each identifier. -/
theorem WellFormed.eq_of_identifier (h : WellFormed schema root maxDepth r) {j k : Join ι}
    (hj : j ∈ r.joins) (hk : k ∈ r.joins) (hjk : j.identifier = k.identifier) : j = k := by
  -- In the order of identifiers no two of them are equal.
  have hall := List.Pairwise.forall_of_forall_of_flip (R := fun j k : Join ι =>
      j.identifier = k.identifier → j = k) (fun _ _ _ => rfl)
    (h.sorted.imp fun hlt heq => absurd heq (ne_of_lt hlt))
    (h.sorted.imp fun hlt heq => absurd heq.symm (ne_of_lt hlt))
  exact hall hj hk hjk

/-- So a base can be told by its identifier. -/
theorem WellFormed.base_unique (h : WellFormed schema root maxDepth r)
    {base other : Option (Join ι)} (hbase : ∀ b ∈ base, b ∈ r.joins)
    (hother : ∀ b ∈ other, b ∈ r.joins)
    (heq : base.map (·.identifier) = other.map (·.identifier)) : base = other := by
  cases base with
  | none => cases other <;> simp_all
  | some b =>
      cases other with
      | none => simp at heq
      | some c =>
          have hbc : b.identifier = c.identifier := by simpa using heq
          rw [h.eq_of_identifier (hbase b rfl) (hother c rfl) hbc]

/-- The path of a join is that of its base and one segment. -/
theorem Stands.splitPath_identifier {j : Join ι} {base : Option (Join ι)} {segment : String}
    {n : Nat} (hs : Stands schema root r j base segment n) :
    splitPath j.identifier = segmentsUnder base ++ [segment] := by
  rw [hs.identifier, splitPath_identifierUnder base hs.dotFree]

/-- What is known of a base one relation further up holds of every
join: an induction on the depth. -/
theorem WellFormed.induction (h : WellFormed schema root maxDepth r) {P : Join ι → Prop}
    (hP : ∀ j ∈ r.joins, ∀ base segment n, Stands schema root r j base segment n →
      (∀ b ∈ base, P b) → P j) :
    ∀ j ∈ r.joins, P j := by
  suffices hall : ∀ depth, ∀ j ∈ r.joins, j.depth = depth → P j from
    fun j hj => hall j.depth j hj rfl
  intro depth
  induction depth with
  | zero =>
      intro j hj hdepth
      -- There is nothing below a join at depth 0.
      obtain ⟨base, segment, n, hs⟩ := h.stands j hj
      refine hP j hj base segment n hs fun b hb => ?_
      rw [Option.mem_def.mp hb] at hs
      exact absurd (hs.depth.symm.trans hdepth) (Nat.succ_ne_zero _)
  | succ depth ih =>
      intro j hj hdepth
      obtain ⟨base, segment, n, hs⟩ := h.stands j hj
      refine hP j hj base segment n hs fun b hb => ih b (hs.base_mem b hb) ?_
      rw [Option.mem_def.mp hb] at hs
      exact Nat.succ_injective (hs.depth.symm.trans hdepth)

/-- The depth of a join counts the relations before the last one. -/
theorem WellFormed.length_splitPath (h : WellFormed schema root maxDepth r) :
    ∀ j ∈ r.joins, (splitPath j.identifier).length = j.depth + 1 := by
  refine h.induction fun j _ base segment n hs hbase => ?_
  rw [hs.splitPath_identifier, hs.depth]
  cases base with
  | none => rfl
  | some b => simp [segmentsUnder, depthUnder, hbase b rfl]

/-- Paths get longer by one segment with each level. -/
theorem WellFormed.length_segmentsUnder (h : WellFormed schema root maxDepth r)
    {base : Option (Join ι)} (hbase : ∀ b ∈ base, b ∈ r.joins) :
    (segmentsUnder base).length = depthUnder base := by
  cases base with
  | none => rfl
  | some b => exact h.length_splitPath b (hbase b rfl)

/-- An alias has one step more than the depth of its join. -/
theorem WellFormed.length_steps (h : WellFormed schema root maxDepth r) :
    ∀ j ∈ r.joins, j.tableAlias.steps.length = j.depth + 1 := by
  refine h.induction fun j _ base segment n hs hbase => ?_
  rw [hs.steps, hs.depth]
  cases base with
  | none => rfl
  | some b => simp [aliasUnder, depthUnder, hbase b rfl]

/-- The alias of a base has one step for each level. -/
theorem WellFormed.length_steps_aliasUnder (h : WellFormed schema root maxDepth r)
    {base : Option (Join ι)} (hbase : ∀ b ∈ base, b ∈ r.joins) :
    (aliasUnder base).steps.length = depthUnder base := by
  cases base with
  | none => rfl
  | some b => exact h.length_steps b (hbase b rfl)

/-- A join keeps its place when the registry grows. -/
theorem Stands.grow {j k : Join ι} {base other : Option (Join ι)} {segment : String} {n : Nat}
    (hs : Stands schema root r k other segment n) :
    Stands schema root (r.grow base j) (bump base k) (other.map (bump base)) segment n where
  -- The base is still there, if with another counter.
  base_mem b hb := by
    obtain ⟨c, hc, rfl⟩ := Option.map_eq_some_iff.mp hb
    exact mem_grow.mpr (Or.inr ⟨c, hs.base_mem c hc, rfl⟩)
  dotFree := hs.dotFree
  identifier := by rw [identifierUnder_bump, ← hs.identifier, bump_eq]
  depth := by rw [depthUnder_bump, ← hs.depth, bump_eq]
  base_eq := by rw [map_identifier_bump, ← hs.base_eq, bump_eq]
  baseAlias := by rw [aliasUnder_bump, ← hs.baseAlias, bump_eq]
  steps := by rw [aliasUnder_bump, ← hs.steps, bump_eq]
  pos := hs.pos
  -- The counter of the base only rises.
  le := by
    rw [hanging_grow]
    exact Nat.le_add_right_of_le hs.le
  follows := by
    rw [targetUnder_bump, bump_eq]
    exact hs.follows

/-- The new join stands after those that hung off its base. -/
theorem Made.stands (h : WellFormed schema root maxDepth r) {j : Join ι}
    {base : Option (Join ι)} {segment : String} (hbase : ∀ b ∈ base, b ∈ r.joins)
    (hdot : '.' ∉ segment.toList)
    (hj : Made schema root r base (identifierUnder base segment) (depthUnder base) segment j) :
    Stands schema root (r.grow base j) j (base.map (bump base)) segment
      (r.hanging base + 1) where
  base_mem b hb := by
    obtain ⟨c, hc, rfl⟩ := Option.map_eq_some_iff.mp hb
    exact mem_grow.mpr (Or.inr ⟨c, hbase c hc, rfl⟩)
  dotFree := hdot
  identifier := by rw [identifierUnder_bump, hj.identifier_eq]
  depth := by rw [depthUnder_bump, hj.depth_eq]
  base_eq := by rw [map_identifier_bump, hj.base_eq]
  baseAlias := by rw [aliasUnder_bump, hj.baseAlias]
  steps := by
    -- The alias of the base is kept whole, as it has one step per relation.
    rw [aliasUnder_bump, hj.tableAlias, Alias.child, ← h.length_steps_aliasUnder hbase,
      List.take_length]
  pos := Nat.le_add_left 1 _
  le := by simp [hanging_grow]
  follows := by
    rw [targetUnder_bump]
    exact hj.follows

/-- No join of a well-formed registry hangs off an identifier that is
not in it. -/
theorem WellFormed.countP_base_eq_zero (h : WellFormed schema root maxDepth r)
    {identifier : String} (hnew : ∀ k ∈ r.joins, k.identifier ≠ identifier) :
    r.joins.countP (·.base = some identifier) = 0 := by
  -- The base of a join is there, and would have the identifier.
  rw [List.countP_eq_zero]
  intro k hk hbase
  obtain ⟨base, segment, n, hs⟩ := h.stands k hk
  rw [decide_eq_true_eq, hs.base_eq] at hbase
  obtain ⟨b, hb, hid⟩ := Option.map_eq_some_iff.mp hbase
  exact hnew b (hs.base_mem b hb) hid

/-- The new join and one that was there are not mistaken for each
other. -/
theorem Made.apart (h : WellFormed schema root maxDepth r) {j k : Join ι}
    {base : Option (Join ι)} {segment : String} (hbase : ∀ b ∈ base, b ∈ r.joins)
    (hj : Made schema root r base (identifierUnder base segment) (depthUnder base) segment j)
    (hk : k ∈ r.joins) (hjk : j.base = k.base) : j.tableAlias ≠ k.tableAlias := by
  intro halias
  obtain ⟨other, other_segment, n, hs⟩ := h.stands k hk
  have hsame : base = other := by
    apply h.base_unique hbase hs.base_mem
    rw [← hj.base_eq, ← hs.base_eq, hjk]
  subst hsame
  -- Both hang off one base, so their last numbers would be the same.
  have hsteps := congrArg Alias.steps halias
  rw [hj.tableAlias, hs.steps, Alias.child, ← h.length_steps_aliasUnder hbase,
    List.take_length] at hsteps
  have hn : r.hanging base + 1 = n := by simpa using hsteps
  have := hs.le
  omega

/-- One more join keeps the tree: its identifier is new, its base is
there, and it takes the next number at its base. -/
theorem wellFormed_grow (h : WellFormed schema root maxDepth r) {j : Join ι}
    {base : Option (Join ι)} {segment : String} (hbase : ∀ b ∈ base, b ∈ r.joins)
    (hdot : '.' ∉ segment.toList) (hdepth : depthUnder base < maxDepth)
    (hj : Made schema root r base (identifierUnder base segment) (depthUnder base) segment j)
    (hnew : ∀ k ∈ r.joins, k.identifier ≠ j.identifier) :
    WellFormed schema root maxDepth (r.grow base j) where
  sorted := by
    apply insertOrdered_sorted
    · rw [List.pairwise_map]
      exact h.sorted.imp fun {k l} hlt => by simpa [bump_eq] using hlt
    · intro k hk
      obtain ⟨l, hl, rfl⟩ := List.mem_map.mp hk
      simpa [bump_eq] using hnew l hl
  stands k hk := by
    rcases mem_grow.mp hk with rfl | ⟨l, hl, rfl⟩
    · exact ⟨_, _, _, hj.stands h hbase hdot⟩
    · obtain ⟨other, other_segment, n, hs⟩ := h.stands l hl
      exact ⟨_, _, _, hs.grow⟩
  shallow k hk := by
    rcases mem_grow.mp hk with rfl | ⟨l, hl, rfl⟩
    · rw [hj.depth_eq]
      exact hdepth
    · rw [bump_eq]
      exact h.shallow l hl
  counted other hother := by
    -- The place is one that was there, or that of the new join.
    have hold : ∀ other : Option (Join ι), (∀ b ∈ other, b ∈ r.joins) →
        (r.grow base j).hanging (other.map (bump base))
          = (r.grow base j).joins.countP
              (·.base = (other.map (bump base)).map (·.identifier)) := by
      intro other hother
      rw [hanging_grow, map_identifier_bump, countP_grow, h.counted other hother, hj.base_eq]
    cases other with
    | none => exact hold none (by simp)
    | some b =>
        rcases mem_grow.mp (hother b rfl) with rfl | ⟨l, hl, rfl⟩
        · -- Nothing hangs off the new join: its identifier was not there.
          have hself : b.base ≠ some b.identifier := by
            rw [hj.base_eq]
            intro hb
            obtain ⟨c, hc, hid⟩ := Option.map_eq_some_iff.mp hb
            exact hnew c (hbase c hc) hid
          rw [Option.map_some, countP_grow, h.countP_base_eq_zero hnew, if_neg hself]
          exact hj.children
        · exact hold (some l) (by simpa using hl)
  apart k hk l hl hkl halias := by
    -- Only the pairs with the new join are new.
    rcases mem_grow.mp hk with rfl | ⟨k', hk', rfl⟩ <;>
      rcases mem_grow.mp hl with rfl | ⟨l', hl', rfl⟩
    · rfl
    · simp only [bump_eq] at hkl halias
      exact absurd halias (hj.apart h hbase hl' hkl)
    · simp only [bump_eq] at hkl halias
      exact absurd halias.symm (hj.apart h hbase hk' hkl.symm)
    · simp only [bump_eq] at hkl halias ⊢
      exact h.apart k' hk' l' hl' hkl halias

end WellFormed

/-! ### Along a path -/

/-- What is found under an identifier is a join that has it. -/
theorem get?_eq_some {r : JoinRegistry ι} {identifier : String} {j : Join ι}
    (hj : r.get? identifier = some j) : j ∈ r.joins ∧ j.identifier = identifier := by
  rw [get?] at hj
  have hid := List.find?_some hj
  exact ⟨List.mem_of_find?_eq_some hj, by simpa using hid⟩

/-- Nothing is found just if no join has the identifier. -/
theorem get?_eq_none {r : JoinRegistry ι} {identifier : String}
    (hr : r.get? identifier = none) : ∀ k ∈ r.joins, k.identifier ≠ identifier := by
  simpa [get?] using hr

/-- A step to a join that is there changes nothing. -/
theorem step_found {r : JoinRegistry ι} {base : Option (Join ι)} {segment : String} {j : Join ι}
    (hget : r.get? (identifierUnder base segment) = some j) (schema : Schema ι) (root : ι)
    (depth : Nat) : (step schema root base depth segment).exec r = (.ok j, r) := by
  unfold step
  rw [Work.exec_get_bind]
  cases base <;> (rw [identifierUnder] at hget; rw [hget]; rfl)

/-- A step to a join that is not there makes it. -/
theorem step_missing {r : JoinRegistry ι} {base : Option (Join ι)} {segment : String}
    (hget : r.get? (identifierUnder base segment) = none) (schema : Schema ι) (root : ι)
    (depth : Nat) :
    (step schema root base depth segment).exec r
      = (create schema root base (identifierUnder base segment) depth segment).exec r := by
  unfold step
  rw [Work.exec_get_bind]
  cases base <;> (rw [identifierUnder] at hget; rw [hget]; rfl)

/-- A step fails and changes nothing, or it finds its join, or it makes
one that was not there. -/
theorem step_cases (schema : Schema ι) (root : ι) (base : Option (Join ι)) (depth : Nat)
    (segment : String) (r : JoinRegistry ι) :
    (∃ e, (step schema root base depth segment).exec r = (.error e, r)) ∨
    (∃ j, (step schema root base depth segment).exec r = (.ok j, r) ∧
      j ∈ r.joins ∧ j.identifier = identifierUnder base segment) ∨
    ∃ j, (step schema root base depth segment).exec r = (.ok j, r.grow base j) ∧
      Made schema root r base (identifierUnder base segment) depth segment j ∧
      ∀ k ∈ r.joins, k.identifier ≠ identifierUnder base segment := by
  cases hget : r.get? (identifierUnder base segment) with
  | some j => exact Or.inr (Or.inl ⟨j, step_found hget schema root depth, get?_eq_some hget⟩)
  | none =>
      rw [step_missing hget]
      rcases create_cases schema root base (identifierUnder base segment) depth segment r with
        ⟨e, he⟩ | ⟨j, hj, hmade⟩
      · exact Or.inl ⟨e, he⟩
      · exact Or.inr (Or.inr ⟨j, hj, hmade, get?_eq_none hget⟩)

section Along
variable {schema : Schema ι} {root : ι} {maxDepth : Nat}

/-- What every step keeps is kept along a path. -/
theorem walk_keeps {P : JoinRegistry ι → Prop}
    (hstep : ∀ base depth segment, Work.Keeps P (step schema root base depth segment))
    (path : List String) (base : Join ι) (depth : Nat) :
    Work.Keeps P (walk schema root base depth path) := by
  induction path generalizing base depth with
  | nil => exact Work.keeps_pure base
  | cons segment path ih =>
      exact Work.keeps_bind (hstep (some base) depth segment) fun join => ih join (depth + 1)

/-- What every step keeps is kept by `resolve`. -/
theorem resolve_keeps {P : JoinRegistry ι → Prop}
    (hstep : ∀ base depth segment, Work.Keeps P (step schema root base depth segment))
    (path : List String) : Work.Keeps P (resolve schema root maxDepth path) := by
  unfold resolve
  split
  · exact Work.keeps_fail _
  · split
    · exact Work.keeps_fail _
    · cases path with
      | nil => exact Work.keeps_fail _
      | cons segment path =>
          exact Work.keeps_bind (hstep none 0 segment) fun join => walk_keeps hstep path join 1

/-- A step after a base that is there keeps the tree: it fails and
changes nothing, or its join is there for the next step. -/
theorem step_spec {r : JoinRegistry ι} (h : WellFormed schema root maxDepth r)
    (base : Option (Join ι)) (depth : Nat) (segment : String) (hbase : ∀ b ∈ base, b ∈ r.joins)
    (hdot : '.' ∉ segment.toList) (hunder : depth = depthUnder base)
    (hdepth : depth < maxDepth) :
    (∃ e, (step schema root base depth segment).exec r = (.error e, r)) ∨
    ∃ j r', (step schema root base depth segment).exec r = (.ok j, r') ∧
      WellFormed schema root maxDepth r' ∧ j ∈ r'.joins ∧ j.depth = depth := by
  subst hunder
  rcases step_cases schema root base (depthUnder base) segment r with
    he | ⟨j, hj, hmem, hid⟩ | ⟨j, hj, hmade, hnew⟩
  · exact Or.inl he
  · -- The depth is read off the identifier, which is that of the step.
    have hsegments : (splitPath (identifierUnder base segment)).length = j.depth + 1 :=
      hid ▸ h.length_splitPath j hmem
    rw [splitPath_identifierUnder base hdot, List.length_append, List.length_singleton,
      h.length_segmentsUnder hbase] at hsegments
    exact Or.inr ⟨j, r, hj, h, hmem, (Nat.succ_injective hsegments).symm⟩
  -- The join was made, and is the newest one of the tree.
  · refine Or.inr ⟨j, r.grow base j, hj, ?_, mem_grow.mpr (Or.inl rfl), hmade.depth_eq⟩
    exact wellFormed_grow h hbase hdot hdepth hmade (hmade.identifier_eq ▸ hnew)

/-- A walk from a base that is there keeps the tree, as long as its
relations do not lead too deep. -/
theorem walk_spec {path : List String} {r : JoinRegistry ι} {base : Join ι}
    (h : WellFormed schema root maxDepth r) (hbase : base ∈ r.joins) (hdot : DotFree path)
    (hdepth : base.depth + path.length < maxDepth) :
    WellFormed schema root maxDepth ((walk schema root base (base.depth + 1) path).exec r).2 := by
  induction path generalizing r base with
  | nil => exact h
  | cons segment path ih =>
      -- The rest of the path starts one relation deeper, at the join of the step.
      rw [List.length_cons] at hdepth
      rw [walk]
      rcases step_spec h (some base) (base.depth + 1) segment (by simpa using hbase)
          (hdot segment (by simp)) rfl (by omega) with
        ⟨e, he⟩ | ⟨j, r', hj, hr', hmem, hjdepth⟩
      · rw [Work.exec_bind_error he]
        exact h
      · rw [Work.exec_bind_ok hj]
        rw [← hjdepth]
        exact ih hr' hmem (fun s hs => hdot s (by simp [hs])) (by omega)

/-- The joins of a path without points keep the tree, also where the
path fails on the way. -/
theorem resolve_wellFormed {path : List String} (hdot : DotFree path) :
    Work.Keeps (WellFormed schema root maxDepth) (resolve schema root maxDepth path) := by
  intro r h
  unfold resolve
  split
  · exact h
  · split
    · exact h
    · -- The path is not too long, and it starts at the root.
      rename_i hlength
      cases path with
      | nil => exact h
      | cons segment path =>
          rw [List.length_cons] at hlength
          -- The first step starts at the root, and the others at the joins before them.
          rcases step_spec h none 0 segment (by simp) (hdot segment (by simp)) rfl
              (by omega) with
            ⟨e, he⟩ | ⟨j, r', hj, hr', hmem, hjdepth⟩
          · show WellFormed schema root maxDepth ((_ >>= _ : Work _ _).exec r).2
            rw [Work.exec_bind_error he]
            exact h
          · show WellFormed schema root maxDepth ((_ >>= _ : Work _ _).exec r).2
            rw [Work.exec_bind_ok hj]
            have hpath : DotFree path := fun s hs => hdot s (by simp [hs])
            have hwalk := walk_spec hr' hmem hpath (by omega)
            rw [hjdepth] at hwalk
            exact hwalk

end Along

end DataAccess.JoinRegistry
