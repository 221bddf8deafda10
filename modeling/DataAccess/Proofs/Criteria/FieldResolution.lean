import DataAccess.Proofs.Criteria.RegistryWalk

/-!
# `DataAccess.Proofs.Criteria.FieldResolution`: names that stand for a column

A name is cut at its points into relations and the name of a field.
`ResolvesAlong` says what `resolveField` makes of it: it succeeds if and
only if the relations are a walk of the schema from the root, short
enough and with no empty name, and the type at the end has the field. The
column is then that field's, of the table at the end of the walk.

`run_resolvesAlong` says so of every criteria that a program reaches. Its
joins may be anything that programs leave behind, so that a name may find
all of its joins, some of them or none.
-/

set_option autoImplicit false

namespace DataAccess.Criteria

open JoinRegistry (Prescribed WellFormed)

variable {ι : Type} {schema : Schema ι}

/-! ### The parts of a name -/

/-- The parts of a name are those that its points part. -/
theorem splitName_append (name : String) :
    (splitName name).1 ++ [(splitName name).2] = splitPath name := by
  show (splitPath name).dropLast ++ [(splitPath name).getLast?.getD ""] = splitPath name
  rw [List.getLast?_eq_some_getLast (splitPath_ne_nil name), Option.getD_some,
    List.dropLast_concat_getLast]

/-- What `resolveField` makes of a name, cut into the relations `path` and
the name `field`, for a criteria of `root`. -/
structure ResolvesAlong (schema : Schema ι) (root : ι) (maxDepth : Nat) (c : Criteria ι)
    (name : String) (path : List String) (field : String) : Prop where
  /-- The parts have no points. -/
  dotFree : DotFree (path ++ [field])
  /-- Joined by points they are the name. -/
  joined : ".".intercalate (path ++ [field]) = name
  /-- The name is accepted if and only if it is a walk that is short
  enough, to a type with the field. -/
  accepted : (∃ column, ((resolveField schema name).exec c).1 = .ok column) ↔
    path.length ≤ maxDepth ∧ "" ∉ path ∧
      ∃ kind, schema.Walk root path kind ∧ ∃ f ∈ (schema kind).fields, f.name = field
  /-- The column is that of the field, under the alias of the path. -/
  column : ∀ column c', (resolveField schema name).exec c = (.ok column, c') →
    ∃ kind f tableAlias, schema.Walk root path kind ∧
      (schema kind).fields.find? (·.name == field) = some f ∧
      c'.joins.aliasAt? path = some tableAlias ∧
      column.text = tableAlias.text ++ "." ++ f.column
  /-- The paths that are registered then are those from before and the
  parts at the start of this one. -/
  registered : ∀ column c', (resolveField schema name).exec c = (.ok column, c') →
    ∀ part, part ∈ c'.joins.paths ↔ part ∈ c.joins.paths ∨ part ≠ [] ∧ part <+: path
  /-- The joins on the path are those that the walk prescribes. -/
  prescribed : ∀ column c', (resolveField schema name).exec c = (.ok column, c') →
    ∀ start segment, start ++ [segment] <+: path →
      ∃ j, c'.joins.get? (".".intercalate (start ++ [segment])) = some j ∧
        Prescribed schema root c'.joins start segment j

/-! ### The two kinds of names -/

/-- Work that succeeds keeps the joins that it makes. -/
theorem exec_keepingJoins_eq_ok {α : Type} {w : Work (Criteria ι) α} {c c' : Criteria ι} {a : α} :
    (keepingJoins w).exec c = (.ok a, c') ↔ w.exec c = (.ok a, c') := by
  refine ⟨keepingJoins_ok, fun h => ?_⟩
  simp only [keepingJoins, Work.undoing, Work.exec_of, h]

/-- A name without points is a field of the root. -/
theorem exec_resolveField_plain_eq_ok {name field : String} (hsplit : splitName name = ([], field))
    {c c' : Criteria ι} {column : ColumnRef} :
    (resolveField schema name).exec c = (.ok column, c') ↔
      c' = c ∧ ∃ f, (schema c.root).fields.find? (·.name == field) = some f ∧
        column = ⟨.main, f.column⟩ := by
  have hname : name = field := by
    rw [← intercalate_splitPath name, ← splitName_append, hsplit]
    exact String.intercalate_singleton
  rw [exec_resolveField_plain hsplit, ← hname]
  constructor
  · intro h
    obtain ⟨hcolumn, rfl⟩ := Prod.mk.inj h
    cases htext : (schema c.root).columnName name <;> rw [htext] at hcolumn <;> cases hcolumn
    obtain ⟨f, hf, rfl⟩ := Declaration.columnName_eq_ok.mp htext
    exact ⟨rfl, f, hf, rfl⟩
  · rintro ⟨rfl, f, hf, rfl⟩
    rw [Declaration.columnName_eq_ok.mpr ⟨f, hf, rfl⟩]
    rfl

/-- Any other name is a field of the type at the end of its relations. -/
theorem exec_resolveField_path_eq_ok {name field : String} {path : List String}
    (hsplit : splitName name = (path, field)) (hne : path ≠ []) {c c' : Criteria ι}
    {column : ColumnRef} :
    (resolveField schema name).exec c = (.ok column, c') ↔ ∃ j r',
      (JoinRegistry.resolve schema c.root c.joinMaxDepth path).exec c.joins = (.ok j, r') ∧
      c' = { c with joins := r' } ∧
      ∃ f, (schema j.target).fields.find? (·.name == field) = some f ∧
        column = ⟨j.tableAlias, f.column⟩ := by
  obtain ⟨segment, rest, rfl⟩ := List.exists_cons_of_ne_nil hne
  rw [resolveField, exec_keepingJoins_eq_ok, resolvePath, Work.exec_get_bind, hsplit]
  constructor
  · intro hok
    -- Only the joins change, and the field is looked up in the type of the last one.
    obtain ⟨j, t, hj, hrest⟩ := Work.exec_bind_eq_ok.mp hok
    obtain ⟨text, htext, hcolumn⟩ := Work.exec_ofResult_bind_eq_ok.mp hrest
    obtain ⟨f, hf, rfl⟩ := Declaration.columnName_eq_ok.mp htext
    simp only [onJoins, Work.exec_within, Prod.mk.injEq] at hj
    simp only [Work.exec_pure, Prod.mk.injEq, Except.ok.injEq] at hcolumn
    refine ⟨j, _, Prod.ext hj.1 rfl, ?_, f, hf, hcolumn.1.symm⟩
    rw [← hcolumn.2, ← hj.2]
  · rintro ⟨j, r', hj, rfl, f, hf, rfl⟩
    have hjoin : (onJoins (JoinRegistry.resolve schema c.root c.joinMaxDepth
        (segment :: rest))).exec c = (.ok j, { c with joins := r' }) := by
      rw [onJoins, Work.exec_within, hj]
    refine Work.exec_bind_eq_ok.mpr ⟨j, _, hjoin, Work.exec_ofResult_bind_eq_ok.mpr ?_⟩
    exact ⟨f.column, Declaration.columnName_eq_ok.mpr ⟨f, hf, rfl⟩, rfl⟩

/-! ### Every name -/

section Sound
variable {root : ι} {settings : QuerySettings} {c : Criteria ι}

/-- A name without points, for a criteria whose joins are a tree. -/
theorem resolvesAlong_plain
    (h : Sound schema root settings (WellFormed schema root settings.joinMaxDepth) c)
    {name field : String} (hsplit : splitName name = ([], field)) :
    ResolvesAlong schema root settings.joinMaxDepth c name [] field where
  dotFree := by
    have hdot := dotFree_splitPath name
    rwa [← splitName_append, hsplit] at hdot
  joined := by
    have hjoined := intercalate_splitPath name
    rwa [← splitName_append, hsplit] at hjoined
  accepted := by
    constructor
    · rintro ⟨column, hcolumn⟩
      obtain ⟨-, f, hf, -⟩ := (exec_resolveField_plain_eq_ok hsplit).mp (Prod.ext hcolumn rfl)
      rw [h.root_eq] at hf
      exact ⟨Nat.zero_le _, by simp, root, .here root, Declaration.exists_field_iff.mp ⟨f, hf⟩⟩
    -- The walk along no relation ends where it starts, at the root.
    · rintro ⟨-, -, kind, hwalk, hfield⟩
      obtain rfl := Schema.walk_nil_iff.mp hwalk
      obtain ⟨f, hf⟩ := Declaration.exists_field_iff.mpr hfield
      rw [← h.root_eq] at hf
      exact ⟨_, congrArg Prod.fst ((exec_resolveField_plain_eq_ok hsplit).mpr ⟨rfl, f, hf, rfl⟩)⟩
  column column c' hok := by
    obtain ⟨-, f, hf, rfl⟩ := (exec_resolveField_plain_eq_ok hsplit).mp hok
    rw [h.root_eq] at hf
    exact ⟨root, f, .main, .here root, hf, rfl, rfl⟩
  registered column c' hok part := by
    obtain ⟨rfl, -⟩ := (exec_resolveField_plain_eq_ok hsplit).mp hok
    exact ⟨Or.inl, fun hpart => hpart.resolve_right fun hnew => hnew.1 (List.prefix_nil.mp hnew.2)⟩
  prescribed column c' hok start segment hstart := by
    exact absurd (List.prefix_nil.mp hstart) (by simp)

/-- A name with relations, for a criteria whose joins are a tree. -/
theorem resolvesAlong_path
    (h : Sound schema root settings (WellFormed schema root settings.joinMaxDepth) c)
    {name field : String} {path : List String} (hsplit : splitName name = (path, field))
    (hne : path ≠ []) : ResolvesAlong schema root settings.joinMaxDepth c name path field := by
  have hdot : DotFree (path ++ [field]) := by
    have hdot := dotFree_splitPath name
    rwa [← splitName_append, hsplit] at hdot
  have hpath : DotFree path := fun segment hs => hdot segment (by simp [hs])
  -- The join of the path is there afterwards, and all joins are a tree.
  have hends : ∀ {column c'}, (resolveField schema name).exec c = (.ok column, c') → ∃ j f,
      (JoinRegistry.resolve schema root settings.joinMaxDepth path).exec c.joins
        = (.ok j, c'.joins) ∧ WellFormed schema root settings.joinMaxDepth c'.joins ∧
      j ∈ c'.joins.joins ∧ splitPath j.identifier = path ∧
      (schema j.target).fields.find? (·.name == field) = some f ∧
      column = ⟨j.tableAlias, f.column⟩ := by
    intro column c' hok
    obtain ⟨j, r', hj, rfl, f, hf, rfl⟩ := (exec_resolveField_path_eq_ok hsplit hne).mp hok
    rw [h.root_eq, h.depth_eq] at hj
    obtain ⟨hmem, hid⟩ := JoinRegistry.resolve_ok hpath hj
    have hwell := JoinRegistry.resolve_wellFormed hpath c.joins h.joins
    rw [hj] at hwell
    exact ⟨j, f, hj, hwell, hmem, hid, hf, rfl⟩
  refine ⟨hdot, ?_, ⟨?_, ?_⟩, ?_, ?_, ?_⟩
  · rw [← intercalate_splitPath name, ← splitName_append, hsplit]
  · rintro ⟨column, hcolumn⟩
    obtain ⟨j, f, hj, hwell, hmem, hid, hf, -⟩ := hends (Prod.ext hcolumn rfl)
    obtain ⟨-, hlength, hsegments, -⟩ :=
      (JoinRegistry.resolve_ok_iff h.joins hpath).mp ⟨j, _, hj⟩
    exact ⟨hlength, hsegments, j.target, hid ▸ hwell.walk j hmem,
      Declaration.exists_field_iff.mp ⟨f, hf⟩⟩
  · rintro ⟨hlength, hsegments, kind, hwalk, hfield⟩
    obtain ⟨f, hf⟩ := Declaration.exists_field_iff.mpr hfield
    obtain ⟨j, r', hj⟩ :=
      (JoinRegistry.resolve_ok_iff h.joins hpath).mpr ⟨hne, hlength, hsegments, kind, hwalk⟩
    -- The walk ends at the type of the join that was resolved.
    obtain ⟨hmem, hid⟩ := JoinRegistry.resolve_ok hpath hj
    have hwell := JoinRegistry.resolve_wellFormed hpath c.joins h.joins
    rw [hj] at hwell
    obtain rfl : kind = j.target := hwalk.unique (hid ▸ hwell.walk j hmem)
    rw [← h.root_eq, ← h.depth_eq] at hj
    exact ⟨_, congrArg Prod.fst
      ((exec_resolveField_path_eq_ok hsplit hne).mpr ⟨j, r', hj, rfl, f, hf, rfl⟩)⟩
  · intro column c' hok
    obtain ⟨j, f, -, hwell, hmem, rfl, hf, rfl⟩ := hends hok
    exact ⟨j.target, f, j.tableAlias, hwell.walk j hmem, hf, hwell.aliasAt?_splitPath hmem, rfl⟩
  · intro column c' hok part
    obtain ⟨j, f, hj, -⟩ := hends hok
    exact JoinRegistry.mem_paths_resolve h.joins hpath hj
  · intro column c' hok start segment hstart
    obtain ⟨j, f, hj, hwell, -⟩ := hends hok
    obtain ⟨k, hk, hkpath⟩ := JoinRegistry.mem_paths.mp
      ((JoinRegistry.mem_paths_resolve h.joins hpath hj).mpr (Or.inr ⟨by simp, hstart⟩))
    refine ⟨k, hwell.get?_eq_some_iff.mpr ⟨hk, ?_⟩, hwell.prescribed hk hkpath⟩
    rw [← hkpath, intercalate_splitPath]

end Sound

/-- Every criteria that a program reaches accepts the names that are
walks, and no others, and finds the columns that the walks lead to:
whatever the entity types refer to, and whatever joins there are
already. -/
theorem run_resolvesAlong (schema : Schema ι) (root : ι) (settings : QuerySettings)
    (changes : List Change) (hpaths : ∀ change ∈ changes, change.OnPaths DotFree)
    (name : String) :
    ResolvesAlong schema root settings.joinMaxDepth (run schema (new root settings) changes) name
      (splitName name).1 (splitName name).2 := by
  have hsound := run_sound_wellFormed schema root settings hpaths
  rcases hsplit : splitName name with ⟨path, field⟩
  by_cases hne : path = []
  · subst hne
    exact resolvesAlong_plain hsound hsplit
  · exact resolvesAlong_path hsound hsplit hne

/-- The mentor of the boss was fetched before; his boss is reached by the
joins that are there and one more. -/
theorem run_resolvesAlong_people :
    let c := run people (new ()) [.fetch "mentor", .fetch "boss.mentor"]
    let left := ((resolveField people "boss.mentor.boss.id").exec c).2
    ResolvesAlong people () 20 c "boss.mentor.boss.id" ["boss", "mentor", "boss"] "id" ∧
      c.joins.paths = [["boss"], ["boss", "mentor"], ["mentor"]] ∧
      left.joins.paths = [["boss"], ["boss", "mentor"], ["boss", "mentor", "boss"], ["mentor"]] ∧
      ((resolveField people "boss.mentor.boss.id").exec c).1.toOption.map (·.text)
        = some "t_2_1_1.id" := by
  intro c left
  -- The relations of the name, and its field.
  have hsplit : splitName "boss.mentor.boss.id" = (["boss", "mentor", "boss"], "id") := by
    decide +kernel
  have hresolves := run_resolvesAlong people () {} [.fetch "mentor", .fetch "boss.mentor"]
    (by simp [Change.OnPaths]) "boss.mentor.boss.id"
  rw [hsplit] at hresolves
  exact ⟨hresolves, by decide +kernel, by decide +kernel, by decide +kernel⟩

end DataAccess.Criteria
