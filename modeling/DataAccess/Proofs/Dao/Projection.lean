import DataAccess.Proofs.Criteria.FetchOrder
import DataAccess.Proofs.Dao.Program

/-!
# `DataAccess.Proofs.Dao.Projection`: projections that are rejected

`Dao.project` resolves the names of fields one after another, on the
criteria that it is given. A name that is refused leaves no joins behind,
but the names before it do: nothing puts these back, while
`Criteria.addFetches` puts back the joins of all its paths
(`Criteria.atomic_addFetches`).

`Dao.project_rejected` says what is left: the joins of the names before
the one that is refused, and nothing else. The criteria is as it was just
if each of these names finds its joins registered already.
-/

set_option autoImplicit false

namespace DataAccess

variable {σ ι ε : Type}

/-! ### A registry that does not get longer -/

namespace JoinRegistry

/-- The registry is the same, or has more joins. -/
def Longer (r r' : JoinRegistry ι) : Prop :=
  r' = r ∨ r.joins.length < r'.joins.length

/-- What is longer than a longer registry is longer than the first. -/
theorem Longer.trans {r r' r'' : JoinRegistry ι} (h : r.Longer r') (h' : r'.Longer r'') :
    r.Longer r'' := by
  rcases h with rfl | h
  · exact h'
  · rcases h' with rfl | h'
    · exact .inr h
    · exact .inr (h.trans h')

/-- What gets longer does not get back to what it was. -/
theorem Longer.eq {r r' : JoinRegistry ι} (h : r.Longer r') (h' : r'.Longer r) : r' = r := by
  rcases h with h | h
  · exact h
  · rcases h' with h' | h'
    · exact h'.symm
    · exact absurd h (Nat.lt_asymm h')

/-- Resolving a path lengthens the registry, if it changes it at all. -/
theorem resolve_longer (schema : Schema ι) (root : ι) (maxDepth : Nat) (path : List String)
    (r : JoinRegistry ι) : Work.Keeps r.Longer (resolve schema root maxDepth path) := by
  refine resolve_keeps (fun base depth segment s hs => ?_) path
  rcases step_cases schema root base depth segment s with ⟨e, he⟩ | ⟨j, hj, -⟩ | ⟨j, hj, -⟩
  · rw [he]
    exact hs
  · rw [hj]
    exact hs
  · -- A join that is made is one more.
    rw [hj]
    refine hs.trans (.inr ?_)
    rw [grow, (insertOrdered_perm j _).length_eq, List.length_cons, List.length_map]
    exact Nat.lt_succ_self _

end JoinRegistry

namespace Criteria

open JoinRegistry (WellFormed)

variable {schema : Schema ι} {c c' : Criteria ι} {names : List String} {columns : List ColumnRef}

/-! ### Names that are resolved in turn -/

/-- The criteria are the same, but for joins of which there may be more. -/
def Lengthened (c₀ c : Criteria ι) : Prop :=
  SameButJoins c₀ c ∧ c₀.joins.Longer c.joins

/-- Lengthening the joins is kept by all that resolves names. -/
theorem resolvable_lengthened (schema : Schema ι) (c₀ : Criteria ι) :
    Resolvable schema (fun _ => True) (Lengthened c₀) where
  dotFree _ _ := trivial
  resolve path _ c _ :=
    Work.keeps_within (R := c₀.joins.Longer) (fun _ h => h.2)
      (JoinRegistry.resolve_longer schema c.root c.joinMaxDepth path c₀.joins)
      fun _ _ h hlonger => ⟨h.1, hlonger⟩
  restore _ _ h h' := ⟨h'.1, h.2⟩

/-- A criteria with the joins as they were counts as lengthened. -/
theorem Lengthened.refl (c : Criteria ι) : Lengthened c c :=
  ⟨rfl, .inl rfl⟩

/-- Two criteria that each lengthen the other are the same. -/
theorem Lengthened.eq (h : Lengthened c c') (h' : Lengthened c' c) : c' = c := by
  rw [SameButJoins.eq h.1, h.2.eq h'.2]

/-- A name that is resolved, or refused, lengthens the joins. -/
theorem lengthened_of_resolveField {name : String} {column : Result ColumnRef}
    (h : (resolveField schema name).exec c = (column, c')) : Lengthened c c' := by
  have hkeeps := (resolvable_lengthened schema c).resolveField name c (.refl c)
  rwa [h] at hkeeps

/-- Several names that are resolved in turn lengthen the joins. -/
theorem lengthened_of_mapM {result : Result (List ColumnRef)}
    (h : (names.mapM (resolveField schema)).exec c = (result, c')) : Lengthened c c' := by
  have hkeeps := Work.keeps_mapM names (resolvable_lengthened schema c).resolveField c (.refl c)
  rwa [h] at hkeeps

/-- Names leave a criteria as it was just if each of them does so by
itself. -/
theorem mapM_unchanged_iff (h : (names.mapM (resolveField schema)).exec c = (.ok columns, c')) :
    c' = c ↔ ∀ name ∈ names, ((resolveField schema name).exec c).2 = c := by
  induction names generalizing c columns with
  | nil =>
      cases h
      simp
  | cons name names ih =>
      obtain ⟨column, t, rest, hname, hrest, -⟩ := Work.exec_mapM_cons_eq_ok.mp h
      rw [List.forall_mem_cons, hname]
      constructor
      · rintro rfl
        -- The first name made no join, as the others take none away.
        obtain rfl : t = c' :=
          (lengthened_of_resolveField hname).eq (lengthened_of_mapM hrest)
        exact ⟨rfl, (ih hrest).mp rfl⟩
      · rintro ⟨rfl, hnames⟩
        exact (ih hrest).mpr hnames

/-! ### The joins of names -/

section Sound
variable {root : ι} {settings : QuerySettings}

/-- The joins of a name are there, and with them those on the way. -/
theorem mem_paths_resolveField
    (h : Sound schema root settings (WellFormed schema root settings.joinMaxDepth) c)
    {name : String} {column : ColumnRef}
    (hok : (resolveField schema name).exec c = (.ok column, c'))
    {path : List String} :
    path ∈ c'.joins.paths ↔ path ∈ c.joins.paths ∨ path ≠ [] ∧ path <+: (splitName name).1 := by
  rcases hsplit : splitName name with ⟨relations, field⟩
  by_cases hne : relations = []
  · subst hne
    exact (resolvesAlong_plain h hsplit).registered column c' hok path
  · exact (resolvesAlong_path h hsplit hne).registered column c' hok path

/-- A name that can be resolved leaves the criteria as it was just if it
needs no join or finds it registered. -/
theorem resolveField_unchanged_iff
    (h : Sound schema root settings (WellFormed schema root settings.joinMaxDepth) c)
    {name : String} {column : ColumnRef}
    (hok : (resolveField schema name).exec c = (.ok column, c')) :
    c' = c ↔ (splitName name).1 = [] ∨ (splitName name).1 ∈ c.joins.paths := by
  rcases hsplit : splitName name with ⟨relations, field⟩
  -- A name without relations is looked up in the root type, and joins nothing.
  by_cases hne : relations = []
  · subst hne
    exact iff_of_true ((exec_resolveField_plain_eq_ok hsplit).mp hok).1 (.inl rfl)
  · constructor
    · rintro rfl
      have hprefix : relations <+: (splitName name).1 := by simp [hsplit]
      exact .inr ((mem_paths_resolveField h hok).mpr (.inr ⟨hne, hprefix⟩))
    -- A registered path is found again, and nothing is added.
    · rintro (hnil | hmem)
      · exact absurd hnil hne
      · obtain ⟨j, r', hj, rfl, -⟩ := (exec_resolveField_path_eq_ok hsplit hne).mp hok
        have hnamed := (JoinRegistry.exec_resolve_eq_ok.mp hj).1
        obtain ⟨k, hk⟩ := JoinRegistry.resolve_registered h.joins hnamed hmem
        rw [h.root_eq, h.depth_eq, hk] at hj
        obtain ⟨-, rfl⟩ := Prod.mk.inj hj
        rfl

/-- Resolving a name keeps a criteria sound, with its registry well formed. -/
theorem sound_of_resolveField
    (h : Sound schema root settings (WellFormed schema root settings.joinMaxDepth) c)
    {name : String} {column : Result ColumnRef}
    (hrun : (resolveField schema name).exec c = (column, c')) :
    Sound schema root settings (WellFormed schema root settings.joinMaxDepth) c' := by
  have hresolve : ∀ path, DotFree path → Work.Keeps (WellFormed schema root settings.joinMaxDepth)
      (JoinRegistry.resolve schema root settings.joinMaxDepth path) :=
    fun path hpath => JoinRegistry.resolve_wellFormed hpath
  have hkeeps := (resolvable_sound hresolve fun _ => id).resolveField name c h
  rwa [hrun] at hkeeps

/-- The joins of names that are resolved in turn are all there. -/
theorem mem_paths_mapM
    (h : Sound schema root settings (WellFormed schema root settings.joinMaxDepth) c)
    (hok : (names.mapM (resolveField schema)).exec c = (.ok columns, c')) {path : List String} :
    path ∈ c'.joins.paths ↔ path ∈ c.joins.paths ∨
      path ≠ [] ∧ ∃ name ∈ names, path <+: (splitName name).1 := by
  induction names generalizing c columns with
  | nil =>
      cases hok
      simp
  | cons name names ih =>
      obtain ⟨column, t, rest, hname, hrest, -⟩ := Work.exec_mapM_cons_eq_ok.mp hok
      rw [ih (sound_of_resolveField h hname) hrest, mem_paths_resolveField h hname, or_assoc,
        ← and_or_left]
      simp only [List.mem_cons, exists_eq_or_imp]

/-- Several names leave a criteria as it was just if each of them needs no
join or finds it registered. -/
theorem mapM_unchanged_iff_registered
    (h : Sound schema root settings (WellFormed schema root settings.joinMaxDepth) c)
    (hok : (names.mapM (resolveField schema)).exec c = (.ok columns, c')) :
    c' = c ↔ ∀ name ∈ names, (splitName name).1 = [] ∨ (splitName name).1 ∈ c.joins.paths := by
  constructor
  · rintro rfl name hname
    by_cases hne : (splitName name).1 = []
    · exact .inl hne
    · exact .inr ((mem_paths_mapM h hok).mpr (.inr ⟨hne, name, hname, List.prefix_refl _⟩))
  · intro hregistered
    induction names generalizing columns with
    | nil =>
        cases hok
        rfl
    | cons name names ih =>
        obtain ⟨column, t, rest, hname, hrest, -⟩ := Work.exec_mapM_cons_eq_ok.mp hok
        obtain ⟨hfirst, hothers⟩ := List.forall_mem_cons.mp hregistered
        -- The first name leaves the criteria as the others find it.
        obtain rfl := (resolveField_unchanged_iff h hname).mpr hfirst
        exact ih hrest hothers

end Sound

end Criteria

namespace Dao

open Criteria

/-- A projection of which a field cannot be resolved fails with the error
of the first such field, and sends nothing. The fields before it were
resolved, and the criteria keeps their joins: it is as it was just if
none of these fields makes a join by itself. For a criteria that a program
reaches these are the fields whose relations are not registered yet. -/
theorem project_rejected (dao : Dao σ ι ε) (c : Criteria ι) (names : List String) {e : Error}
    (h : ((names.mapM (resolveField dao.model.schema)).exec c).1 = .error e) :
    ∃ before name after columns c', names = before ++ name :: after ∧
      (before.mapM (resolveField dao.model.schema)).exec c = (.ok columns, c') ∧
      (resolveField dao.model.schema name).exec c' = (.error e, c') ∧
      (∀ s : Session σ, (dao.project names).exec (c, s) = (.error e, (c', s))) ∧
      SameButJoins c c' ∧
      (c' = c ↔ ∀ field ∈ before, ((resolveField dao.model.schema field).exec c).2 = c) ∧
      ∀ root settings changes, (∀ change ∈ changes, change.OnPaths DotFree) →
        c = run dao.model.schema (new root settings) changes →
        (∀ path, path ∈ c'.joins.paths ↔ path ∈ c.joins.paths ∨
          path ≠ [] ∧ ∃ field ∈ before, path <+: (splitName field).1) ∧
        (c' = c ↔ ∀ field ∈ before,
          (splitName field).1 = [] ∨ (splitName field).1 ∈ c.joins.paths) := by
  obtain ⟨before, name, after, columns, c', hnames, hbefore, hname⟩ :=
    Work.exec_mapM_eq_error (Prod.ext h rfl)
  -- The name that fails undoes its own joins, but not those before it.
  have hback := atomic_resolveField dao.model.schema name c' e _ hname
  rw [hback] at hname
  have hall : (names.mapM (resolveField dao.model.schema)).exec c = (.error e, c') :=
    Prod.ext h hback
  refine ⟨before, name, after, columns, c', hnames, hbefore, hname, fun s => ?_,
    (lengthened_of_mapM hbefore).1, mapM_unchanged_iff hbefore, ?_⟩
  · have hsubject : (Database.onSubject (names.mapM (resolveField dao.model.schema))).exec (c, s)
        = (.error e, (c', s)) := by
      rw [Database.onSubject, Work.exec_within, hall]
    rw [project, Work.exec_bind_error hsubject]
  -- Of a criteria that changes lead to, the registry is well formed.
  · rintro root settings changes hpaths rfl
    have hsound := run_sound_wellFormed dao.model.schema root settings hpaths
    exact ⟨fun path => mem_paths_mapM hsound hbefore,
      mapM_unchanged_iff_registered hsound hbefore⟩

/-- Access to people of whom fields are read. -/
def fieldsDao : Dao Script Unit (Option Int64) :=
  ⟨Program.scripted, Program.peopleModel, (), {}⟩

/-- The boss is fetched already, and a projection that fails leaves the
criteria as it was. -/
theorem project_rejected_people :
    let c := run people (new ()) [.fetch "boss"]
    (fieldsDao.project ["id", "boss.id", "nope"]).exec (c, .start {})
      = (.error (.invalidField "Person" "nope"), (c, .start {})) := by
  intro c
  have herror : ((["id", "boss.id", "nope"].mapM (resolveField people)).exec c).1
      = .error (.invalidField "Person" "nope") := by decide +kernel
  obtain ⟨before, name, after, columns, c', hnames, -, -, hrun, -, -, hreached⟩ :=
    project_rejected fieldsDao c ["id", "boss.id", "nope"] herror
  have hboss : ∀ change ∈ [Change.fetch "boss"], change.OnPaths DotFree := by
    simp [Change.OnPaths]
  -- None of the names needs another join than that of the boss.
  have hjoined : ∀ field ∈ ["id", "boss.id", "nope"],
      (splitName field).1 = [] ∨ (splitName field).1 ∈ c.joins.paths := by decide +kernel
  obtain ⟨-, hunchanged⟩ := hreached () {} [.fetch "boss"] hboss rfl
  have hsame : c' = c := hunchanged.mpr fun field hfield =>
    hjoined field (hnames ▸ List.mem_append_left _ hfield)
  rw [hrun, hsame]

/-- The boss is not fetched, and a projection that fails leaves the join
behind. Nothing is sent, but the next find reads the bosses too. -/
theorem project_rejected_left :
    let failed := (fieldsDao.project ["boss.id", "nope"]).exec (new (), .start {})
    failed.1 = .error (.invalidField "Person" "nope") ∧ failed.2.2 = .start {} ∧
      (new () : Criteria Unit).joins.paths = [] ∧ failed.2.1.joins.paths = [["boss"]] ∧
      Dialect.source .sqlite ((new ()).selection people) = "\"people\" t_main" ∧
      Dialect.source .sqlite (failed.2.1.selection people)
        = "\"people\" t_main LEFT JOIN \"people\" t_1 ON t_1.id = t_main.boss_id" ∧
      (failed.2.1.projection people).map (·.text)
        = ["t_main.id", "t_main.boss_id", "t_main.mentor_id", "t_1.id", "t_1.boss_id",
          "t_1.mentor_id"] := by
  refine ⟨rfl, rfl, rfl, ?_⟩
  decide +kernel

end Dao

end DataAccess
