import DataAccess.Proofs.Criteria.FieldResolution
import DataAccess.Proofs.Criteria.JoinRenaming
import DataAccess.Sql.Dialect

/-!
# `DataAccess.Proofs.Criteria.FetchOrder`: fetches in any order

A list of paths is fetched one path after another. `Fetchable` says which
paths can be fetched at all, and `run_fetchPaths` what the fetches leave
behind: nothing but joins, of the paths and of the parts at their starts.

So the order of the fetches matters only to the numbers in the aliases,
and fetching a path again does not matter at all (`run_fetchPaths_order`).
The statements of two orders are the same once the aliases of one are
renamed to those of the other.
-/

set_option autoImplicit false

namespace DataAccess.Criteria

open JoinRegistry (WellFormed)

variable {ι : Type} {schema : Schema ι} {root : ι} {settings : QuerySettings}

/-- The path can be fetched: it has a relation, has no empty one and no
more than are allowed, and is a walk of the schema. -/
structure Fetchable (schema : Schema ι) (root : ι) (maxDepth : Nat) (path : List String) :
    Prop where
  dotFree : DotFree path
  ne_nil : path ≠ []
  short : path.length ≤ maxDepth
  named : "" ∉ path
  walk : ∃ last, schema.Walk root path last

/-- The criteria under other aliases of its joins. -/
def renamed (rename : Alias → Alias) (c : Criteria ι) : Criteria ι :=
  { c with joins := c.joins.renamed rename }

/-- A criteria that differs in the joins alone is the first one with these
joins. -/
theorem SameButJoins.eq {c₀ c : Criteria ι} (h : SameButJoins c₀ c) :
    c = { c₀ with joins := c.joins } :=
  congrArg (fun d => { d with joins := c.joins }) h

/-- Differing in the joins alone carries over. -/
theorem SameButJoins.trans {c₀ c c' : Criteria ι} (h : SameButJoins c₀ c)
    (h' : SameButJoins c c') : SameButJoins c₀ c' := by
  have hback : { c' with joins := c₀.joins } = { c with joins := c₀.joins } :=
    congrArg (fun d => { d with joins := c₀.joins }) (show { c' with joins := c.joins } = c from h')
  exact hback.trans h

/-! ### One fetch -/

/-- A fetch that succeeds is a path that the registry resolves. -/
theorem exec_addFetchPath_eq_ok {path : List String} {c c' : Criteria ι} :
    (addFetchPath schema path).exec c = (.ok (), c') ↔ ∃ j r',
      (JoinRegistry.resolve schema c.root c.joinMaxDepth path).exec c.joins = (.ok j, r') ∧
      c' = { c with joins := r' } := by
  rw [addFetchPath, exec_keepingJoins_eq_ok, Work.exec_get_bind, Work.exec_bind_eq_ok]
  constructor
  · rintro ⟨j, t, hj, hpure⟩
    simp only [onJoins, Work.exec_within, Prod.mk.injEq] at hj
    simp only [Work.exec_pure, Prod.mk.injEq, true_and] at hpure
    exact ⟨j, _, Prod.ext hj.1 rfl, by rw [← hpure, ← hj.2]⟩
  · rintro ⟨j, r', hj, rfl⟩
    refine ⟨j, _, ?_, rfl⟩
    rw [onJoins, Work.exec_within, hj]

/-- A fetch that can be made adds joins, of its path and of the parts at
its start, and does nothing else. -/
theorem after_fetchPath {c : Criteria ι}
    (h : Sound schema root settings (WellFormed schema root settings.joinMaxDepth) c)
    {path : List String} (hpath : Fetchable schema root settings.joinMaxDepth path) :
    SameButJoins c (after schema c (.fetchPath path)) ∧
      ∀ part, part ∈ (after schema c (.fetchPath path)).joins.paths ↔
        part ∈ c.joins.paths ∨ part ≠ [] ∧ part <+: path := by
  obtain ⟨j, r', hj⟩ := (JoinRegistry.resolve_ok_iff h.joins hpath.dotFree).mpr
    ⟨hpath.ne_nil, hpath.short, hpath.named, hpath.walk⟩
  have hafter : after schema c (.fetchPath path) = { c with joins := r' } := by
    rw [← h.root_eq, ← h.depth_eq] at hj
    exact congrArg Prod.snd (exec_addFetchPath_eq_ok.mpr ⟨j, r', hj, rfl⟩)
  rw [hafter]
  exact ⟨rfl, fun part => JoinRegistry.mem_paths_resolve h.joins hpath.dotFree hj⟩

/-! ### Many fetches -/

/-- Fetches that can be made leave nothing behind but joins, of their
paths and of the parts at their starts. -/
theorem run_fetchPaths {c : Criteria ι}
    (h : Sound schema root settings (WellFormed schema root settings.joinMaxDepth) c)
    {paths : List (List String)}
    (hpaths : ∀ path ∈ paths, Fetchable schema root settings.joinMaxDepth path) :
    SameButJoins c (run schema c (paths.map .fetchPath)) ∧
      ∀ part, part ∈ (run schema c (paths.map .fetchPath)).joins.paths ↔
        part ∈ c.joins.paths ∨ part ≠ [] ∧ ∃ path ∈ paths, part <+: path := by
  induction paths generalizing c with
  | nil => exact ⟨rfl, by simp [run]⟩
  | cons path paths ih =>
      have hpath := hpaths path (by simp)
      obtain ⟨hsame, hmem⟩ := after_fetchPath h hpath
      -- One fetch leaves a criteria that the others can start from.
      have hafter : Sound schema root settings (WellFormed schema root settings.joinMaxDepth)
          (after schema c (.fetchPath path)) :=
        Change.keeps_sound (fun _ hdot => JoinRegistry.resolve_wellFormed hdot) (fun _ => id)
          JoinRegistry.wellFormed_empty
          (show (Change.fetchPath path).OnPaths DotFree from hpath.dotFree)
          c h
      obtain ⟨hsame', hmem'⟩ := ih hafter fun other ho => hpaths other (by simp [ho])
      refine ⟨hsame.trans hsame', fun part => ?_⟩
      rw [List.map_cons, run, List.foldl_cons, ← run, hmem', hmem]
      simp only [List.mem_cons, exists_eq_or_imp]
      tauto

/-- No join of a criteria that a program reaches has an empty relation in
its path. -/
theorem run_paths_named (schema : Schema ι) (root : ι) (settings : QuerySettings)
    {changes : List Change} (hpaths : ∀ change ∈ changes, change.OnPaths DotFree) :
    ∀ path ∈ (run schema (new root settings) changes).joins.paths, "" ∉ path := by
  have hresolve : ∀ path, DotFree path →
      Work.Keeps (fun r : JoinRegistry ι => ∀ path ∈ r.paths, "" ∉ path)
        (JoinRegistry.resolve schema root settings.joinMaxDepth path) := by
    intro path hdot r hr part hpart
    rcases JoinRegistry.mem_paths_of_resolve hdot hpart with hold | ⟨-, hstart, hnamed⟩
    · exact hr part hold
    · exact fun hempty => hnamed (hstart.subset hempty)
  have hempty : ∀ path ∈ (JoinRegistry.empty : JoinRegistry ι).paths, "" ∉ path := by
    simp [JoinRegistry.paths, JoinRegistry.empty]
  exact (run_sound hresolve (fun _ => id) hempty (sound_new hempty) hpaths).joins

/-- Fetching a path that is registered changes nothing. -/
theorem addFetchPath_registered (schema : Schema ι) (root : ι) (settings : QuerySettings)
    {changes : List Change} (hpaths : ∀ change ∈ changes, change.OnPaths DotFree)
    {path : List String} (hpath : path ∈ (run schema (new root settings) changes).joins.paths) :
    (addFetchPath schema path).exec (run schema (new root settings) changes)
      = (.ok (), run schema (new root settings) changes) := by
  have h := run_sound_wellFormed schema root settings hpaths
  obtain ⟨j, hj⟩ := JoinRegistry.resolve_registered h.joins
    (run_paths_named schema root settings hpaths path hpath) hpath
  refine exec_addFetchPath_eq_ok.mpr ⟨j, _, ?_, rfl⟩
  rw [h.root_eq, h.depth_eq]
  exact hj

/-- The same paths, fetched in any order and any number of times, leave
the same criteria behind but for the names of the aliases. There is a
join for every path and every part at its start, in the same order
whichever was asked for first, and one renaming of the aliases makes the
joins of one criteria those of the other, and its statements, too.
Fetching a path again that is registered changes nothing at all, whatever
changes led there. -/
theorem run_fetchPaths_order (schema : Schema ι) (root : ι) (settings : QuerySettings)
    (paths paths' : List (List String))
    (hfetchable : ∀ path ∈ paths, Fetchable schema root settings.joinMaxDepth path)
    (hsame : ∀ path, path ∈ paths ↔ path ∈ paths') :
    let c := run schema (new root settings) (paths.map .fetchPath)
    let c' := run schema (new root settings) (paths'.map .fetchPath)
    c.joins.joins.map (·.identifier) = c'.joins.joins.map (·.identifier) ∧
      (∀ part, part ∈ c.joins.paths ↔ part ≠ [] ∧ ∃ path ∈ paths, part <+: path) ∧
      (∃ rename : Alias → Alias, rename .main = .main ∧
        Set.BijOn rename {a | a ∈ c.joins.aliases} {a | a ∈ c'.joins.aliases} ∧
        c.joins.joins.map (Join.renamed rename) = c'.joins.joins ∧ c.renamed rename = c' ∧
        ∀ d : Dialect, d.text ((c.renamed rename).find schema) = d.text (c'.find schema) ∧
          d.text ((c.renamed rename).count schema) = d.text (c'.count schema)) ∧
      ∀ changes : List Change, (∀ change ∈ changes, change.OnPaths DotFree) →
        ∀ path ∈ (run schema (new root settings) changes).joins.paths,
          (addFetchPath schema path).exec (run schema (new root settings) changes)
            = (.ok (), run schema (new root settings) changes) := by
  intro c c'
  have hnew : Sound schema root settings (WellFormed schema root settings.joinMaxDepth)
      (new root settings) := sound_new JoinRegistry.wellFormed_empty
  have hfetchable' : ∀ path ∈ paths', Fetchable schema root settings.joinMaxDepth path :=
    fun path hpath => hfetchable path ((hsame path).mpr hpath)
  obtain ⟨hrest, hparts⟩ := run_fetchPaths hnew hfetchable
  obtain ⟨hrest', hparts'⟩ := run_fetchPaths hnew hfetchable'
  have hdot : ∀ {fetched : List (List String)},
      (∀ path ∈ fetched, Fetchable schema root settings.joinMaxDepth path) →
      ∀ change ∈ fetched.map Change.fetchPath, change.OnPaths DotFree := by
    intro fetched hall change hchange
    obtain ⟨path, hpath, rfl⟩ := List.mem_map.mp hchange
    exact (hall path hpath).dotFree
  have h := run_wellFormed schema root settings (hdot hfetchable)
  have h' := run_wellFormed schema root settings (hdot hfetchable')
  have hpaths : ∀ part, part ∈ c.joins.paths ↔ part ∈ c'.joins.paths := by
    intro part
    rw [hparts, hparts']
    simp only [hsame]
  have hjoins := h.renamed_eq h' hpaths
  -- The fetches changed nothing but the joins, which are those of `c'` once they are renamed.
  have hc : c.renamed (c.joins.renameTo c'.joins) = c' :=
    calc c.renamed (c.joins.renameTo c'.joins)
        = { c with joins := c'.joins } := by rw [renamed, hjoins]
      _ = { new root settings with joins := c'.joins } :=
        congrArg (fun d => { d with joins := c'.joins }) hrest.eq
      _ = c' := hrest'.eq.symm
  refine ⟨h.map_identifier_eq h' hpaths, fun part => ?_, ⟨c.joins.renameTo c'.joins,
    h.renameTo_main _, h.bijOn_renameTo h' hpaths, congrArg JoinRegistry.joins hjoins, hc,
    fun d => by rw [hc]; exact ⟨rfl, rfl⟩⟩, fun changes hchanges path hpath =>
    addFetchPath_registered schema root settings hchanges hpath⟩
  have hnone : part ∉ (new root settings).joins.paths := by
    simp [new, JoinRegistry.paths, JoinRegistry.empty]
  rw [hparts, or_iff_right hnone]

/-- Bosses and mentors of people are people, however often one asks. -/
theorem fetchable_people {path : List String} (hne : path ≠ []) (hshort : path.length ≤ 20)
    (hpath : ∀ segment ∈ path, segment = "boss" ∨ segment = "mentor") :
    Fetchable people () 20 path where
  dotFree segment hs := by
    rcases hpath segment hs with rfl | rfl <;> decide
  ne_nil := hne
  short := hshort
  named hempty := by simpa using hpath "" hempty
  walk := by
    refine ⟨(), ?_⟩
    clear hne hshort
    -- A walk along any such names stays with people.
    induction path with
    | nil => exact .here ()
    | cons segment path ih =>
        have hrest := ih fun s hs => hpath s (by simp [hs])
        rcases hpath segment (by simp) with rfl | rfl
        · exact .next ⟨rfl, rfl, rfl⟩ hrest
        · exact .next ⟨rfl, rfl, rfl⟩ hrest

/-- The mentor is asked for last, or first and once more at the end: his
alias is another one, and so is that of the boss. -/
theorem run_fetchPaths_order_people :
    let c := run people (new ()) ([["boss", "mentor"], ["mentor"]].map .fetchPath)
    let c' := run people (new ()) ([["mentor"], ["boss", "mentor"], ["mentor"]].map .fetchPath)
    (∃ rename : Alias → Alias, rename .main = .main ∧ c.renamed rename = c') ∧
      c.joins.joins.map (fun j => (j.identifier, j.tableAlias.text))
        = [("boss", "t_1"), ("boss.mentor", "t_1_1"), ("mentor", "t_2")] ∧
      c'.joins.joins.map (fun j => (j.identifier, j.tableAlias.text))
        = [("boss", "t_2"), ("boss.mentor", "t_2_1"), ("mentor", "t_1")] := by
  -- Both lists ask for the same paths, in another order.
  obtain ⟨-, -, ⟨rename, hmain, -, -, hrenamed, -⟩, -⟩ := run_fetchPaths_order people () {}
    [["boss", "mentor"], ["mentor"]] [["mentor"], ["boss", "mentor"], ["mentor"]]
    (by
      intro path hpath
      simp only [List.mem_cons, List.not_mem_nil, or_false] at hpath
      rcases hpath with rfl | rfl <;> exact fetchable_people (by simp) (by simp) (by simp))
    (by
      intro path
      simp only [List.mem_cons, List.not_mem_nil, or_false]
      tauto)
  exact ⟨⟨rename, hmain, hrenamed⟩, by decide +kernel, by decide +kernel⟩

end DataAccess.Criteria
