import DataAccess.Proofs.Criteria.JoinTree
import DataAccess.Proofs.Criteria.Rejection

/-!
# `DataAccess.Proofs.Criteria.FetchPath`: lists of relations and dotted texts

A fetch takes its path as a text, in which points part the relations, or
as a list. The text is cut at its points and fetched as a list, so that
a list and the text it makes are the same work if cutting the text gives
the list back (`addFetch_intercalate`). It does unless a relation of the
list has a point in its name.

`fetchPath_intercalate` says what this means for a criteria that a
program reaches: list and text leave the same criteria behind, whose
aliases are apart and whose paths are not too long. With a point in it a
segment passes for several relations at once, which
`fetchPath_pointed` shows: the depth of the new join is counted in
segments of the list, and its alias may be that of another join.
-/

set_option autoImplicit false

namespace DataAccess.Criteria

variable {ι : Type}

/-- A path without points in its relations is the same fetch as its
text. -/
theorem addFetch_intercalate (schema : Schema ι) {path : List String} (hdot : DotFree path)
    (hne : path ≠ []) : addFetch schema (".".intercalate path) = addFetchPath schema path := by
  rw [addFetch, splitPath_intercalate hdot hne]

/-- There is nothing to fetch at the end of no relations. -/
theorem addFetchPath_nil (schema : Schema ι) (c : Criteria ι) :
    ∃ e, (addFetchPath schema []).exec c = (.error e, c) :=
  ⟨_, rfl⟩

/-- Whatever changes led to a criteria: if a path without points in its
relations can be fetched, its text can, and they leave the same criteria
behind. If that holds of the lists fetched before, too, no two joins of
this criteria have one alias, none has that of the root, and no path has
more relations than the settings allow. -/
theorem fetchPath_intercalate (schema : Schema ι) (root : ι) (settings : QuerySettings)
    (changes : List Change) (path : List String) (hdot : DotFree path)
    (hok : ((addFetchPath schema path).exec (run schema (new root settings) changes)).1 = .ok ()) :
    let c := run schema (new root settings) changes
    let left := after schema c (.fetchPath path)
    (addFetch schema (".".intercalate path)).exec c = (.ok (), left) ∧
      ((∀ change ∈ changes, change.OnPaths DotFree) →
        (∀ j ∈ left.joins.joins, ∀ k ∈ left.joins.joins,
          j ≠ k → j.tableAlias.text ≠ k.tableAlias.text) ∧
        (∀ j ∈ left.joins.joins, j.tableAlias.text ≠ Alias.main.text) ∧
        ∀ j ∈ left.joins.joins, (splitPath j.identifier).length ≤ settings.joinMaxDepth) := by
  intro c left
  refine ⟨?_, fun hpaths => ?_⟩
  -- A path that can be fetched has a relation.
  · have hne : path ≠ [] := by
      rintro rfl
      obtain ⟨e, he⟩ := addFetchPath_nil schema c
      rw [he] at hok
      cases hok
    rw [addFetch_intercalate schema hdot hne]
    exact Prod.ext hok rfl
  · -- The criteria left is one that a program reaches, with this fetch as its last change.
    have hleft : left = run schema (new root settings) (changes ++ [.fetchPath path]) :=
      (run_append schema (new root settings) changes [.fetchPath path]).symm
    have htree : JoinRegistry.Tree schema root settings.joinMaxDepth left.joins := by
      rw [hleft]
      refine run_tree schema root settings (changes ++ [.fetchPath path]) fun change hmem => ?_
      rcases List.mem_append.mp hmem with hmem | hmem
      · exact hpaths change hmem
      · rw [List.mem_singleton.mp hmem]
        exact hdot
    refine ⟨fun j hj k hk hjk htext => hjk (htree.apart j hj k hk htext), htree.notMain,
      fun j hj => ?_⟩
    obtain ⟨hlength, hdepth⟩ := htree.depth j hj
    omega

/-- The mentor of the boss is there; then the mentor's boss is asked
for. -/
theorem fetchPath_intercalate_people :
    (addFetch people "boss.mentor.boss").exec (run people (new ()) [.fetch "boss.mentor"])
        = (.ok (), after people (run people (new ()) [.fetch "boss.mentor"])
            (.fetchPath ["boss", "mentor", "boss"])) ∧
      ∀ j ∈ (after people (run people (new ()) [.fetch "boss.mentor"])
          (.fetchPath ["boss", "mentor", "boss"])).joins.joins,
        (splitPath j.identifier).length ≤ 20 := by
  have hok : ((addFetchPath people ["boss", "mentor", "boss"]).exec
      (run people (new ()) [.fetch "boss.mentor"])).1 = .ok () := by decide +kernel
  have htext : ".".intercalate ["boss", "mentor", "boss"] = "boss.mentor.boss" := by
    decide +kernel
  obtain ⟨htexts, htree⟩ := fetchPath_intercalate people () {} [.fetch "boss.mentor"]
    ["boss", "mentor", "boss"] (by simp [DotFree]) hok
  rw [htext] at htexts
  have hbound := (htree (by simp [Change.OnPaths])).2.2
  exact ⟨htexts, hbound⟩

/-- A segment that is a path passes for one relation. Fetched after the
mentor of the boss, as a segment, the mentor's boss takes the alias of
the mentor, and is not what the text leaves behind; and it is fetched
where paths may have two relations at most. -/
theorem fetchPath_pointed :
    let c := run people (new ()) [.fetch "boss.mentor"]
    let left := after people c (.fetchPath ["boss.mentor", "boss"])
    ((addFetchPath people ["boss.mentor", "boss"]).exec c).1 = .ok () ∧
      left.joins.joins.map (fun j => (j.identifier, j.depth, j.tableAlias.text))
        = [("boss", 0, "t_1"), ("boss.mentor", 1, "t_1_1"), ("boss.mentor.boss", 1, "t_1_1")] ∧
      (after people c (.fetch "boss.mentor.boss")).joins.joins.map
          (fun j => (j.identifier, j.depth, j.tableAlias.text))
        = [("boss", 0, "t_1"), ("boss.mentor", 1, "t_1_1"), ("boss.mentor.boss", 2, "t_1_1_1")] ∧
      ((addFetchPath people ["boss.mentor", "boss"]).exec
        (run people (new () { joinMaxDepth := 2 }) [.fetch "boss.mentor"])).1 = .ok () := by
  decide +kernel

end DataAccess.Criteria
