import DataAccess.Criteria.Basic

/-!
# `DataAccess.Proofs.Criteria.Path`: paths and their identifiers

A path is a list of relations; its identifier joins them by points, and
`Criteria.splitPath` cuts a text at its points. The two undo each other:
a text is the identifier of its segments (`intercalate_splitPath`), and
a path whose relations have no points is found again in its identifier
(`splitPath_intercalate`). One more relation at the end of a path is one
more segment of the identifier (`splitPath_append`).
-/

set_option autoImplicit false

namespace DataAccess.Criteria

/-- No relation of the path has a point in its name. -/
def DotFree (path : List String) : Prop :=
  ∀ segment ∈ path, '.' ∉ segment.toList

instance (path : List String) : Decidable (DotFree path) :=
  inferInstanceAs (Decidable (∀ segment ∈ path, '.' ∉ segment.toList))

/-- What a list is split at is in none of its parts. -/
private theorem not_mem_of_mem_splitOn (a : Char) (cs : List Char) :
    ∀ part ∈ cs.splitOn a, a ∉ part := by
  -- Over the list; the first part is the one that grows.
  induction cs with
  | nil => simp
  | cons c cs ih =>
      rw [List.splitOn_cons_eq_if_modifyHead]
      obtain ⟨part, parts, hparts⟩ := List.exists_cons_of_ne_nil (List.splitOn_ne_nil a cs)
      rw [hparts] at ih ⊢
      have hhead := ih part (by simp)
      split
      · -- At `a` a new part begins, and it is empty.
        intro p hp
        rcases List.mem_cons.mp hp with rfl | hp
        · simp
        · exact ih p hp
      · -- Any other character goes to the first part.
        rename_i hca
        intro p hp
        rcases List.mem_cons.mp hp with rfl | hp
        · simp only [beq_iff_eq] at hca
          simp [hhead, Ne.symm hca]
        · exact ih p (by simp [hp])

/-- Cutting a text at its points leaves no point in the segments. -/
theorem dotFree_splitPath (path : String) : DotFree (splitPath path) := by
  intro segment hs
  obtain ⟨part, hpart, rfl⟩ := List.mem_map.mp hs
  rw [String.toList_ofList]
  exact not_mem_of_mem_splitOn '.' _ part hpart

/-- The relations that a name of a field begins with have no points. -/
theorem dotFree_splitName (name : String) : DotFree (splitName name).1 :=
  fun segment hs => dotFree_splitPath name segment ((List.dropLast_subset _ hs))

/-- A path has at least one segment, if an empty one. -/
theorem splitPath_ne_nil (path : String) : splitPath path ≠ [] := by
  simp [splitPath]

/-- The characters of a dotted text are those of its segments, with dots
between them. -/
theorem toList_identifier (path : List String) :
    (".".intercalate path).toList = ['.'].intercalate (path.map String.toList) :=
  String.toList_intercalate

/-- The segments of a text, joined by points again. -/
theorem intercalate_splitPath (path : String) : ".".intercalate (splitPath path) = path := by
  apply String.toList_inj.mp
  rw [toList_identifier, splitPath, List.map_map]
  have hmap : (path.toList.splitOn '.').map (String.toList ∘ String.ofList)
      = path.toList.splitOn '.' := by
    simp [Function.comp_def]
  rw [hmap, List.intercalate_splitOn]

/-- The relations of a path, read back from its identifier. -/
theorem splitPath_intercalate {path : List String} (hdot : DotFree path) (hne : path ≠ []) :
    splitPath (".".intercalate path) = path := by
  rw [splitPath, toList_identifier, List.splitOn_intercalate]
  · simp [Function.comp_def]
  · intro cs hcs
    obtain ⟨segment, hs, rfl⟩ := List.mem_map.mp hcs
    exact hdot segment hs
  · simpa using hne

/-- One more relation at the end of a path. -/
theorem splitPath_append {segment : String} (identifier : String)
    (h : '.' ∉ segment.toList) :
    splitPath (identifier ++ "." ++ segment) = splitPath identifier ++ [segment] := by
  have hid : identifier ++ "." ++ segment
      = ".".intercalate (splitPath identifier ++ [segment]) := by
    rw [String.intercalate_append_of_ne_nil (splitPath_ne_nil _) (by simp),
      intercalate_splitPath, String.intercalate_singleton]
  rw [hid, splitPath_intercalate _ (by simp)]
  -- The segments of the identifier have no points, as it was cut at them.
  intro s hs
  rcases List.mem_append.mp hs with hs | hs
  · exact dotFree_splitPath identifier s hs
  · rw [List.mem_singleton.mp hs]
    exact h

/-- A text without dots is one segment. -/
theorem splitPath_singleton {segment : String} (h : '.' ∉ segment.toList) :
    splitPath segment = [segment] := by
  rw [splitPath, List.splitOn_eq_singleton h, List.map_singleton, String.ofList_toList]

end DataAccess.Criteria
