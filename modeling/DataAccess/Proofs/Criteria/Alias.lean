import DataAccess.Criteria.Alias

/-!
# `DataAccess.Proofs.Criteria.Alias`: an alias can be read back from its text

`Alias.text` writes the steps of an alias in decimal, with underscores
between them. No digit is an underscore, so the text splits at its
underscores into the digits of the steps again
(`splitOn_drop_text`), and different aliases have different texts
(`text_inj`). The root has no steps and is written `t_main`; after
`t_` every other alias goes on with a digit (`text_ne_main`).
-/

set_option autoImplicit false

namespace DataAccess.Alias

/-- The characters of an alias other than the root: the digits of its
steps, with underscores between them. -/
theorem toList_text {a : Alias} (h : a.steps ≠ []) :
    a.text.toList = 't' :: '_' :: ['_'].intercalate (a.steps.map (Nat.toDigits 10)) := by
  rcases a with ⟨_ | ⟨n, steps⟩⟩
  · exact absurd rfl h
  · have hdigits : ((n :: steps).map toString).map String.toList
        = (n :: steps).map (Nat.toDigits 10) := by
      rw [List.map_map]
      exact List.map_congr_left fun m _ => Nat.toList_repr
    simp only [text, String.toList_append, String.toList_intercalate, hdigits]
    rfl

/-- The digits of the steps, read back from the text. -/
theorem splitOn_drop_text {a : Alias} (h : a.steps ≠ []) :
    (a.text.toList.drop 2).splitOn '_' = a.steps.map (Nat.toDigits 10) := by
  rw [toList_text h]
  show (['_'].intercalate (a.steps.map (Nat.toDigits 10))).splitOn '_' = _
  apply List.splitOn_intercalate
  · -- A digit is never an underscore.
    intro digits hd
    obtain ⟨n, -, rfl⟩ := List.mem_map.mp hd
    exact Nat.underscore_not_in_toDigits
  · simpa using h

/-- Numbers are told apart by their digits. -/
private theorem toDigits_inj {m n : Nat} (h : Nat.toDigits 10 m = Nat.toDigits 10 n) :
    m = n := by
  rw [← Nat.ofDigitChars_ten_toDigits (n := m), h, Nat.ofDigitChars_ten_toDigits]

/-- No other alias has the text of the root. -/
theorem text_ne_main {a : Alias} (h : a.steps ≠ []) : a.text ≠ "t_main" := by
  intro ht
  have hlist := toList_text h
  rw [ht] at hlist
  obtain ⟨n, steps, hsteps⟩ := List.exists_cons_of_ne_nil h
  -- The third character is the first digit of the first step, and not an `m`.
  have hm : 'm' ∈ Nat.toDigits 10 n := by
    obtain ⟨d, ds, hds⟩ := List.exists_cons_of_ne_nil (Nat.toDigits_ne_nil (n := n) (b := 10))
    rw [hsteps, List.map_cons, hds] at hlist
    have hd : 'm' = d := by
      cases steps <;> simp [List.intercalate] at hlist <;> exact hlist.1
    rw [hds, hd]
    exact List.mem_cons_self
  have hdigit := Nat.isDigit_of_mem_toDigits (by decide) (by decide) hm
  exact absurd hdigit (by decide)

/-- Different aliases have different texts. -/
theorem text_inj {a b : Alias} : a.text = b.text ↔ a = b := by
  refine ⟨fun h => ?_, fun h => h ▸ rfl⟩
  by_cases ha : a.steps = []
  · -- The text of the root is that of no other alias.
    by_cases hb : b.steps = []
    · cases a; cases b; simp_all
    · have hmain : a.text = "t_main" := by simp [text, ha]
      exact absurd (h ▸ hmain) (text_ne_main hb)
  · by_cases hb : b.steps = []
    · have hmain : b.text = "t_main" := by simp [text, hb]
      exact absurd (h.trans hmain) (text_ne_main ha)
    · -- Below the root, the texts fall into the digits of the steps.
      have hsteps : a.steps.map (Nat.toDigits 10) = b.steps.map (Nat.toDigits 10) := by
        rw [← splitOn_drop_text ha, ← splitOn_drop_text hb, h]
      -- Digits tell numbers apart, and underscores the numbers.
      have : a.steps = b.steps :=
        List.map_inj_right (fun _ _ => toDigits_inj) |>.mp hsteps
      cases a; cases b; simp_all

end DataAccess.Alias
