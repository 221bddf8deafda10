import Mathlib.Data.List.TakeWhile
import DataAccess.Proofs.Criteria.TemplateGrammar
import DataAccess.Proofs.Schema.Validity
import DataAccess.Proofs.Sql.Placeholders

/-!
# `DataAccess.Proofs.Criteria.TemplateField`: fields in conditions

A condition that says something about one field of the root: a plain
text, the marker with the name of the field, a space and a plain text
again. `addCondition_field` is what it is turned into, for any settings
and any declaration that are valid.

The marker may be any character that is not blank and does not end or
divide a reference, but the theorem is not about quotes: a quote opens a
literal before it could mark anything. A field may have any name, but
`from` is the root wherever it is referred to, even if there is a field
of that name. `addCondition_field_reserved` runs both.
-/

set_option autoImplicit false

namespace DataAccess

variable {ι : Type}

namespace Text

/-- Only blanks are trimmed. -/
theorem mem_trimStart {cs : List Char} {c : Char} (hc : c ∈ cs) (hblank : isBlank c = false) :
    c ∈ trimStart cs := by
  rw [← List.takeWhile_append_dropWhile (p := isBlank) (l := cs), List.mem_append] at hc
  refine hc.resolve_left fun htaken => ?_
  rw [List.mem_takeWhile_imp htaken] at hblank
  cases hblank

/-- A text with a character that is not blank is not empty when trimmed. -/
theorem trim_not_empty {s : String} {c : Char} (hc : c ∈ s.toList) (hblank : isBlank c = false) :
    (trim s).isEmpty = false := by
  have hmem : c ∈ (trim s).toList := by
    rw [trim, String.toList_ofList, List.mem_reverse]
    exact mem_trimStart (List.mem_reverse.mpr (mem_trimStart hc hblank)) hblank
  rw [Bool.eq_false_iff]
  intro hempty
  rw [String.isEmpty_iff.mp hempty] at hmem
  cases hmem

end Text

/-- The marker of valid settings is not blank. -/
theorem QuerySettings.marker_not_blank {settings : QuerySettings}
    (h : settings.validate = .ok ()) : Text.isBlank settings.conditionMarker = false := by
  unfold validate at h
  split at h
  · cases h
  · split at h
    · cases h
    · split at h
      · cases h
      · rename_i hreserved
        simp only [isReserved, Bool.or_eq_true, not_or] at hreserved
        simpa using hreserved.1.1.1

/-- A plain text asks for no values. -/
theorem Plain.placeholders_eq {text : String} (h : Plain text) :
    Template.placeholders text = 0 := by
  have hcount := h.silent.placeholders_eq
  rwa [Filled.text_plain, Filled.values_plain, List.length_nil] at hcount

namespace Template

/-- Where nothing is quoted or marked a text is copied. -/
theorem pieces_plain {marker : Char} {cs : List Char}
    (hcs : ∀ c ∈ cs, isQuote c = false ∧ c ≠ marker) (rest : List Char) :
    pieces marker none (cs ++ rest) = cs.map .char ++ pieces marker none rest := by
  induction cs with
  | nil => rfl
  | cons c cs ih =>
      obtain ⟨hquote, hmarker⟩ := hcs c (by simp)
      rw [List.cons_append, pieces]
      simp [hquote, hmarker, ih fun d hd => hcs d (by simp [hd])]

/-- A template with one reference is its text with what the reference
stands for. -/
theorem exec_expand_reference {σ : Type} {resolve : String → Work σ String} {marker : Char}
    {before name after answer : String} {s t : σ} (hmarker : isQuote marker = false)
    (hbefore : ∀ c ∈ before.toList, isQuote c = false ∧ c ≠ marker)
    (hname : ∀ c ∈ name.toList, endsReference c = false)
    (hafter : ∀ c ∈ ' ' :: after.toList, isQuote c = false ∧ c ≠ marker)
    (hcall : (resolve name).exec s = (.ok answer, t)) :
    (expand marker resolve (before ++ String.singleton marker ++ name ++ " " ++ after)).exec s
      = (.ok (before ++ answer ++ " " ++ after), t) := by
  generalize htemplate : before ++ String.singleton marker ++ name ++ " " ++ after = template
  have htext : template.toList
      = before.toList ++ marker :: (name.toList ++ ' ' :: after.toList) := by
    simp [← htemplate]
  -- After the name there is no reference any more.
  have hrest : pieces marker none (' ' :: after.toList) = (' ' :: after.toList).map .char := by
    have h := pieces_plain hafter []
    rwa [List.append_nil, pieces, List.append_nil] at h
  have hjoin : (join template resolve ((' ' :: after.toList).map .char)).exec t
      = (.ok (' ' :: after.toList), t) := by
    have h := exec_join_chars template resolve (' ' :: after.toList) [] t
    rw [List.append_nil] at h
    rw [h]
    simp [join, Except.map]
  rw [expand, htext, pieces_plain hbefore, pieces_reference hmarker hname rfl, hrest,
    Work.exec_bind, exec_join_chars, String.ofList_toList, exec_join_answered _ hcall, hjoin]
  -- The pieces in their order are the text.
  have hresult : String.ofList (before.toList ++ (answer.toList ++ ' ' :: after.toList))
      = before ++ answer ++ " " ++ after := by
    apply String.toList_inj.mp
    simp
  simp only [Except.map, Work.exec_pure, hresult]

end Template

namespace Criteria

/-- A reference without points is the root, or a field of it. -/
theorem exec_resolveReference_plain {schema : Schema ι} {c : Criteria ι} {name column : String}
    (hname : '.' ∉ name.toList) (hcolumn : (schema c.root).columnName name = .ok column) :
    (resolveReference schema name).exec c
      = (.ok (if name = rootReference then Alias.main.text
          else (ColumnRef.mk .main column).text), c) := by
  rw [resolveReference]
  by_cases hroot : name = rootReference
  · rw [if_pos hroot, if_pos hroot]
    rfl
  -- Without a point the name does not go through the root reference.
  · have hstart : ¬ name.startsWith (rootReference ++ ".") = true := by
      rw [String.startsWith_string_iff]
      intro hprefix
      exact hname (List.IsPrefix.subset hprefix (by decide))
    rw [if_neg hroot, if_neg hroot, if_neg hstart]
    have hrun : (resolvePath schema name).exec c = (.ok ⟨.main, column⟩, c) := by
      rw [resolvePath, Work.exec_get_bind, splitName_plain hname]
      dsimp only
      rw [Work.exec_bind, Work.exec_ofResult, hcolumn]
      rfl
    rw [Work.exec_bind_ok hrun]
    rfl

/-- What a reference to a field of the root stands for: `from` is the
root itself. -/
def fieldText (f : Field) : String :=
  if f.name = "from" then "t_main" else "t_main." ++ f.column

/-- What a field is written as is plain if its column is. -/
theorem plain_fieldText {f : Field} (h : Plain f.column) : Plain (fieldText f) := by
  unfold fieldText
  split
  · decide
  · exact Plain.append (by decide) h

/-- A field of the root that is referred to by its name resolves to its
text, without a join. -/
theorem exec_resolveReference_field {schema : Schema ι} {c : Criteria ι}
    (hdeclaration : (schema c.root).validate = .ok ()) {f : Field}
    (hf : f ∈ (schema c.root).fields) (hname : '.' ∉ f.name.toList) :
    (resolveReference schema f.name).exec c = (.ok (fieldText f), c) := by
  have hcolumn : (schema c.root).columnName f.name = .ok f.column := by
    rw [Declaration.columnName, Declaration.field_of_mem hdeclaration hf]
    rfl
  rw [exec_resolveReference_plain hname hcolumn, fieldText]
  rfl

/-- A condition on one field of a new criteria is accepted, and is all
that the criteria has. Its text is the one that was written with the
column of the field in the place of the reference, or with the root if
the name of the field is `from`. -/
theorem addCondition_field {schema : Schema ι} {root : ι} {settings : QuerySettings}
    (hsettings : settings.validate = .ok ())
    (hquote : Template.isQuote settings.conditionMarker = false)
    (hdeclaration : (schema root).validate = .ok ()) {f : Field} (hf : f ∈ (schema root).fields)
    (hname : ∀ c ∈ f.name.toList, c ≠ ' ' ∧ c ≠ ')' ∧ c ≠ '.') (hcolumn : Plain f.column)
    {before after : String} (hbefore : Plain before ∧ settings.conditionMarker ∉ before.toList)
    (hafter : Plain after ∧ settings.conditionMarker ∉ after.toList) (connector : Connector) :
    let template :=
      before ++ String.singleton settings.conditionMarker ++ f.name ++ " " ++ after
    let text := before ++ fieldText f ++ " " ++ after
    ∃ c, (addCondition schema connector template []).exec (new root settings) = (.ok (), c) ∧
      c = (new root settings).withCondition ⟨connector, .template text, []⟩ ∧
      c.whereSql? = some ("(" ++ text ++ ")") := by
  intro template text
  have hblank := settings.marker_not_blank hsettings
  have hunmarked : ∀ {s : String}, Plain s ∧ settings.conditionMarker ∉ s.toList →
      ∀ c ∈ s.toList, Template.isQuote c = false ∧ c ≠ settings.conditionMarker :=
    fun hs c hc => ⟨(hs.1 c hc).2, fun h => hs.2 (h ▸ hc)⟩
  have hspace : ' ' ≠ settings.conditionMarker := by
    intro h
    rw [← h] at hblank
    exact absurd hblank (by decide)
  have hdot : '.' ∉ f.name.toList := fun h => (hname '.' h).2.2 rfl
  have hexpand : (resolveTemplate schema template).exec (new root settings)
      = (.ok text, new root settings) := by
    rw [resolveTemplate, Work.exec_get_bind]
    refine Template.exec_expand_reference hquote (hunmarked hbefore) (fun c hc => ?_)
      (List.forall_mem_cons.mpr ⟨⟨rfl, hspace⟩, hunmarked hafter⟩)
      (exec_resolveReference_field hdeclaration hf hdot)
    simpa [Template.endsReference] using ⟨(hname c hc).1, (hname c hc).2.1⟩
  have hplain : Plain text :=
    ((hbefore.1.append (plain_fieldText hcolumn)).append (by decide)).append hafter.1
  have hcounted : (keepingJoins (resolveCounted schema template [])).exec (new root settings)
      = (.ok text, new root settings) := by
    have hrun : (resolveCounted schema template []).exec (new root settings)
        = (.ok text, new root settings) := by
      rw [resolveCounted, Work.exec_bind_ok hexpand, hplain.placeholders_eq]
      rfl
    rw [keepingJoins, Work.undoing, Work.exec_of, hrun]
  -- A template that is blank is refused, but the marker is not.
  have htrim : (Text.trim template).isEmpty = false :=
    Text.trim_not_empty (c := settings.conditionMarker) (by simp [template]) hblank
  refine ⟨_, ?_, rfl, rfl⟩
  rw [addCondition_eq, if_neg (by simp [htrim]), if_neg (by simp), Work.exec_bind_ok hcounted]
  rfl

/-- A schema in which a field has the name that stands for the root. -/
def trips : Schema Unit := fun _ => {
  typeName := "Trip"
  table := "trips"
  fields := [⟨"id", "id", .bigInt, true⟩, ⟨"from", "from_city", .bigInt, false⟩,
    ⟨"to", "to_city", .bigInt, false⟩]
  relations := []
  dependents := [] }

/-- The name of a field of trips after another marker. -/
theorem addCondition_field_trips :
    ∃ c, (addCondition trips .and "abs(#to ) = 1" []).exec (new () { conditionMarker := '#' })
        = (.ok (), c) ∧ c.whereSql? = some "(abs(t_main.to_city ) = 1)" := by
  let settings : QuerySettings := { conditionMarker := '#' }
  have hsettings : settings.validate = .ok () := by decide
  have hdeclaration : (trips ()).validate = .ok () := by decide
  have hfield : ⟨"to", "to_city", .bigInt, false⟩ ∈ (trips ()).fields := by decide
  have hname : ∀ c ∈ "to".toList, c ≠ ' ' ∧ c ≠ ')' ∧ c ≠ '.' := by simp
  have hbefore : Plain "abs(" ∧ settings.conditionMarker ∉ "abs(".toList := by decide
  have hafter : Plain ") = 1" ∧ settings.conditionMarker ∉ ") = 1".toList := by decide
  obtain ⟨c, hrun, -, htext⟩ := addCondition_field hsettings (by decide) hdeclaration hfield
    hname (by decide) hbefore hafter .and
  exact ⟨c, hrun, htext⟩

/-- A field of the name `from` is declared, but a reference to it is the
root. With a quote for a marker the reference is a literal. -/
theorem addCondition_field_reserved :
    let reserved := (addCondition trips .and "@from = 1" []).exec (new ())
    let quotes : QuerySettings := { conditionMarker := '"' }
    let quoted := (addCondition trips .and "\"to = 1" []).exec (new () quotes)
    (trips ()).validate = .ok () ∧ quotes.validate = .ok () ∧
      (trips ()).columnName "from" = .ok "from_city" ∧
      (trips ()).columnName "to" = .ok "to_city" ∧
      reserved.1 = .ok () ∧ reserved.2.whereSql? = some "(t_main = 1)" ∧
      quoted.1 = .ok () ∧ quoted.2.whereSql? = some "(\"to = 1)" := by
  decide +kernel

end Criteria

end DataAccess
