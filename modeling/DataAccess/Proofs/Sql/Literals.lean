import DataAccess.Proofs.Criteria.Reference
import DataAccess.Proofs.Sql.Placeholders

/-!
# `DataAccess.Proofs.Sql.Literals`: the literals of a condition

A template is cut at its references, which are not looked for quotes,
and the placeholders are counted in the text that results. Neither says
whether the text leaves a literal open.

`Template.written` is what a template says in its own characters: all of
its text outside of references, and the columns of the root that are
written out after `from.`. Nothing else in the text of a condition opens
or closes a literal if the columns of the schema are plain, so that a
condition that is accepted leaves a literal open just if its template
does (`run_literals`). If no accepted one does, the conditions have as
many placeholders as values, in whichever order they are added.
`run_literals_open` is what happens otherwise: the open literal takes in
the placeholders of the conditions after it.
-/

set_option autoImplicit false

namespace DataAccess

open Template (literalAfter literalStep isQuote)

variable {ι : Type}

namespace Template

/-- The literal that is open, if there is one, was opened by a quote. -/
def Opened (open? : Option Char) : Prop :=
  ∀ quote ∈ open?, isQuote quote = true

/-- Outside of literals no quote is open. -/
theorem opened_none : Opened none := fun _ h => by cases h

/-- A character opens a literal only if it is a quote. -/
theorem opened_literalStep {open? : Option Char} (h : Opened open?) (c : Char) :
    Opened (literalStep open? c) := by
  intro quote hquote
  cases open? with
  | none =>
      by_cases hc : isQuote c = true
      · obtain rfl : c = quote := by simpa [literalStep, hc] using hquote
        exact hc
      · simp [literalStep, hc] at hquote
  | some before =>
      by_cases hc : c = before
      · simp [literalStep, hc] at hquote
      · obtain rfl : before = quote := by simpa [literalStep, hc] using hquote
        exact h before rfl

/-- After any text, what is open was opened by a quote. -/
theorem opened_literalAfter {open? : Option Char} (h : Opened open?) (cs : List Char) :
    Opened (literalAfter open? cs) := by
  induction cs generalizing open? with
  | nil => exact h
  | cons c cs ih => exact ih (opened_literalStep h c)

/-- Without quotes a text neither opens a literal nor closes one. -/
theorem literalAfter_of_unquoted {open? : Option Char} (h : Opened open?) {cs : List Char}
    (hcs : ∀ c ∈ cs, isQuote c = false) : literalAfter open? cs = open? := by
  induction cs with
  | nil => rfl
  | cons c cs ih =>
      have hstep : literalStep open? c = open? := by
        have hc := hcs c (by simp)
        cases open? with
        | none => simp [literalStep, hc]
        | some quote =>
            -- The character is not the quote, as it is none.
            have hne : c ≠ quote := by
              rintro rfl
              rw [h c rfl] at hc
              cases hc
            simp [literalStep, hne]
      show literalAfter (literalStep open? c) cs = open?
      rw [hstep]
      exact ih fun d hd => hcs d (by simp [hd])

/-- Plain text neither opens a literal nor closes one. -/
theorem literalAfter_plain {open? : Option Char} (h : Opened open?) {text : String}
    (hplain : Plain text) : literalAfter open? text.toList = open? :=
  literalAfter_of_unquoted h fun c hc => (hplain c hc).2

/-! ### What a template says in its own characters -/

/-- The characters of a template that are in the text of a condition as
they are written. -/
def Piece.written : Piece → List Char
  | .char c => [c]
  | .reference name =>
    if name.startsWith (Criteria.rootReference ++ ".") then
      name.toList.drop (Criteria.rootReference.length + 1)
    else []
  | .unfinished => []

/-- What a template says in its own characters. -/
def written (marker : Char) (template : String) : List Char :=
  (pieces marker none template.toList).flatMap Piece.written

/-- The template closes the literals that it opens. -/
def Closes (marker : Char) (template : String) : Prop :=
  literalAfter none (written marker template) = none

instance (marker : Char) (template : String) : Decidable (Closes marker template) :=
  inferInstanceAs (Decidable (literalAfter none (written marker template) = none))

end Template

/-! ### Conditions in a statement -/

/-- Sound conditions that leave no literal open have as many
placeholders as values. -/
theorem placeholders_whereSql {schema : Schema ι} (hplain : schema.PlainColumns)
    {conditions : List Condition} (hsound : ∀ c ∈ conditions, c.Sound schema)
    (hclosed : ∀ c ∈ conditions, c.Closed) :
    Template.placeholders ((whereSql? conditions).getD "")
      = (conditions.flatMap (·.values)).length := by
  cases conditions with
  | nil => rfl
  | cons c cs =>
      have hsync : ∀ d ∈ c :: cs, d.filled.Synchronized := fun d hd =>
        Condition.synchronized_filled hplain (hsound d hd) (hclosed d hd)
      have hall : Filled.Synchronized (c.filled ++ Dialect.filledConnected cs) :=
        (hsync c (by simp)).append
          (Dialect.synchronized_filledConnected fun d hd => hsync d (by simp [hd]))
      -- The text of the conditions is what their filled parts write together.
      have htext : (c.filled ++ Dialect.filledConnected cs).text
          = (whereSql? (c :: cs)).getD "" := by
        rw [Filled.text_append, c.text_filled, Dialect.text_filledConnected]
        rfl
      have hvalues : (c.filled ++ Dialect.filledConnected cs).values
          = (c :: cs).flatMap (·.values) := by
        rw [Filled.values_append, Condition.values_filled (hsound c (by simp)),
          Dialect.values_filledConnected fun d hd => hsound d (by simp [hd]), List.flatMap_cons]
      rw [← htext, ← hvalues]
      exact hall.placeholders_eq

namespace Criteria

/-! ### The text of a condition -/

section Resolved
variable {schema : Schema ι} (hplain : schema.PlainColumns)
include hplain

/-- A reference to a field is resolved to a plain text, and any other one
to a plain text and what was written. -/
theorem resolveReference_literal (name : String) :
    Work.Returns (fun text => ∀ open?, Template.Opened open? →
        literalAfter open? text.toList
          = literalAfter open? (Template.Piece.reference name).written)
      (resolveReference schema name) := by
  unfold resolveReference
  split
  · rename_i hname
    have hwritten : (Template.Piece.reference name).written = [] := by
      rw [hname]
      decide +kernel
    refine Work.returns_pure fun open? h => ?_
    rw [Template.literalAfter_plain h Alias.main.plain_text, hwritten]
    rfl
  · split
    · rename_i hstart
      refine Work.returns_pure fun open? h => ?_
      -- Before the column there is only the alias of the root.
      have hroot : Plain (Alias.main.text ++ ".") := by decide
      rw [ColumnRef.text, String.toList_append, Template.literalAfter_append,
        Template.literalAfter_plain h hroot, String.toList_ofList, Template.Piece.written,
        if_pos hstart]
    · rename_i hstart
      refine Work.returns_bind (resolvePath_returns schema name) fun column hcolumn => ?_
      refine Work.returns_pure fun open? h => ?_
      rw [Template.literalAfter_plain h (ColumnRef.plain_text (hplain _ hcolumn)),
        Template.Piece.written, if_neg hstart]
      rfl

/-- References are replaced without a trace in the literals: at the end
the literal is open that what was written leaves open. -/
theorem join_literal (template : String) (pieces : List Template.Piece) :
    Work.Returns (fun cs => ∀ open?, Template.Opened open? →
        literalAfter open? cs = literalAfter open? (pieces.flatMap Template.Piece.written))
      (Template.join template (resolveReference schema) pieces) := by
  induction pieces with
  | nil => exact Work.returns_pure fun _ _ => rfl
  | cons piece pieces ih =>
      cases piece with
      | char c =>
          refine Work.returns_bind ih fun cs hcs => Work.returns_pure fun open? h => ?_
          exact hcs (literalStep open? c) (Template.opened_literalStep h c)
      | reference name =>
          -- What stands for a reference is plain, and so is the name that is written for it.
          refine Work.returns_bind (resolveReference_literal hplain name) fun text htext => ?_
          refine Work.returns_bind ih fun cs hcs => Work.returns_pure fun open? h => ?_
          rw [List.flatMap_cons, Template.literalAfter_append, Template.literalAfter_append,
            htext open? h]
          exact hcs _ (Template.opened_literalAfter h _)
      | unfinished => exact Work.returns_fail _

/-- A template that is resolved leaves the literal open that is open at its
own end. -/
theorem resolveTemplate_literal {c c' : Criteria ι} {template text : String}
    (h : (resolveTemplate schema template).exec c = (.ok text, c')) :
    literalAfter none text.toList = literalAfter none (Template.written c.marker template) := by
  unfold resolveTemplate at h
  rw [Work.exec_get_bind, Template.expand] at h
  obtain ⟨cs, t, hcs, htext⟩ := Work.exec_bind_eq_ok.mp h
  simp only [Work.exec_pure, Prod.mk.injEq, Except.ok.injEq] at htext
  rw [← htext.1, String.toList_ofList]
  exact join_literal hplain template _ c cs t hcs none Template.opened_none

/-- An accepted condition leaves a literal open just if its template
does. -/
theorem addCondition_literal {c c' : Criteria ι} {connector : Connector} {template : String}
    {values : List Value} {u : Unit}
    (h : (addCondition schema connector template values).exec c = (.ok u, c')) :
    ∃ text, c'.conditions = c.conditions ++ [⟨connector, .template text, values⟩] ∧
      (literalAfter none text.toList = none ↔ Template.Closes c.marker template) := by
  obtain ⟨text, c₁, hresolved, rfl⟩ := addCondition_resolved h
  have hgrown := (resolveTemplate_ok hresolved).1
  refine ⟨text, ?_, ?_⟩
  · show c₁.conditions ++ _ = _
    rw [hgrown.eq]
  · rw [resolveTemplate_literal hplain hresolved, Template.Closes]

end Resolved

/-! ### Changes that leave no literal open -/

/-- If the change is a condition that the criteria accepts, its template
closes the literals that it opens. -/
def Change.Closing (schema : Schema ι) (c : Criteria ι) : Change → Prop
  | .condition connector template values =>
    ((addCondition schema connector template values).exec c).1 = .ok () →
      Template.Closes c.marker template
  | _ => True

/-- Every condition that is accepted on the way closes the literals that
it opens. -/
def Closing (schema : Schema ι) (c : Criteria ι) : List Change → Prop
  | [] => True
  | change :: changes => change.Closing schema c ∧ Closing schema (after schema c change) changes

/-- No condition of the criteria leaves a literal open. -/
def Closed (c : Criteria ι) : Prop :=
  ∀ condition ∈ c.conditions, condition.Closed

section Closing
variable {schema : Schema ι} {c : Criteria ι}

/-- Work on names and joins leaves the conditions as they are. -/
theorem resolvable_closed (schema : Schema ι) : Resolvable schema (fun _ => True) Closed where
  dotFree _ _ := trivial
  resolve _ _ _ _ := Work.keeps_within (R := fun _ => True) (fun _ _ => trivial)
    (fun _ _ => trivial) fun _ _ h _ => h
  restore _ _ _ h' := h'

/-- One more closed condition keeps the conditions closed. -/
theorem Closed.withCondition (h : c.Closed) {condition : Condition} (hc : condition.Closed) :
    (c.withCondition condition).Closed :=
  List.forall_mem_append.mpr ⟨h, List.forall_mem_singleton.mpr hc⟩

/-- A change leaves no literal open, if none was open and it is no
condition that does. -/
theorem Closed.after (hplain : schema.PlainColumns) (h : c.Closed) {change : Change}
    (hclosing : change.Closing schema c) : (after schema c change).Closed := by
  have hwork := resolvable_closed schema
  cases change with
  | condition connector template values =>
      rcases hrun : ((Change.condition connector template values).work schema).exec c with
        ⟨e | u, c'⟩
      · -- A condition that is refused is not added.
        rw [after_of_error (congrArg Prod.fst hrun)]
        exact h
      · have hafter : Criteria.after schema c (.condition connector template values) = c' :=
          congrArg Prod.snd hrun
        have hadded : (addCondition schema connector template values).exec c = (.ok u, c') := hrun
        obtain ⟨text, hconditions, hliteral⟩ := addCondition_literal hplain hadded
        rw [hafter, Closed, hconditions]
        refine List.forall_mem_append.mpr ⟨h, List.forall_mem_singleton.mpr (hliteral.mpr ?_)⟩
        exact hclosing (congrArg Prod.fst hrun)
  | filter connector field comparison value =>
      refine Work.keeps_bind (P := Closed) (Work.keeps_ofResult _) (fun values => ?_) c h
      refine Work.keeps_bind (hwork.resolveField field) fun column => ?_
      exact Work.keeps_modify fun c hc => hc.withCondition trivial
  -- The other changes add no conditions.
  | order field direction =>
      refine Work.keeps_bind (hwork.resolveField field) (fun column => ?_) c h
      exact Work.keeps_modify fun c hc => hc
  | grouping field =>
      refine Work.keeps_bind (hwork.resolveField field) (fun column => ?_) c h
      exact Work.keeps_modify fun c hc => hc
  | resolve name =>
      exact Work.keeps_bind (hwork.resolveField name) (fun column => Work.keeps_pure _) c h
  | fetchPath path => exact hwork.fetchPath trivial c h
  | fetch path => exact hwork.fetchPath trivial c h
  | fetches paths => exact hwork.addFetches paths c h
  | page number =>
      refine Work.keeps_get_bind (P := Closed) (fun c hc => ?_) c h
      split
      · exact Work.keeps_fail _
      · exact Work.keeps_bind (Work.keeps_ofResult _) fun paging =>
          Work.keeps_modify fun c hc => hc
  | limit _ | paging _ | suspendLimits | restoreLimits _ | clearLimit | clearPaging | clearOrders
  | clearGroupings | clearFetches | rowSelection => exact h
  | clearConditions | clear => exact List.forall_mem_nil _

/-- Changes whose templates close their literals keep the conditions
closed. -/
theorem Closed.run (hplain : schema.PlainColumns) (h : c.Closed) {changes : List Change}
    (hclosing : Closing schema c changes) : (run schema c changes).Closed := by
  induction changes generalizing c with
  | nil => exact h
  | cons change changes ih => exact ih (h.after hplain hclosing.1) hclosing.2

end Closing

/-- Whatever changes led to a criteria: a condition that it accepts ends
outside of any literal just if its template closes the literals that it
opens. If every condition accepted on the way did so, all conditions end
outside of literals, and together they have as many placeholders as
values. -/
theorem run_literals (schema : Schema ι) (hplain : schema.PlainColumns) (root : ι)
    (settings : QuerySettings) (changes : List Change) :
    let c := run schema (new root settings) changes
    (∀ connector template values c',
      (addCondition schema connector template values).exec c = (.ok (), c') →
      ∃ text, c'.conditions = c.conditions ++ [⟨connector, .template text, values⟩] ∧
        (literalAfter none text.toList = none
          ↔ Template.Closes settings.conditionMarker template)) ∧
    (Closing schema (new root settings) changes →
      c.Closed ∧ Template.placeholders (c.whereSql?.getD "") = c.values.length) := by
  intro c
  -- Nothing is asked of joins here, so any registry will do.
  have hsound : Sound schema root settings (fun _ => True) c :=
    run_sound (D := fun _ => True) (fun _ _ _ _ => trivial) (fun _ _ => trivial) trivial
      (sound_new trivial) fun change _ => change.onPaths_true
  refine ⟨fun connector template values c' hok => ?_, fun hclosing => ?_⟩
  · rw [← hsound.marker_eq]
    exact addCondition_literal hplain hok
  · have hnew : (new root settings).Closed := List.forall_mem_nil _
    have hclosed := hnew.run hplain hclosing
    exact ⟨hclosed, placeholders_whereSql hplain hsound.conditions hclosed⟩

/-- A quote in a literal of the other kind, a condition that is refused
for the literal that hides its placeholder, and a filter. -/
def literalsInTurn : List Change :=
  [.condition .and "@id = \"it's\" OR @from.id = ?" [.int64 1],
    .condition .and "@id = '?" [.int64 2],
    .filter .or "bossId" .equal (.int64 3)]

/-- Three conditions in turn, one with a quote in a literal. -/
theorem run_literals_people :
    (run people (new ()) literalsInTurn).whereSql?
        = some "(t_main.id = \"it's\" OR t_main.id = ?) OR t_main.boss_id = ?" ∧
      Template.placeholders ((run people (new ()) literalsInTurn).whereSql?.getD "")
        = (run people (new ()) literalsInTurn).values.length := by
  have hplain : people.PlainColumns := by
    rintro column ⟨⟨⟩, f, hf, rfl⟩
    have hall : ∀ f ∈ (people ()).fields, Plain f.column := by decide
    exact hall f hf
  have hclosing : Closing people (new ()) literalsInTurn := by
    refine ⟨fun _ => ?_, fun h => ?_, trivial, trivial⟩
    · decide +kernel
    · revert h
      decide +kernel
  exact ⟨by decide +kernel,
    ((run_literals people hplain () {} literalsInTurn).2 hclosing).2⟩

/-- A quote that is never closed asks for no value, and is accepted
without one. The filter that comes after it has a value, but its
placeholder is in the literal. A column of the root that is written with
a quote hides what comes after it just so, though every literal around
the references is closed. -/
theorem run_literals_open :
    let unclosed := run people (new ()) [.condition .and "@id = '" []]
    let filtered := run people (new ())
      [.condition .and "@id = '" [], .filter .and "id" .equal (.int64 1)]
    let quoted := run people (new ())
      [.condition .and "@from.it's = 1 AND @id = 'x' " [], .filter .and "id" .equal (.int64 1)]
    unclosed.whereSql? = some "(t_main.id = ')" ∧
      filtered.whereSql? = some "(t_main.id = ') AND t_main.id = ?" ∧
      filtered.values.length = 1 ∧
      Template.placeholders (filtered.whereSql?.getD "") = 0 ∧
      quoted.values.length = 1 ∧
      Template.placeholders (quoted.whereSql?.getD "") = 0 := by
  decide +kernel

end Criteria

end DataAccess
