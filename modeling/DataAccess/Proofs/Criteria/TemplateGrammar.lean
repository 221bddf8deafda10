import Mathlib.Data.List.Basic
import Mathlib.Data.List.TakeWhile
import DataAccess.Criteria.Template
import DataAccess.Proofs.Database.Recorded

/-!
# `DataAccess.Proofs.Criteria.TemplateGrammar`: the grammar of templates

`Template.Reads` reads a text as a template, one rule for each kind of
part: literals, which are copied with their quotes, characters that
stand for themselves, references, and a marker after which no reference
ends. Every text is read in exactly one way (`Reads.exists`,
`Reads.unique`), which is how `Template.pieces` cuts it
(`Reads.pieces_eq`).

`Asks` is what happens to whoever resolves the references: the names are
asked for in turn, once each, up to the first one that is refused.

`expand_reads` is the principal theorem. To expand a template is to read
it, to ask for its references and to put the answers in their places. An
answer is not read again, as it is no part of the text that was read.
-/

set_option autoImplicit false

namespace DataAccess.Template

/-! ### The grammar -/

/-- A part of a template, as it is read. -/
inductive Part where
  /-- A text that is copied. -/
  | copied (text : List Char)
  /-- A reference, without its marker. -/
  | reference (name : String)
  /-- A marker after which no reference ends. -/
  | dangling
  deriving DecidableEq

/-- The text is a template with these parts. -/
inductive Reads (marker : Char) : List Char → List Part → Prop where
  /-- At the end of the text there is nothing to read. -/
  | done : Reads marker [] []
  /-- A quote opens a literal, even if it is the marker. The next quote
  of its kind closes it. -/
  | literal {quote : Char} {body rest : List Char} {parts : List Part}
      (hquote : isQuote quote = true) (hbody : quote ∉ body) (h : Reads marker rest parts) :
      Reads marker (quote :: (body ++ quote :: rest))
        (.copied (quote :: (body ++ [quote])) :: parts)
  /-- A literal that is not closed goes on to the end of the text. -/
  | openLiteral {quote : Char} {body : List Char}
      (hquote : isQuote quote = true) (hbody : quote ∉ body) :
      Reads marker (quote :: body) [.copied (quote :: body)]
  /-- Any other character but the marker stands for itself. -/
  | plain {c : Char} {rest : List Char} {parts : List Part}
      (hquote : isQuote c = false) (hmarker : c ≠ marker) (h : Reads marker rest parts) :
      Reads marker (c :: rest) (.copied [c] :: parts)
  /-- A reference is all that follows the marker up to the first
  character that ends one, which is read again. -/
  | reference {name rest : List Char} {stop : Char} {parts : List Part}
      (hmarker : isQuote marker = false) (hname : ∀ c ∈ name, endsReference c = false)
      (hstop : endsReference stop = true) (h : Reads marker (stop :: rest) parts) :
      Reads marker (marker :: (name ++ stop :: rest)) (.reference (String.ofList name) :: parts)
  /-- Nothing is read after a reference that does not end. -/
  | dangling {rest : List Char}
      (hmarker : isQuote marker = false) (hrest : ∀ c ∈ rest, endsReference c = false) :
      Reads marker (marker :: rest) [.dangling]

section Grammar
variable {marker : Char}

/-- What is before the first character with a property. -/
theorem takeWhile_before {p : Char → Bool} {before after : List Char} {stop : Char}
    (hbefore : ∀ c ∈ before, p c = false) (hstop : p stop = true) :
    (before ++ stop :: after).takeWhile (fun c => !p c) = before := by
  rw [List.takeWhile_append_of_pos (by simpa using hbefore), List.takeWhile_cons_of_neg (by simpa),
    List.append_nil]

/-- There is one first character with a property. -/
theorem before_unique {p : Char → Bool} {before before' after after' : List Char}
    {stop stop' : Char} (hbefore : ∀ c ∈ before, p c = false) (hstop : p stop = true)
    (hbefore' : ∀ c ∈ before', p c = false) (hstop' : p stop' = true)
    (h : before ++ stop :: after = before' ++ stop' :: after') :
    before = before' ∧ stop = stop' ∧ after = after' := by
  obtain rfl : before = before' := by
    rw [← takeWhile_before hbefore hstop, h, takeWhile_before hbefore' hstop']
  simpa using List.append_cancel_left h

/-- Every text can be read. -/
theorem Reads.exists (marker : Char) (cs : List Char) : ∃ parts, Reads marker cs parts := by
  -- What is read after a part is shorter than the text.
  induction hlength : cs.length using Nat.strongRecOn generalizing cs with
  | _ n ih =>
      cases cs with
      | nil => exact ⟨[], .done⟩
      | cons c rest =>
          have hshorter : ∀ later : List Char, later.length ≤ rest.length →
              ∃ parts, Reads marker later parts := fun later hle =>
            ih later.length (by rw [← hlength, List.length_cons]; omega) later rfl
          by_cases hquote : isQuote c = true
          · by_cases hclosed : c ∈ rest
            · obtain ⟨body, after, rfl, hbody⟩ := List.eq_append_cons_of_mem hclosed
              obtain ⟨parts, hparts⟩ := hshorter after (by simp; omega)
              exact ⟨_, .literal hquote hbody hparts⟩
            · exact ⟨_, .openLiteral hquote hclosed⟩
          · rw [Bool.not_eq_true] at hquote
            by_cases hmarker : c = marker
            · subst hmarker
              cases hend : rest.find? endsReference with
              | none =>
                  rw [List.find?_eq_none] at hend
                  exact ⟨_, .dangling hquote (by simpa using hend)⟩
              | some stop =>
                  obtain ⟨hstop, name, after, rfl, hname⟩ :=
                    List.find?_eq_some_iff_append.mp hend
                  obtain ⟨parts, hparts⟩ := hshorter (stop :: after) (by simp)
                  exact ⟨_, .reference hquote (by simpa using hname) hstop hparts⟩
            · obtain ⟨parts, hparts⟩ := hshorter rest (Nat.le_refl _)
              exact ⟨_, .plain hquote hmarker hparts⟩

/-- A text is read in one way only: its first character decides which
rule applies, and the first quote or the first end of a reference how far
it goes. -/
theorem Reads.unique {cs : List Char} {parts others : List Part} (h : Reads marker cs parts)
    (hothers : Reads marker cs others) : parts = others := by
  induction h generalizing others with
  | done =>
      cases hothers
      rfl
  | @literal quote body rest parts hquote hbody h ih =>
      -- The text is named before the other reading is taken apart, as its
      -- rule may end the literal elsewhere.
      generalize hcs : quote :: (body ++ quote :: rest) = cs at hothers
      cases hothers with
      | literal hquote' hbody' h' =>
          obtain ⟨rfl, hcs⟩ := List.cons.inj hcs
          have hfirst : ∀ {body : List Char}, quote ∉ body → ∀ c ∈ body, (c == quote) = false :=
            fun hbody c hc => beq_eq_false_iff_ne.mpr fun h => hbody (h ▸ hc)
          obtain ⟨rfl, -, rfl⟩ := before_unique (hfirst hbody) (beq_self_eq_true quote)
            (hfirst hbody') (beq_self_eq_true quote) hcs
          rw [ih h']
      | openLiteral hquote' hbody' =>
          obtain ⟨rfl, rfl⟩ := List.cons.inj hcs
          exact absurd hbody' (by simp)
      | done => cases hcs
      | plain | reference | dangling => simp_all
  | @openLiteral quote body hquote hbody =>
      generalize hcs : quote :: body = cs at hothers
      cases hothers with
      | openLiteral => rfl
      | literal =>
          obtain ⟨rfl, rfl⟩ := List.cons.inj hcs
          exact absurd hbody (by simp)
      | done => cases hcs
      | plain | reference | dangling => simp_all
  | @plain c rest parts hquote hmarker h ih =>
      cases hothers with
      | plain _ _ h' => rw [ih h']
      | literal | openLiteral | reference | dangling => simp_all
  | @reference name rest stop parts hmarker hname hstop h ih =>
      generalize hcs : marker :: (name ++ stop :: rest) = cs at hothers
      cases hothers with
      | reference _ hname' hstop' h' =>
          obtain ⟨rfl, rfl, rfl⟩ :=
            before_unique hname hstop hname' hstop' (List.cons.inj hcs).2
          rw [ih h']
      | dangling _ hrest =>
          obtain rfl := (List.cons.inj hcs).2
          simp [hrest stop (by simp)] at hstop
      | done => cases hcs
      | literal | openLiteral | plain => simp_all
  | @dangling rest hmarker hrest =>
      generalize hcs : marker :: rest = cs at hothers
      cases hothers with
      | dangling => rfl
      | @reference _ _ stop _ _ _ hstop _ =>
          obtain rfl := (List.cons.inj hcs).2
          simp [hrest stop (by simp)] at hstop
      | done => cases hcs
      | literal | openLiteral | plain => simp_all

/-! ### How a text is cut -/

/-- What a part is cut into. -/
def Part.pieces : Part → List Piece
  | .copied text => text.map .char
  | .reference name => [.reference name]
  | .dangling => [.unfinished]

/-- In a literal that is not closed all characters are copied. -/
theorem pieces_openLiteral {quote : Char} {body : List Char} (hbody : quote ∉ body) :
    pieces marker (some quote) body = body.map .char := by
  induction body with
  | nil => rw [pieces, List.map_nil]
  | cons c body ih =>
      rw [List.mem_cons, not_or] at hbody
      simp [pieces, Ne.symm hbody.1, ih hbody.2]

/-- A literal is copied with its closing quote, and the rest is cut outside
of it. -/
theorem pieces_literal {quote : Char} {body : List Char} (hbody : quote ∉ body)
    (rest : List Char) :
    pieces marker (some quote) (body ++ quote :: rest)
      = (body ++ [quote]).map .char ++ pieces marker none rest := by
  induction body with
  | nil => simp [pieces]
  | cons c body ih =>
      rw [List.mem_cons, not_or] at hbody
      simpa [pieces, Ne.symm hbody.1] using ih hbody.2

/-- A marker with a name after it is cut off as a reference, up to what
ends it. -/
theorem pieces_reference (hmarker : isQuote marker = false) {name rest : List Char} {stop : Char}
    (hname : ∀ c ∈ name, endsReference c = false) (hstop : endsReference stop = true) :
    pieces marker none (marker :: (name ++ stop :: rest))
      = .reference (String.ofList name) :: pieces marker none (stop :: rest) := by
  rw [pieces]
  simp [hmarker, takeWhile_before hname hstop]

/-- A text is cut as it is read. -/
theorem Reads.pieces_eq {cs : List Char} {parts : List Part} (h : Reads marker cs parts) :
    pieces marker none cs = parts.flatMap Part.pieces := by
  induction h with
  | done => rw [pieces, List.flatMap_nil]
  | literal hquote hbody h ih =>
      simp [pieces, hquote, pieces_literal hbody, ih, Part.pieces]
  | openLiteral hquote hbody =>
      simp [pieces, hquote, pieces_openLiteral hbody, Part.pieces]
  | plain hquote hmarker h ih =>
      simp [pieces, hquote, hmarker, ih, Part.pieces]
  | reference hmarker hname hstop h ih =>
      simp [pieces_reference hmarker hname hstop, ih, Part.pieces]
  -- The name runs to the end of the template, so that nothing ends it.
  | @dangling rest hmarker hrest =>
      have hname : rest.takeWhile (fun c => !endsReference c) = rest := by
        rw [List.takeWhile_eq_self_iff]
        simpa using hrest
      simp [pieces, hmarker, hname, Part.pieces]

end Grammar

/-! ### Asking for the references -/

/-- The names that are asked for, in turn. -/
def asked : List Part → List String
  | [] => []
  | .copied _ :: parts => asked parts
  | .reference name :: parts => name :: asked parts
  | .dangling :: _ => []

/-- The text of the parts, with an answer in the place of each
reference. -/
def assembled : List Part → List String → List Char
  | .copied text :: parts, answers => text ++ assembled parts answers
  | .reference _ :: parts, answer :: answers => answer.toList ++ assembled parts answers
  | _, _ => []

variable {σ : Type}

/-- From the state `s` to the state `t` names are asked for in turn, once
each, and no more of them after one that is refused. -/
inductive Asks (resolve : String → Work σ String) :
    σ → List String → List (String × Result String) → σ → Prop where
  | none {s : σ} : Asks resolve s [] [] s
  | answered {s s' t : σ} {name answer : String} {names : List String}
      {calls : List (String × Result String)} (hcall : (resolve name).exec s = (.ok answer, s'))
      (h : Asks resolve s' names calls t) :
      Asks resolve s (name :: names) ((name, .ok answer) :: calls) t
  | refused {s t : σ} {name : String} {names : List String} {e : Error}
      (hcall : (resolve name).exec s = (.error e, t)) :
      Asks resolve s (name :: names) [(name, .error e)] t

/-- What the calls come to: the text of the parts if every name was
answered and every reference ends, the first error otherwise. -/
inductive Comes (template : String) (parts : List Part) (calls : List (String × Result String)) :
    Result (List Char) → Prop where
  | answered (answers : List String) (hcalls : calls.map Prod.snd = answers.map .ok)
      (hends : .dangling ∉ parts) : Comes template parts calls (.ok (assembled parts answers))
  | refused {name : String} {e : Error} (hcall : (name, .error e) ∈ calls) :
      Comes template parts calls (.error e)
  | dangling (answers : List String) (hcalls : calls.map Prod.snd = answers.map .ok)
      (hends : .dangling ∈ parts) :
      Comes template parts calls (.error (.malformedCondition template))

/-- Whoever resolves references, with a record of the calls. -/
def noted (resolve : String → Work σ String) (name : String) :
    Work (Recorded (String × Result String) σ) String :=
  Recorded.noting (name, ·) (resolve name)

/-- Noting a call adds it to the log with its answer, and changes nothing
else. -/
theorem exec_noted {resolve : String → Work σ String} {name : String} {s t : σ}
    {answer : Result String} (hcall : (resolve name).exec s = (answer, t))
    (log : List (String × Result String)) :
    (noted resolve name).exec ⟨log, s⟩ = (answer, ⟨log ++ [(name, answer)], t⟩) :=
  Recorded.exec_noting _ hcall

section Joined
variable {template : String} {parts : List Part} {calls : List (String × Result String)}
  {result : Result (List Char)}

/-- Copied text comes before what comes of the rest. -/
theorem Comes.copied (h : Comes template parts calls result) (text : List Char) :
    Comes template (.copied text :: parts) calls (result.map (text ++ ·)) := by
  cases h with
  | answered _ hcalls hends => exact .answered _ hcalls (by simpa using hends)
  | refused hcall => exact .refused hcall
  | dangling _ hcalls hends => exact .dangling _ hcalls (by simp [hends])

/-- The answer for a reference comes before what comes of the rest. -/
theorem Comes.reference (h : Comes template parts calls result) (name answer : String) :
    Comes template (.reference name :: parts) ((name, .ok answer) :: calls)
      (result.map (answer.toList ++ ·)) := by
  cases h with
  | answered answers hcalls hends =>
      exact .answered (answer :: answers) (by simp [hcalls]) (by simpa using hends)
  | refused hcall => exact .refused (List.mem_cons_of_mem _ hcall)
  | dangling answers hcalls hends =>
      exact .dangling (answer :: answers) (by simp [hcalls]) (by simp [hends])

/-- Characters are put before what comes after them. -/
theorem exec_join_chars {τ : Type} (template : String) (resolve : String → Work τ String)
    (text : List Char) (pieces : List Piece) (s : τ) :
    (join template resolve (text.map .char ++ pieces)).exec s
      = (((join template resolve pieces).exec s).1.map (text ++ ·),
          ((join template resolve pieces).exec s).2) := by
  induction text with
  | nil =>
      rw [List.map_nil, List.nil_append]
      rcases (join template resolve pieces).exec s with ⟨_ | cs, t⟩ <;> rfl
  | cons c text ih =>
      rw [List.map_cons, List.cons_append, join, Work.exec_bind, ih]
      rcases (join template resolve pieces).exec s with ⟨_ | cs, t⟩ <;> rfl

/-- An answer is put before what comes after the reference. -/
theorem exec_join_answered {τ : Type} (template : String) {resolve : String → Work τ String}
    {name answer : String} {s s' : τ} (hcall : (resolve name).exec s = (.ok answer, s'))
    (pieces : List Piece) :
    (join template resolve (.reference name :: pieces)).exec s
      = (((join template resolve pieces).exec s').1.map (answer.toList ++ ·),
          ((join template resolve pieces).exec s').2) := by
  rw [join, Work.exec_bind_ok hcall, Work.exec_bind]
  rcases (join template resolve pieces).exec s' with ⟨_ | cs, t⟩ <;> rfl

/-- After a name that is refused nothing is asked for. -/
theorem exec_join_refused {τ : Type} (template : String) {resolve : String → Work τ String}
    {name : String} {e : Error} {s t : τ} (hcall : (resolve name).exec s = (.error e, t))
    (pieces : List Piece) :
    (join template resolve (.reference name :: pieces)).exec s = (.error e, t) :=
  Work.exec_bind_error hcall

/-- To put the parts of a template together, the references are asked for
in turn. -/
theorem exec_join_parts (template : String) (resolve : String → Work σ String)
    (parts : List Part) (s : σ) (log : List (String × Result String)) :
    ∃ calls result t,
      (join template resolve (parts.flatMap Part.pieces)).exec s = (result, t) ∧
        (join template (noted resolve) (parts.flatMap Part.pieces)).exec ⟨log, s⟩
          = (result, ⟨log ++ calls, t⟩) ∧
        Asks resolve s (asked parts) calls t ∧ Comes template parts calls result := by
  -- Along the parts: what is asked for the others follows what is asked for
  -- the first, in the state and with the record that this leaves.
  induction parts generalizing s log with
  | nil =>
      refine ⟨[], .ok [], s, rfl, ?_, .none, .answered [] rfl (by simp)⟩
      rw [List.append_nil]
      rfl
  | cons part parts ih =>
      rw [List.flatMap_cons]
      cases part with
      | copied text =>
          obtain ⟨calls, result, t, hrun, hnoted, hasks, hcomes⟩ := ih s log
          refine ⟨calls, result.map (text ++ ·), t, ?_, ?_, hasks, hcomes.copied text⟩
          · rw [Part.pieces, exec_join_chars, hrun]
          · rw [Part.pieces, exec_join_chars, hnoted]
      | reference name =>
          rw [Part.pieces, List.singleton_append]
          rcases hcall : (resolve name).exec s with ⟨e | answer, s'⟩
          · exact ⟨[(name, .error e)], .error e, s', exec_join_refused template hcall _,
              exec_join_refused template (exec_noted hcall log) _, .refused hcall,
              .refused (List.mem_singleton_self _)⟩
          · obtain ⟨calls, result, t, hrun, hnoted, hasks, hcomes⟩ :=
              ih s' (log ++ [(name, .ok answer)])
            refine ⟨(name, .ok answer) :: calls, result.map (answer.toList ++ ·), t, ?_, ?_,
              .answered hcall hasks, hcomes.reference name answer⟩
            · rw [exec_join_answered template hcall, hrun]
            · rw [exec_join_answered template (exec_noted hcall log), hnoted, List.append_assoc,
                List.singleton_append]
      | dangling =>
          refine ⟨[], .error (.malformedCondition template), s, rfl, ?_, .none, ?_⟩
          · rw [List.append_nil]
            rfl
          · exact .dangling [] rfl (by simp)

/-- Only one of the names that were asked for can have been refused. -/
theorem Asks.refused_unique {resolve : String → Work σ String} {s t : σ} {names : List String}
    (h : Asks resolve s names calls t) {name name' : String} {e e' : Error}
    (hcall : (name, .error e) ∈ calls) (hcall' : (name', .error e') ∈ calls) : e = e' := by
  induction h with
  | none => cases hcall
  | answered _ _ ih => exact ih (by simpa using hcall) (by simpa using hcall')
  | refused _ => simp_all

/-- Where all names were answered, none was refused. -/
theorem not_refused {answers : List String} (hcalls : calls.map Prod.snd = answers.map .ok)
    {name : String} {e : Error} : (name, .error e) ∉ calls := by
  intro hcall
  have hmem : Except.error e ∈ calls.map Prod.snd := List.mem_map_of_mem hcall
  rw [hcalls] at hmem
  simp at hmem

/-- A text comes out just if every call is answered and no reference
dangles, and it is assembled from the answers. -/
theorem Comes.ok_iff (h : Comes template parts calls result) (text : List Char) :
    result = .ok text ↔ ∃ answers : List String, calls.map Prod.snd = answers.map .ok ∧
      .dangling ∉ parts ∧ text = assembled parts answers := by
  cases h with
  | answered answers hcalls hends =>
      constructor
      · rintro ⟨⟩
        exact ⟨answers, hcalls, hends, rfl⟩
      -- The answers are those in the log, so there is one text.
      · rintro ⟨others, hothers, -, rfl⟩
        obtain rfl : answers = others :=
          List.map_injective_iff.mpr (fun _ _ => Except.ok.inj) (hcalls.symm.trans hothers)
        rfl
  | refused hcall =>
      refine iff_of_false (by simp) ?_
      rintro ⟨answers, hanswers, -⟩
      exact not_refused hanswers hcall
  | dangling _ _ hends => exact iff_of_false (by simp) fun ⟨_, _, hnot, _⟩ => hnot hends

/-- An error comes out just if a call was refused with it, or if all were
answered and a reference dangles. -/
theorem Comes.error_iff {resolve : String → Work σ String} {s t : σ} {names : List String}
    (h : Comes template parts calls result) (hasks : Asks resolve s names calls t) (e : Error) :
    result = .error e ↔ (∃ name, (name, .error e) ∈ calls) ∨
      ∃ answers : List String, calls.map Prod.snd = answers.map .ok ∧ .dangling ∈ parts ∧
        e = .malformedCondition template := by
  cases h with
  | answered _ hcalls hends =>
      refine iff_of_false (by simp) ?_
      rintro (⟨name, hcall⟩ | ⟨_, _, hdangling, _⟩)
      · exact not_refused hcalls hcall
      · exact hends hdangling
  | @refused name e' hcall =>
      constructor
      · rintro ⟨⟩
        exact .inl ⟨name, hcall⟩
      · rintro (⟨name', hcall'⟩ | ⟨answers, hanswers, -⟩)
        -- One call at most is refused, so the error is its own.
        · rw [hasks.refused_unique hcall hcall']
        · exact absurd hcall (not_refused hanswers)
  | dangling answers hcalls hends =>
      constructor
      · rintro ⟨⟩
        exact .inr ⟨answers, hcalls, hends, rfl⟩
      · rintro (⟨name, hcall⟩ | ⟨_, _, _, rfl⟩)
        · exact absurd hcall (not_refused hcalls)
        · rfl

end Joined

/-- A template is read in one way, whatever stands for its references. To
expand it, whoever resolves them is asked for their names from left to
right, once for each, and not again after a name that is refused. The
text has the answers in the places of the references, and all else as it
was read. There is no text if a name is refused, or else if a reference
does not end. -/
theorem expand_reads (marker : Char) (template : String) :
    ∃ parts, (∀ others, Reads marker template.toList others ↔ others = parts) ∧
      ∀ {σ : Type} (resolve : String → Work σ String) (s : σ), ∃ calls t result,
        (expand marker resolve template).exec s = (result, t) ∧
        (expand marker (noted resolve) template).exec ⟨[], s⟩ = (result, ⟨calls, t⟩) ∧
        Asks resolve s (asked parts) calls t ∧
        (∀ text, result = .ok text ↔ ∃ answers : List String,
          calls.map Prod.snd = answers.map .ok ∧ .dangling ∉ parts ∧
            text = String.ofList (assembled parts answers)) ∧
        ∀ e, result = .error e ↔ (∃ name, (name, .error e) ∈ calls) ∨
          ∃ answers : List String, calls.map Prod.snd = answers.map .ok ∧ .dangling ∈ parts ∧
            e = .malformedCondition template := by
  -- The reading is fixed before anyone is asked.
  obtain ⟨parts, hreads⟩ := Reads.exists marker template.toList
  refine ⟨parts, fun others => ⟨fun h => h.unique hreads, fun h => h ▸ hreads⟩, ?_⟩
  intro σ resolve s
  obtain ⟨calls, result, t, hrun, hnoted, hasks, hcomes⟩ :=
    exec_join_parts template resolve parts s []
  refine ⟨calls, t, result.map String.ofList, ?_, ?_, hasks, fun text => ?_, fun e => ?_⟩
  · rw [expand, hreads.pieces_eq, Work.exec_bind, hrun]
    cases result <;> rfl
  · rw [expand, hreads.pieces_eq, Work.exec_bind, hnoted]
    cases result <;> rfl
  · have htext : ∀ cs, text = String.ofList cs ↔ text.toList = cs := by
      intro cs
      rw [← String.toList_inj, String.toList_ofList]
    simp only [htext]
    rw [← hcomes.ok_iff]
    cases result <;> simp [Except.map, eq_comm, htext]
  · rw [← hcomes.error_iff hasks]
    cases result <;> simp [Except.map]

/-- In a reference quotes and markers mean nothing, and neither do
markers in a literal. -/
example :
    expand '@' (fun name => (.ok ("<" ++ name ++ ">") : Result String)) "@it's@) = \"@b\""
      = .ok "<it's@>) = \"@b\"" := by
  decide +kernel

end DataAccess.Template
