import Criteria.Proofs.Compilation.Clauses
import Criteria.Proofs.Compilation.Operations

/-!
# Misfits

A step handles contents of some forms and reports every other one, whatever it holds.  Of a content
that it handles, only a comparison and a group of values report anything under the field's name: the
values that their operator does not take.  Otherwise the run leads where the queries in the content
lead.  What is reported makes no clause.
-/

namespace Criteria

/-!
# Values that operators take
-/

namespace Operator

/-- The null test takes a truth value, a pattern operator a text, and any other operator
everything. -/
def Takes (operator : Operator) (value : Value) : Prop :=
  (operator = .null -> ∃ truth, value = .bool truth) ∧
    (operator.position? ≠ none -> ∃ text, value = .text text)

theorem operand?_eq_none_iff
    {operator : Operator} {value : Value} :
    operator.operand? value = none ↔ ¬operator.Takes value := by
  have hbool : value.bool? = none ↔ ¬∃ truth, value = .bool truth := by
    cases value <;> simp [Value.bool?]
  have htext : value.text? = none ↔ ¬∃ text, value = .text text := by
    cases value <;> simp [Value.text?]
  unfold Takes operand?
  split
  next => simp [hbool, position?]
  next => simp [position?]
  next => simp [position?]
  next hnull _ _ =>
    have hnone : operator = .null ↔ False := ⟨hnull, False.elim⟩
    cases operator.position? with
    | none => simp [hnone]
    | some position => simp [hnone, htext]

theorem condition?_eq_none_iff
    {operator : Operator} {value : Value}
    (column : String) :
    operator.condition? column value = none ↔ ¬operator.Takes value := by
  rw [← operand?_eq_none_iff, condition?, Option.map_eq_none_iff]

theorem listCondition?_eq_none_iff
    {operator : Operator} {values : List Value}
    (column : String) :
    operator.listCondition? column values = none ↔
      operator.takesList = false ∧ ∀ value, values = [value] -> ¬operator.Takes value := by
  unfold listCondition?
  cases operator.takesList with
  | true => simp
  | false =>
      match values with
      | [] => simp
      | [value] => simp [condition?_eq_none_iff]
      | first :: second :: values => simp

def TakesItems (operator : Operator) (values : List Value) : Prop :=
  operator.takesList = true ∨ ∃ value, values = [value] ∧ operator.Takes value

theorem listCondition?_eq_none_iff_not_takesItems
    {operator : Operator} {values : List Value}
    (column : String) :
    operator.listCondition? column values = none ↔ ¬operator.TakesItems values := by
  rw [listCondition?_eq_none_iff, TakesItems, not_or, Bool.not_eq_true]
  simp only [not_exists, not_and]

instance (operator : Operator) (value : Value) : Decidable (operator.Takes value) :=
  decidable_of_iff (¬operator.operand? value = none) (by rw [operand?_eq_none_iff, Classical.not_not])

instance (operator : Operator) (values : List Value) : Decidable (operator.TakesItems values) :=
  decidable_of_iff (¬operator.listCondition? "" values = none)
    (by rw [listCondition?_eq_none_iff_not_takesItems, Classical.not_not])

end Operator

/-!
# Forms of content
-/

namespace Content

inductive Form where
  | absent
  | scalar
  | list
  | query
  | queries
  | path
deriving DecidableEq, Repr

def form : Content -> Form
  | .absent => .absent
  | .scalar _ => .scalar
  | .list _ => .list
  | .query _ => .query
  | .queries _ => .queries
  | .path _ => .path

end Content

namespace Step

/-- The forms of content that a step makes clauses of.  An absent content is never reported, nor is
any content of a field that is skipped. -/
def handles : Step -> Content.Form -> Bool
  | .skip, _ => true
  | _, .absent => true
  | .compare .., form => form = .scalar || form = .list
  | .group _ .ofQuery _ _, form => form = .query
  | .group _ .queries _ _, form => form = .queries
  | .group _ .values _ _, form => form = .list
  | .condition _, form => form = .scalar
  | .subquery .., form => form = .scalar || form = .query
  | .path _, form => form = .scalar || form = .query || form = .path
  | .flatten, form => form = .query

/-- A content that its step reports and makes no clause of. -/
inductive Misfits : Step -> Content -> Prop where
  | form {step : Step} {content : Content} :
      step.handles content.form = false -> Misfits step content
  | value {column : String} {operator : Operator} {value : Value} :
      ¬operator.Takes value -> Misfits (.compare column operator) (.scalar value)
  | list {column : String} {operator : Operator} {values : List Value} :
      operator.takesList = false -> (∀ value, values = [value] -> ¬operator.Takes value) ->
        Misfits (.compare column operator) (.list values)

/-- How often a field is reported for values in a content that its step handles. -/
def refusals : Step -> Content -> Nat
  | .compare _ operator, .scalar value => if operator.Takes value then 0 else 1
  | .compare _ operator, .list values => if operator.TakesItems values then 0 else 1
  | .group _ .values _ operator, .list values => values.countP fun value => ¬operator.Takes value
  | _, _ => 0

end Step

namespace Session

/-!
# Contents that are reported
-/

theorem contentClauses_of_not_handles
    {step : Step} {content : Content}
    (h : step.handles content.form = false)
    (typeName field : String) :
    contentClauses typeName field step content = misfit typeName field := by
  cases content with
  | absent => cases step <;> cases h
  | scalar value =>
      cases step with
      | group connective members column operator => rfl
      | flatten => rfl
      | _ => cases h
  | list values =>
      cases step with
      | group connective members column operator =>
          cases members with
          | values => cases h
          | ofQuery => rfl
          | queries => rfl
      | condition template => rfl
      | subquery column operator select table => rfl
      | path path => rfl
      | flatten => rfl
      | _ => cases h
  | query query =>
      cases step with
      | compare column operator => rfl
      | group connective members column operator =>
          cases members with
          | ofQuery => cases h
          | queries => rfl
          | values => rfl
      | condition template => rfl
      | _ => cases h
  | queries queries =>
      cases step with
      | group connective members column operator =>
          cases members with
          | queries => cases h
          | ofQuery => rfl
          | values => rfl
      | skip => cases h
      | _ => rfl
  | path hops =>
      cases step with
      | skip => cases h
      | path path => cases h
      | _ => rfl

theorem contentClauses_of_misfits
    {step : Step} {content : Content}
    (h : step.Misfits content)
    (typeName field : String) :
    contentClauses typeName field step content = misfit typeName field := by
  cases h with
  | form hform => exact contentClauses_of_not_handles hform typeName field
  | @value column operator value htakes =>
      show clauseOrMisfit typeName field (operator.condition? column value) = _
      rw [(Operator.condition?_eq_none_iff column).mpr htakes]
      rfl
  | @list column operator values hlist htakes =>
      show clauseOrMisfit typeName field (operator.listCondition? column values) = _
      rw [(Operator.listCondition?_eq_none_iff column).mpr ⟨hlist, htakes⟩]
      rfl

theorem contribution_of_misfits
    {step : Step} {content : Content}
    (h : step.Misfits content)
    (naming : Naming) :
    content.contribution (Plan.build naming) step = .empty := by
  have hanswer := (computes_contentClauses "" "" step content).agrees
    (Grows.refl [] (after (contentClauses "" "" step content) (fresh naming)))
  rw [contentClauses_of_misfits h] at hanswer
  exact hanswer.symm

/-!
# Contents that are handled
-/

/-- A query for a stop that the path does not have is reported and not compiled. -/
def afterHop (typeName field : String) (path : Path) (session : Session) (hop : HopQuery) :
    Session :=
  if hop.index = 0 ∨ path.length < hop.index then
    after (report [.hopIgnored typeName field hop.index path.raw]) session
  else
    after (clauses hop.query) session

/-- Where the queries in a content lead, one after the other. -/
def afterParts (session : Session) (typeName field : String) : Step -> Content -> Session
  | .skip, _ => session
  | _, .query query => after (clauses query) session
  | _, .queries queries =>
      queries.foldl (fun earlier query => after (clauses query) earlier) session
  | .path path, .path hops => hops.foldl (afterHop typeName field path) session
  | _, _ => session

theorem after_report_nil
    (session : Session) :
    after (report []) session = session := by
  show { session with log := session.log ++ [] } = session
  rw [List.append_nil]

theorem after_report_append
    (session : Session) (events others : List Event) :
    after (report others) (after (report events) session) =
      after (report (events ++ others)) session := by
  show { session with log := session.log ++ events ++ others } = _
  rw [List.append_assoc]
  rfl

theorem after_clauseOrMisfit
    {condition? : Option Fragment} {fits : Prop} [Decidable fits]
    (h : condition? = none ↔ ¬fits)
    (typeName field : String) (session : Session) :
    after (clauseOrMisfit typeName field condition?) session =
      after (report (List.replicate (if fits then 0 else 1) (.contentMisfit typeName field)))
        session := by
  cases condition? with
  | none =>
      rw [if_neg (h.mp rfl)]
      rfl
  | some fragment =>
      have hfits : fits := Decidable.not_not.mp fun hnot => nomatch h.mpr hnot
      rw [if_pos hfits]
      exact (after_report_nil session).symm

theorem after_valueClauses
    (typeName field column : String) (operator : Operator) (values : List Value)
    (session : Session) :
    after (valueClauses typeName field column operator values) session =
      after (report (List.replicate (values.countP fun value => ¬operator.Takes value)
        (.contentMisfit typeName field))) session := by
  induction values generalizing session with
  | nil => exact (after_report_nil session).symm
  | cons value values ih =>
      have hnone : operator.condition? column value = none ↔ ¬operator.Takes value :=
        operator.condition?_eq_none_iff column
      have hvalue := after_clauseOrMisfit hnone typeName field session
      show after (valueClauses typeName field column operator values)
        (after (clauseOrMisfit typeName field (operator.condition? column value)) session) = _
      rw [hvalue, ih, after_report_append, List.replicate_append_replicate, List.countP_cons,
        Nat.add_comm]
      by_cases htakes : operator.Takes value
      · simp [htakes]
      · simp [htakes]

theorem after_queryClauses
    (queries : List Query) (session : Session) :
    after (queryClauses queries) session =
      queries.foldl (fun earlier query => after (clauses query) earlier) session := by
  induction queries generalizing session with
  | nil => rfl
  | cons query queries ih => exact ih (after (clauses query) session)

theorem after_hopFilters
    (typeName field : String) (path : Path) (hops : List HopQuery) (session : Session) :
    after (hopFilters typeName field path hops) session =
      hops.foldl (afterHop typeName field path) session := by
  induction hops generalizing session with
  | nil => rfl
  | cons hop hops ih =>
      cases hop with
      | mk index query =>
          have hhop : afterHop typeName field path session (.mk index query) =
              if index = 0 ∨ path.length < index then
                after (report [.hopIgnored typeName field index path.raw]) session
              else
                after (clauses query) session :=
            rfl
          rw [hopFilters, List.foldl_cons, ← ih, hhop]
          by_cases hstop : index = 0 ∨ path.length < index
          · rw [if_pos hstop, if_pos hstop]
            rfl
          · rw [if_neg hstop, if_neg hstop]
            rfl

/-- Of a content that is handled, nothing is reported under the field's name but values that an
operator refuses and filters for stops that a path does not have. -/
theorem after_contentClauses_of_handles
    {step : Step} {content : Content}
    (h : step.handles content.form = true)
    (typeName field : String) (session : Session) :
    after (contentClauses typeName field step content) session =
      after (report (List.replicate (step.refusals content) (.contentMisfit typeName field)))
        (session.afterParts typeName field step content) := by
  cases content with
  | absent =>
      cases step with
      | group connective members column operator =>
          cases members <;>
            exact (after_report_nil session).symm
      | _ => exact (after_report_nil session).symm
  | scalar value =>
      cases step with
      | compare column operator =>
          exact after_clauseOrMisfit (operator.condition?_eq_none_iff column) typeName field session
      | group connective members column operator => cases members <;> cases h
      | flatten => cases h
      | skip => exact (after_report_nil session).symm
      | condition template => exact (after_report_nil session).symm
      | subquery column operator select table => exact (after_report_nil session).symm
      | path path => exact (after_report_nil session).symm
  | list values =>
      cases step with
      | compare column operator =>
          exact after_clauseOrMisfit
            (operator.listCondition?_eq_none_iff_not_takesItems column) typeName field session
      | group connective members column operator =>
          cases members with
          | values => exact after_valueClauses typeName field column operator values session
          | ofQuery => cases h
          | queries => cases h
      | skip => exact (after_report_nil session).symm
      | condition template => cases h
      | subquery column operator select table => cases h
      | path path => cases h
      | flatten => cases h
  | query query =>
      have hquiet := (after_report_nil (after (clauses query) session)).symm
      cases step with
      | skip => exact (after_report_nil session).symm
      | group connective members column operator =>
          cases members with
          | ofQuery => exact hquiet
          | queries => cases h
          | values => cases h
      | subquery column operator select table => exact hquiet
      | path path => exact hquiet
      | flatten => exact hquiet
      | compare column operator => cases h
      | condition template => cases h
  | queries queries =>
      cases step with
      | skip => exact (after_report_nil session).symm
      | group connective members column operator =>
          cases members with
          | queries =>
              exact (after_queryClauses queries session).trans (after_report_nil _).symm
          | ofQuery => cases h
          | values => cases h
      | compare column operator => cases h
      | condition template => cases h
      | subquery column operator select table => cases h
      | path path => cases h
      | flatten => cases h
  | path hops =>
      cases step with
      | skip => exact (after_report_nil session).symm
      | path path =>
          exact (after_hopFilters typeName field path hops session).trans
            (after_report_nil _).symm
      | compare column operator => cases h
      | group connective members column operator => cases members <;> cases h
      | condition template => cases h
      | subquery column operator select table => cases h
      | flatten => cases h

end Session
end Criteria
