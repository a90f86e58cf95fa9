import Criteria.Proofs.Compilation.Reports
import Criteria.Proofs.Naming.Cutting
import Criteria.Proofs.Placeholders.Conditions
import Criteria.Proofs.Templates.Readings

/-!
# Templates in conditions

A template is taken into a condition as it stands.  The condition is read as the expressions of its
clauses one after the other: a template with several alternatives is torn apart by its neighbours,
while templates with a single alternative keep the condition a conjunction, so that a further field
only ever narrows it.

This is said of templates that are read as they are meant: a connective in small letters or between
other blanks, one in quotes, and the AND of BETWEEN stand in parentheses.
-/

namespace Criteria

open Text

/-!
# Readable fragments
-/

/-- The fragment is a written expression, with a single alternative if it has to be narrow. -/
def Fragment.Readable (narrow : Prop) (f : Fragment) : Prop :=
  ∃ expression : Expression,
    expression.Proper ∧ (narrow -> expression.length = 1) ∧ expression.written = f

namespace Fragment

variable {narrow : Prop} {f : Fragment}

theorem Operand.readable
    (h : f.Operand)
    (narrow : Prop) :
    f.Readable narrow :=
  ⟨[[f]], Expression.proper_operand h, fun _ => rfl, Expression.written_operand f⟩

theorem Readable.balanced
    (h : f.Readable narrow) :
    f.Balanced := by
  rcases h with ⟨expression, hproper, _, hwritten⟩
  rw [← hwritten]
  exact Expression.balanced_written hproper

theorem Readable.clear
    (h : f.Readable narrow) :
    f.Clear := by
  rcases h with ⟨expression, hproper, _, hwritten⟩
  rw [← hwritten]
  exact Expression.clear_written hproper

theorem Readable.paired
    (h : f.Readable narrow) :
    f.Paired := by
  rcases h with ⟨expression, hproper, _, hwritten⟩
  rw [← hwritten]
  exact Expression.paired_written hproper

end Fragment

namespace Clauses

variable {narrow : Prop} {clauses : Clauses}

theorem All.balanced_join
    (h : clauses.All (Fragment.Readable narrow))
    (connective : Connective) :
    (clauses.join connective.separator).Balanced :=
  Expression.balanced_joined (fun f hf => (h f hf).balanced) connective

theorem All.paired_join
    (h : clauses.All (Fragment.Readable narrow))
    (connective : Connective) :
    (clauses.join connective.separator).Paired :=
  Clauses.paired_join (fun f hf => (h f hf).paired) (placeholders_separator connective)

theorem readable_group
    {connective : Connective}
    (hne : clauses.parts ≠ [])
    (h : clauses.All (Fragment.Readable narrow)) :
    (clauses.group connective.separator).Readable narrow := by
  have hclear : (clauses.group connective.separator).Clear :=
    clear_group hne fun f hf => (h f hf).clear
  have hpaired := paired_group (fun f hf => (h f hf).paired) connective
  rcases clauses.group_cases hne connective.separator with ⟨member, hparts, hgroup⟩ | ⟨_, hgroup⟩
  · rw [hgroup]
    exact h member (by simp [hparts])
  · refine Fragment.Operand.readable ⟨?_, hclear, hpaired⟩ narrow
    unfold Fragment.Sealed
    rw [hgroup, Fragment.toList_parenthesized]
    exact isSealed_enclose (h.balanced_join connective)

end Clauses

/-!
# Templates
-/

/-- What stands outside of parentheses, with blanks for the rest. -/
def surface (depth : Nat) : List Char -> List Char
  | [] => []
  | c :: cs =>
      let next := (deeper? depth c).getD 0
      (if depth = 0 ∧ next = 0 then c else ' ') :: surface next cs

def surfaceWords (text : String) : List String :=
  (splitWhere (fun c => !Letter.isWordChar c) (surface 0 text.toList)).map fun word =>
    String.ofList (word.map Char.toLower)

/-- No connective, in whatever letters, and no BETWEEN stands in the text outside of its parentheses,
and no quote is left open. -/
structure Undivided (text : String) : Prop where
  noOr : "or" ∉ surfaceWords text
  noAnd : "and" ∉ surfaceWords text
  noBetween : "between" ∉ surfaceWords text
  closed : text.toList.count '\'' % 2 = 0
  closedDouble : text.toList.count '"' % 2 = 0

instance : DecidablePred Undivided :=
  fun text => decidable_of_iff
    ("or" ∉ surfaceWords text ∧ "and" ∉ surfaceWords text ∧ "between" ∉ surfaceWords text ∧
      text.toList.count '\'' % 2 = 0 ∧ text.toList.count '"' % 2 = 0)
    ⟨fun ⟨hor, hand, hbetween, hclosed, hdouble⟩ => ⟨hor, hand, hbetween, hclosed, hdouble⟩,
      fun h => ⟨h.noOr, h.noAnd, h.noBetween, h.closed, h.closedDouble⟩⟩

example :
    ¬Undivided "name like ?\tor(nick like ?)" ∧ Undivided "(name like ? or nick like ?)" := by
  decide +kernel

/-- The template is written from the texts of its operands, none of which has a connective outside of
its parentheses. -/
structure SpelledBy (template : String) (texts : List (List String)) : Prop where
  written : template = joinWith " OR " (texts.map (joinWith " AND "))
  ne_nil : texts ≠ []
  alternative : ∀ operands ∈ texts, operands ≠ []
  operand : ∀ operands ∈ texts, ∀ text ∈ operands, isSealed 0 text.toList = true ∧ Clear text.toList
  undivided : ∀ operands ∈ texts, ∀ text ∈ operands, Undivided text

def Expression.ofTexts (value : Value) (texts : List (List String)) : Expression :=
  texts.map fun operands => operands.map fun text => Session.templateClause text value

namespace SpelledBy

variable {template : String} {texts : List (List String)}

theorem proper
    (h : SpelledBy template texts)
    (value : Value) :
    (Expression.ofTexts value texts).Proper := by
  constructor
  · simpa [Expression.ofTexts] using h.ne_nil
  · intro operands hoperands
    rcases List.mem_map.mp hoperands with ⟨own, hown, heq⟩
    rw [← heq]
    simpa using h.alternative own hown
  · intro operands hoperands f hf
    rcases List.mem_map.mp hoperands with ⟨own, hown, heq⟩
    rw [← heq] at hf
    rcases List.mem_map.mp hf with ⟨text, htext, hclause⟩
    rw [← hclause]
    have hoperand := h.operand own hown text htext
    exact ⟨hoperand.left, hoperand.right, paired_templateClause text value⟩

theorem sql_written
    (h : SpelledBy template texts)
    (value : Value) :
    (Expression.ofTexts value texts).written.sql = template := by
  have htexts : ∀ operands : List String,
      (operands.map fun text => Session.templateClause text value).map Fragment.sql = operands := by
    intro operands
    rw [List.map_map]
    exact List.map_id operands
  have halternatives : ((Expression.ofTexts value texts).map (Fragment.joined .and)).map
      Fragment.sql = texts.map (joinWith " AND ") := by
    unfold Expression.ofTexts
    rw [List.map_map, List.map_map]
    refine List.map_congr_left ?_
    intro operands _
    exact congrArg (joinWith " AND ") (htexts operands)
  rw [h.written, ← halternatives]
  rfl

theorem arg_eq_of_mem_written
    {value arg : Value}
    (h : arg ∈ (Expression.ofTexts value texts).written.args) :
    arg = value := by
  rcases List.mem_flatMap.mp h with ⟨alternative, halternative, hin⟩
  rcases List.mem_map.mp halternative with ⟨clauses, hclauses, heq⟩
  rcases List.mem_map.mp hclauses with ⟨operands, _, hown⟩
  rw [← heq, ← hown] at hin
  rcases List.mem_flatMap.mp hin with ⟨clause, hclause, harg⟩
  rcases List.mem_map.mp hclause with ⟨text, _, htext⟩
  rw [← htext] at harg
  exact List.eq_of_mem_replicate harg

theorem written_eq
    (h : SpelledBy template texts)
    (value : Value) :
    (Expression.ofTexts value texts).written = Session.templateClause template value := by
  have hsql := h.sql_written value
  have hlength : (Expression.ofTexts value texts).written.args.length = placeholders template := by
    rw [← hsql]
    exact (Expression.paired_written (h.proper value)).symm
  have hargs : (Expression.ofTexts value texts).written.args =
      List.replicate (placeholders template) value :=
    List.eq_replicate_iff.mpr ⟨hlength, fun _ => arg_eq_of_mem_written⟩
  show Fragment.mk (Expression.ofTexts value texts).written.sql
    (Expression.ofTexts value texts).written.args = _
  rw [hsql, hargs]
  rfl

end SpelledBy

/-!
# Steps
-/

/-- Plain names that are no connectives and hold no placeholders, and templates that are written from
operands, with a single alternative if they have to be narrow. -/
def Step.Readable (narrow : Prop) : Step -> Prop
  | .condition template =>
      ∃ texts, SpelledBy template texts ∧ (narrow -> texts.length = 1)
  | step => (step.Plain ∧ step.NoConnective) ∧ step.WrittenIn NotMark

theorem handsOn_readable
    (narrow : Prop) :
    HandsOn (Step.Readable narrow) (Fragment.Readable narrow) where
  compare h := Clauses.all_ofCondition? fun f hf => Fragment.Operand.readable
    ⟨Operator.sealed_condition? _ h.left.left _ f hf,
      Operator.clear_condition? _ h.left.left (h.left.right _ List.mem_cons_self) _ f hf,
      Operator.paired_condition? _ h.right _ f hf⟩ narrow
  template {template value} h := by
    rcases h with ⟨texts, hspelled, hnarrow⟩
    refine Clauses.all_single ⟨Expression.ofTexts value texts, hspelled.proper value, ?_,
      hspelled.written_eq value⟩
    intro hone
    rw [Expression.ofTexts, List.length_map, hnarrow hone]
  list h := Clauses.all_ofCondition? fun f hf => Fragment.Operand.readable
    ⟨Operator.sealed_listCondition? _ h.left.left _ f hf,
      Operator.clear_listCondition? _ h.left.left (h.left.right _ List.mem_cons_self) _ f hf,
      Operator.paired_listCondition? _ h.right _ f hf⟩ narrow
  values h := Clauses.all_ofValues fun value _ f hf => Fragment.Operand.readable
    ⟨Operator.sealed_condition? _ h.left.left value f hf,
      Operator.clear_condition? _ h.left.left (h.left.right _ List.mem_cons_self) value f hf,
      Operator.paired_condition? _ h.right value f hf⟩ narrow
  group hne h := Clauses.readable_group hne h
  subquery h hmembers := Fragment.Operand.readable
    ⟨sealed_subqueryClause h.left.left.left h.left.left.right.left h.left.left.right.right
        (hmembers.balanced_join .and),
      clear_subqueryClause h.left.left.left (h.left.right _ List.mem_cons_self),
      paired_subqueryClause _ h.right.left h.right.right.left h.right.right.right
        (hmembers.paired_join .and)⟩ narrow
  path h hfilters := by
    refine Fragment.Operand.readable ⟨Path.sealed_compile h.left.left ?_,
      clear_compile h.left.left.head (h.left.right _ List.mem_cons_self),
      Path.paired_compile h.right ?_⟩ narrow
    · intro entry hentry
      rcases List.mem_map.mp hentry with ⟨filter, hfilter, heq⟩
      rw [← heq]
      exact (hfilters filter hfilter).balanced_join .and
    · intro entry hentry
      rcases List.mem_map.mp hentry with ⟨filter, hfilter, heq⟩
      rw [← heq]
      exact (hfilters filter hfilter).paired_join .and

/-!
# Conjunctions
-/

namespace Clauses

variable {narrow : Prop} {clauses : Clauses}

theorem exists_expressions
    (h : clauses.All (Fragment.Readable narrow)) :
    ∃ expressions : List Expression,
      clauses.parts = expressions.map Expression.written ∧
        ∀ expression ∈ expressions, expression.Proper ∧ (narrow -> expression.length = 1) := by
  rcases clauses with ⟨parts⟩
  induction parts with
  | nil => exact ⟨[], rfl, by simp⟩
  | cons part parts ih =>
      rcases h part List.mem_cons_self with ⟨expression, hproper, hnarrow, hwritten⟩
      rcases ih fun other hother => h other (List.mem_cons_of_mem part hother) with
        ⟨expressions, heq, hall⟩
      refine ⟨expression :: expressions, ?_, ?_⟩
      · rw [List.map_cons, ← heq, hwritten]
      · exact List.forall_mem_cons.mpr ⟨⟨hproper, hnarrow⟩, hall⟩

theorem reading_conjunction
    (h : clauses.All (Fragment.Readable narrow)) :
    (Session.conjunction clauses).reading =
      Expression.sequence (clauses.parts.map Fragment.reading) := by
  rcases exists_expressions h with ⟨expressions, hparts, hall⟩
  have hproper := fun expression hexpression => (hall expression hexpression).left
  have hreadings : (expressions.map Expression.written).map Fragment.reading = expressions := by
    rw [List.map_map]
    have hread : ∀ expression ∈ expressions,
        (Fragment.reading ∘ Expression.written) expression = expression :=
      fun expression hexpression => Expression.reading_written (hproper expression hexpression)
    rw [List.map_congr_left hread, List.map_id']
  have hjoin : Session.conjunction clauses =
      Fragment.joined .and (expressions.map Expression.written) := by
    rw [← hparts]
    rfl
  rw [hparts, hreadings, hjoin]
  by_cases hne : expressions = []
  · rw [hne]
    rfl
  · rw [← Expression.written_sequence hne hproper]
    exact Expression.reading_written (Expression.proper_sequence hne hproper)

theorem admits_conjunction
    (h : clauses.All (Fragment.Readable True))
    (meets : Fragment -> Prop) :
    (Session.conjunction clauses).Admits meets ↔ ∀ part ∈ clauses.parts, part.Admits meets := by
  rcases exists_expressions h with ⟨expressions, hparts, hall⟩
  have hproper := fun expression hexpression => (hall expression hexpression).left
  have hjoin : Session.conjunction clauses =
      Fragment.joined .and (expressions.map Expression.written) := by
    rw [← hparts]
    rfl
  by_cases hne : expressions = []
  · have hempty : (Session.conjunction clauses).sql = "" := by
      rw [hjoin, hne]
      rfl
    refine iff_of_true (Or.inl hempty) ?_
    rw [hparts, hne]
    simp
  · have hholds := (Expression.holds_sequence hne
      (fun expression hexpression => (hall expression hexpression).right trivial) meets).right
    rw [hjoin, ← Expression.written_sequence hne hproper,
      Expression.admits_written (Expression.proper_sequence hne hproper), hholds, hparts,
      List.forall_mem_map]
    refine forall₂_congr ?_
    intro expression hexpression
    exact (Expression.admits_written (hproper expression hexpression) meets).symm

end Clauses

/-!
# One field less
-/

def Field.cleared : Field -> Field
  | .mk type _ => .mk type .absent

def Query.without (index : Nat) : Query -> Query
  | .mk typeName fields page => .mk typeName (fields.modify index Field.cleared) page

theorem Field.types_modify
    (fields : List Field) (index : Nat) :
    (fields.modify index Field.cleared).map Field.type = fields.map Field.type := by
  induction fields generalizing index with
  | nil => simp
  | cons field fields ih =>
      cases index with
      | zero =>
          cases field
          rfl
      | succ index =>
          rw [List.modify_succ_cons, List.map_cons, List.map_cons, ih]

theorem Field.trees_modify_subset
    (fields : List Field) (index : Nat) :
    Field.trees (fields.modify index Field.cleared) ⊆ Field.trees fields := by
  induction fields generalizing index with
  | nil => simp
  | cons field fields ih =>
      cases field with
      | mk type content =>
          cases index with
          | zero => exact List.subset_append_right content.trees (Field.trees fields)
          | succ index =>
              rw [List.modify_succ_cons, Field.trees, Field.trees]
              exact List.append_subset.mpr ⟨List.subset_append_left _ _,
                List.subset_append_of_subset_right _ (ih index)⟩

theorem Field.parts_modify_subset
    (plans : Planning) (plan : List PlannedField) (fields : List Field) (index : Nat) :
    (Clauses.concat (Field.contributions plans plan (fields.modify index Field.cleared))).parts ⊆
      (Clauses.concat (Field.contributions plans plan fields)).parts := by
  induction fields generalizing plan index with
  | nil => simp
  | cons field fields ih =>
      cases field with
      | mk type content =>
          cases plan with
          | nil => cases index <;> exact List.nil_subset _
          | cons planned plan =>
              cases index with
              | zero => exact List.subset_append_right (content.contribution plans planned.step).parts _
              | succ index =>
                  rw [List.modify_succ_cons, Field.contributions, Field.contributions]
                  exact List.append_subset.mpr ⟨List.subset_append_left _ _,
                    List.subset_append_of_subset_right _ (ih plan index)⟩

namespace Query

theorem types_without_subset
    (query : Query) (index : Nat) :
    (query.without index).types ⊆ query.types := by
  cases query with
  | mk typeName fields page =>
      show (Query.mk typeName (fields.modify index Field.cleared) page).types ⊆ _
      rw [Query.types_mk, Query.types_mk, Field.types_modify]
      exact List.cons_subset_cons _
        (List.map_subset Query.type (Field.trees_modify_subset fields index))

theorem parts_without_subset
    (plans : Planning) (query : Query) (index : Nat) :
    ((query.without index).clausesBy plans).parts ⊆ (query.clausesBy plans).parts := by
  cases query with
  | mk typeName fields page =>
      show (Clauses.concat (Field.contributions plans
        (plans ⟨typeName, (fields.modify index Field.cleared).map Field.type⟩).fields _)).parts ⊆ _
      rw [Field.types_modify]
      exact Field.parts_modify_subset plans _ fields index

end Query

/-!
# Conditions in a session
-/

namespace Session

/-- In any session that a caller can reach, a condition with templates is read as its clauses one after
the other.  If no template has several alternatives, it lets through the rows that all of its clauses
let through, and where types of one name are the same, no row that it lets through is kept out without
one of its fields. -/
theorem reading_condition
    {naming : Naming} {operations : List Operation} {query : Query}
    (hreadable : ∀ type ∈ operations.flatMap Operation.types ++ query.types,
      type.name ∈ query.types.map QueryType.name ->
        type.StepsAre naming (Step.Readable False)) :
    let session := reached naming operations
    let parts := (query.clausesBy (after (condition query) session).planOf).parts
    let result := answer (condition query) session
    result.reading = Expression.sequence (parts.map Fragment.reading) ∧
      ((∀ type ∈ operations.flatMap Operation.types ++ query.types,
          type.name ∈ query.types.map QueryType.name ->
            type.StepsAre naming (Step.Readable True)) ->
        ∀ meets : Fragment -> Prop,
          (result.Admits meets ↔ ∀ part ∈ parts, part.Admits meets) ∧
            (Shelf.plans.Uniform (operations.flatMap Operation.types ++ query.types) ->
              result.Admits meets ->
                ∀ index, (answer (condition (query.without index)) session).Admits meets)) := by
  intro session parts result
  have hresult : result = conjunction (query.clausesBy _) := condition_eq query session
  constructor
  · rw [hresult]
    exact Clauses.reading_conjunction
      ((handsOn_readable False).all_clauses _ query (steps_after_reached hreadable))
  · intro hnarrow meets
    constructor
    · rw [hresult]
      exact Clauses.admits_conjunction
        ((handsOn_readable True).all_clauses _ query (steps_after_reached hnarrow)) meets
    · intro huniform hadmits index
      have hreported : Reported naming (operations.flatMap Operation.types ++ query.types) session :=
        reported_reached (List.subset_append_left _ _) naming
      have hwithin : query.types ⊆ operations.flatMap Operation.types ++ query.types :=
        List.subset_append_right _ _
      have hown : result = conjunction (query.clausesBy (Plan.build naming)) :=
        (hreported.condition huniform hwithin).left
      have hless := (hreported.condition huniform
        (List.Subset.trans (query.types_without_subset index) hwithin)).left
      have hall : (query.clausesBy (Plan.build naming)).All (Fragment.Readable True) :=
        (handsOn_readable True).all_clauses _ query fun type htype =>
          hnarrow type (hwithin htype) (List.mem_map_of_mem htype)
      have hsubset := query.parts_without_subset (Plan.build naming) index
      rw [hown, Clauses.admits_conjunction hall] at hadmits
      rw [hless, Clauses.admits_conjunction fun part hpart => hall part (hsubset hpart)]
      exact fun part hpart => hadmits part (hsubset hpart)

def guardedQuery : Query :=
  .mk "GuardedQuery"
    [.mk ⟨"keyword", none, .condition "(name LIKE ? OR nick LIKE ?)"⟩ (.scalar (.text "a")),
      .mk ⟨"id_gt", none, .scalar⟩ (.scalar (.int 5)),
      .mk ⟨"range", none, .condition "low <= ? AND high >= ?"⟩ (.scalar (.int 7))] none

theorem clear_of_word
    (name tail : List Char)
    (hname : ' ' ∉ name)
    (hor : name ≠ "OR".toList)
    (hand : name ≠ "AND".toList) :
    Clear (name ++ ' ' :: tail) := by
  refine ⟨name, tail, rfl, hname, ?_⟩
  intro connective
  cases connective with
  | or => exact hor
  | and => exact hand

theorem spelledBy_keyword :
    SpelledBy "(name LIKE ? OR nick LIKE ?)" [["(name LIKE ? OR nick LIKE ?)"]] := by
  refine ⟨by decide, by decide, by decide, ?_, ?_⟩
  · intro operands hoperands text htext
    rw [List.mem_singleton.mp hoperands] at htext
    rw [List.mem_singleton.mp htext]
    exact ⟨by decide, clear_of_word "(name".toList _ (by decide) (by decide) (by decide)⟩
  · intro operands hoperands
    rw [List.mem_singleton.mp hoperands]
    decide +kernel

theorem spelledBy_range :
    SpelledBy "low <= ? AND high >= ?" [["low <= ?", "high >= ?"]] := by
  refine ⟨by decide, by decide, by decide, ?_, ?_⟩
  · intro operands hoperands text htext
    rw [List.mem_singleton.mp hoperands] at htext
    rcases List.mem_cons.mp htext with hlow | hlast
    · rw [hlow]
      exact ⟨by decide, clear_of_word "low".toList _ (by decide) (by decide) (by decide)⟩
    · rw [List.mem_singleton.mp hlast]
      exact ⟨by decide, clear_of_word "high".toList _ (by decide) (by decide) (by decide)⟩
  · intro operands hoperands
    rw [List.mem_singleton.mp hoperands]
    decide +kernel

theorem stepsAre_guardedQuery
    (narrow : Prop) :
    guardedQuery.type.StepsAre {} (Step.Readable narrow) := by
  have hplan : (Plan.build {} guardedQuery.type).fields =
      [⟨"keyword", .condition "(name LIKE ? OR nick LIKE ?)"⟩,
        ⟨"id_gt", .compare "id" .gt⟩,
        ⟨"range", .condition "low <= ? AND high >= ?"⟩] := by
    decide +kernel
  intro planned hplanned
  rw [hplan] at hplanned
  simp only [List.mem_cons, List.not_mem_nil, or_false] at hplanned
  rcases hplanned with hkeyword | hid | hrange
  · rw [hkeyword]
    exact ⟨_, spelledBy_keyword, fun _ => rfl⟩
  · rw [hid]
    have hmark : WrittenIn NotMark "id" := by decide
    exact ⟨by decide, hmark⟩
  · rw [hrange]
    exact ⟨_, spelledBy_range, fun _ => rfl⟩

theorem reading_condition_guardedQuery :
    let types := [].flatMap Operation.types ++ guardedQuery.types
    let names := guardedQuery.types.map QueryType.name
    let session := reached {} []
    let parts := (guardedQuery.clausesBy (after (condition guardedQuery) session).planOf).parts
    let result := answer (condition guardedQuery) session
    let meets := fun operand : Fragment => operand.args ≠ []
    (∀ type ∈ types, type.name ∈ names -> type.StepsAre {} (Step.Readable False)) ∧
      (∀ type ∈ types, type.name ∈ names -> type.StepsAre {} (Step.Readable True)) ∧
        Shelf.plans.Uniform types ∧
          result.Admits meets ∧
            result.reading = Expression.sequence (parts.map Fragment.reading) ∧
              (result.Admits meets ↔ ∀ part ∈ parts, part.Admits meets) ∧
                ∀ index, (answer (condition (guardedQuery.without index)) session).Admits meets := by
  intro types names session parts result meets
  have hreadable : ∀ narrow : Prop, ∀ type ∈ types, type.name ∈ names ->
      type.StepsAre {} (Step.Readable narrow) := by
    intro narrow type htype _
    have hself : type = guardedQuery.type := List.mem_singleton.mp htype
    rw [hself]
    exact stepsAre_guardedQuery narrow
  have huniform : Shelf.plans.Uniform types := by
    unfold Shelf.Uniform
    decide +kernel
  have hreading : result.reading =
      [[⟨"(name LIKE ? OR nick LIKE ?)", [.text "a", .text "a"]⟩, ⟨"id > ?", [.int 5]⟩,
        ⟨"low <= ?", [.int 7]⟩, ⟨"high >= ?", [.int 7]⟩]] := by
    decide +kernel
  have hadmits : result.Admits meets := by
    refine Or.inr ⟨_, hreading ▸ List.mem_singleton_self _, ?_⟩
    simp [meets]
  have h := reading_condition (hreadable False)
  have hnarrow := h.right (hreadable True) meets
  exact ⟨hreadable False, hreadable True, huniform, hadmits, h.left, hnarrow.left,
    hnarrow.right huniform hadmits⟩

def keywordQuery : Query :=
  .mk "UserQuery"
    [.mk ⟨"keyword", none, .condition "name LIKE ? OR nick LIKE ?"⟩ (.scalar (.text "a")),
      .mk ⟨"id_gt", none, .scalar⟩ (.scalar (.int 5))] none

/-- The second alternative runs together with the comparison, so that the first one alone lets a row
through which the comparison keeps out. -/
theorem admits_keywordQuery :
    let session := reached {} []
    let result := answer (condition keywordQuery) session
    let parts := (keywordQuery.clausesBy (after (condition keywordQuery) session).planOf).parts
    let meets := fun operand : Fragment => operand.sql = "name LIKE ?"
    result.sql = "name LIKE ? OR nick LIKE ? AND id > ?" ∧
      result.Admits meets ∧
        ¬(∀ part ∈ parts, part.Admits meets) ∧
          ¬(answer (condition (keywordQuery.without 0)) session).Admits meets := by
  intro session result parts meets
  have hreading : result.reading =
      [[⟨"name LIKE ?", [.text "a"]⟩], [⟨"nick LIKE ?", [.text "a"]⟩, ⟨"id > ?", [.int 5]⟩]] := by
    decide +kernel
  have hcomparison : ¬(⟨"id > ?", [.int 5]⟩ : Fragment).Admits meets := by
    have halone : (⟨"id > ?", [.int 5]⟩ : Fragment).reading = [[⟨"id > ?", [.int 5]⟩]] := by
      decide +kernel
    unfold Fragment.Admits
    rw [halone]
    simp [meets]
  have hwithout : answer (condition (keywordQuery.without 0)) session = ⟨"id > ?", [.int 5]⟩ := by
    decide +kernel
  refine ⟨by decide +kernel, ?_, ?_, ?_⟩
  · refine Or.inr ⟨_, hreading ▸ List.mem_cons_self, ?_⟩
    simp [meets]
  · intro hall
    have hmem : (⟨"id > ?", [.int 5]⟩ : Fragment) ∈ parts := by
      decide +kernel
    exact hcomparison (hall _ hmem)
  · rw [hwithout]
    exact hcomparison

end Session
end Criteria
