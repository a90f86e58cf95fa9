import Criteria.Proofs.Compilation.Operations
import Criteria.Proofs.Compilation.Selections
import Criteria.Proofs.Placeholders.Fragments

/-!
# Placeholders of conditions

Every clause that a field contributes is paired, whatever plans the session holds, and so is every
condition cut after one of its clauses.
-/

namespace Criteria

open Text

/-!
# Operators
-/

namespace Operator

theorem paired_patternOperand
    (position : Pattern.Position) (text : String) :
    (patternOperand position text).Paired := by
  unfold Fragment.Paired patternOperand
  by_cases hescape : Pattern.needsEscape text.toList
  · rw [if_pos hescape]
    show placeholders "? ESCAPE '\\'" = 1
    rfl
  · rw [if_neg hescape]
    show placeholders "?" = 1
    rfl

theorem paired_listOperand
    (values : List Value) :
    (listOperand values).Paired := by
  cases values with
  | nil => exact Fragment.paired_text rfl
  | cons value values => exact Fragment.paired_boundGroup (value :: values)

theorem paired_operand?
    (operator : Operator) (value : Value) :
    ∀ operand ∈ operator.operand? value, operand.Paired := by
  intro operand hoperand
  rcases operand?_cases hoperand with ⟨_, hnull | hnot⟩ | ⟨_, hlist | hbound | hpattern⟩
  · rw [hnull]
    exact Fragment.paired_text rfl
  · rw [hnot]
    exact Fragment.paired_text rfl
  · rw [hlist]
    exact paired_listOperand [value]
  · rw [hbound]
    exact Fragment.paired_bound value
  · rcases hpattern with ⟨position, text, heq⟩
    rw [heq]
    exact paired_patternOperand position text

theorem paired_attach
    (operator : Operator)
    {column : String} {operand : Fragment}
    (hcolumn : WrittenIn NotMark column)
    (h : operand.Paired) :
    (operator.attach column operand).Paired := by
  have hsign : operator.sign.toList.count '?' = 0 := by
    cases operator <;> rfl
  unfold attach
  split
  · exact (Fragment.paired_text hcolumn.count_mark).append h
  · refine (Fragment.paired_text ?_).append h
    simp [placeholders, hcolumn.count_mark, hsign]

theorem paired_condition?
    (operator : Operator)
    {column : String}
    (hcolumn : WrittenIn NotMark column)
    (value : Value) :
    ∀ fragment ∈ operator.condition? column value, fragment.Paired := by
  intro fragment hfragment
  rcases Option.map_eq_some_iff.mp hfragment with ⟨operand, hoperand, heq⟩
  rw [← heq]
  exact operator.paired_attach hcolumn (operator.paired_operand? value operand hoperand)

theorem paired_listCondition?
    (operator : Operator)
    {column : String}
    (hcolumn : WrittenIn NotMark column)
    (values : List Value) :
    ∀ fragment ∈ operator.listCondition? column values, fragment.Paired := by
  intro fragment hfragment
  unfold listCondition? at hfragment
  split at hfragment
  · cases hfragment
    exact operator.paired_attach hcolumn (paired_listOperand values)
  · split at hfragment
    next value => exact operator.paired_condition? hcolumn value fragment hfragment
    next => cases hfragment

end Operator

/-!
# Paths
-/

theorem paired_selectFrom
    {column table : String}
    (hcolumn : WrittenIn NotMark column)
    (htable : WrittenIn NotMark table) :
    (selectFrom column table).Paired := by
  refine Fragment.paired_text ?_
  simp [placeholders, hcolumn.count_mark, htable.count_mark]

theorem selects_paired :
    Selects NotMark Fragment.Paired where
  identity := by decide
  empty := Fragment.paired_empty
  append hf hg := hf.append hg
  whereText := Fragment.paired_text rfl
  intersect := Fragment.paired_text rfl
  selectFrom := paired_selectFrom
  membership hcolumn hf := by
    refine ((Fragment.paired_text ?_).append hf).append (Fragment.paired_text rfl)
    simp [placeholders, hcolumn.count_mark]

theorem Path.paired_compile
    {path : Path} {filters : Filters}
    (hpath : path.WrittenIn NotMark)
    (hfilters : ∀ entry ∈ filters, entry.2.Paired) :
    (path.compile filters).Paired := by
  refine selects_paired.compile ?_ (fun hop hhop => (hpath.hops hop hhop).link) hfilters
  intro stop hstop
  rcases List.mem_cons.mp hstop with hroot | hlater
  · rw [hroot]
    exact hpath.root.table
  · rcases List.mem_map.mp hlater with ⟨hop, hhop, heq⟩
    rw [← heq]
    exact (hpath.hops hop hhop).stop.table

/-!
# Contributions
-/

theorem paired_subqueryClause
    {column select table : String} {filter : Fragment}
    (operator : Operator)
    (hcolumn : WrittenIn NotMark column)
    (hselect : WrittenIn NotMark select)
    (htable : WrittenIn NotMark table)
    (hfilter : filter.Paired) :
    (Session.subqueryClause column operator select table filter).Paired := by
  have hsign : operator.sign.toList.count '?' = 0 := by
    cases operator <;> rfl
  refine ((Fragment.paired_text ?_).append (selects_paired.asWhere hfilter)).append
    (Fragment.paired_text rfl)
  simp [placeholders, hcolumn.count_mark, hselect.count_mark, htable.count_mark, hsign]

theorem paired_templateClause
    (template : String) (value : Value) :
    (Session.templateClause template value).Paired := by
  unfold Fragment.Paired Session.templateClause
  rw [List.length_replicate]

theorem handsOn_paired :
    HandsOn (Step.WrittenIn NotMark) Fragment.Paired where
  compare h := Clauses.all_ofCondition? (Operator.paired_condition? _ h _)
  template _ := Clauses.all_single (paired_templateClause _ _)
  list h := Clauses.all_ofCondition? (Operator.paired_listCondition? _ h _)
  values h := Clauses.all_ofValues fun value _ => Operator.paired_condition? _ h value
  group _ h := Clauses.paired_group h _
  subquery hstep hmembers :=
    paired_subqueryClause _ hstep.left hstep.right.left hstep.right.right
      (Clauses.paired_join hmembers (Clauses.placeholders_separator .and))
  path hpath hfilters := by
    refine Path.paired_compile hpath ?_
    intro entry hentry
    rcases List.mem_map.mp hentry with ⟨filter, hfilter, heq⟩
    rw [← heq]
    exact Clauses.paired_join (hfilters filter hfilter) (Clauses.placeholders_separator .and)

/-!
# Conditions in a session
-/

namespace Session

theorem prefix_joinWith
    (separator : String) (before later : List String) :
    (joinWith separator before).toList <+: (joinWith separator (before ++ later)).toList := by
  induction before with
  | nil => exact List.nil_prefix
  | cons piece before ih =>
      cases before with
      | nil =>
          cases later with
          | nil => exact List.prefix_refl _
          | cons next later =>
              simp only [List.singleton_append, joinWith, String.toList_append,
                List.append_assoc]
              exact List.prefix_append _ _
      | cons next before =>
          simp only [List.cons_append, joinWith, String.toList_append] at ih ⊢
          exact (List.prefix_append_right_inj _).mpr ih

variable {naming : Naming} {operations : List Operation} {query : Query}

theorem paired_clauses
    (hnaming : naming.WrittenIn NotMark)
    (htypes : ∀ type ∈ operations.flatMap Operation.types ++ query.types,
      type.WrittenIn NotMark) :
    (query.clausesBy (after (condition query) (reached naming operations)).planOf).All
      Fragment.Paired :=
  handsOn_paired.all_clauses _ query <| steps_after_reached fun type htype _ =>
    Plan.writtenIn_build alphabet_notMark hnaming (htypes type htype)

theorem paired_condition
    (hnaming : naming.WrittenIn NotMark)
    (htypes : ∀ type ∈ operations.flatMap Operation.types ++ query.types,
      type.WrittenIn NotMark) :
    (answer (condition query) (reached naming operations)).Paired := by
  rw [condition_eq]
  exact Clauses.paired_join (paired_clauses hnaming htypes) (Clauses.placeholders_separator .and)

/-- In any session that a caller can reach, the condition of a query has one argument for each
placeholder; cut after any of its clauses, the text has as many placeholders as the clauses up to
there have arguments.  The clauses are those of the fields, in order. -/
theorem placeholders_condition
    {naming : Naming} {operations : List Operation} {query : Query}
    (hnaming : naming.WrittenIn NotMark)
    (htypes : ∀ type ∈ operations.flatMap Operation.types ++ query.types,
      type.WrittenIn NotMark) :
    let session := reached naming operations
    let result := answer (condition query) session
    let fields := query.contributions (after (condition query) session).planOf
    placeholders result.sql = result.args.length ∧
      result = conjunction (.concat fields) ∧
      ∀ before later : List Fragment, fields.flatMap Clauses.parts = before ++ later ->
        let cut := joinWith " AND " (before.map Fragment.sql)
        cut.toList <+: result.sql.toList ∧
          before.flatMap Fragment.args <+: result.args ∧
          placeholders cut = (before.flatMap Fragment.args).length := by
  intro session result fields
  have hresult := condition_eq query session
  refine ⟨paired_condition hnaming htypes, hresult, ?_⟩
  intro before later hsplit cut
  have hparts : (query.clausesBy (after (condition query) session).planOf).parts =
      before ++ later := hsplit
  have hbefore : (Clauses.mk before).All Fragment.Paired := by
    intro fragment hfragment
    refine paired_clauses hnaming htypes fragment ?_
    rw [hparts]
    exact List.mem_append_left later hfragment
  show cut.toList <+: (answer (condition query) session).sql.toList ∧
    _ <+: (answer (condition query) session).args ∧ _
  rw [hresult]
  unfold conjunction Clauses.join
  rw [hparts, List.map_append, List.flatMap_append]
  exact ⟨prefix_joinWith _ _ _, List.prefix_append _ _,
    Clauses.paired_join hbefore (Clauses.placeholders_separator .and)⟩

def markedQuery : Query :=
  let role := Query.mk "RoleQuery"
    [.mk ⟨"name_like", none, .scalar⟩ (.scalar (.text "50%")),
      .mk ⟨"note", none, .condition "(a = ? OR b = ?)"⟩ (.scalar (.int 1))] none
  .mk "UserQuery"
    [.mk ⟨"roles", none, .path "user,role"⟩ (.query role),
      .mk ⟨"id_in", some "uid", .scalar⟩ (.list [.int 2, .int 3]),
      .mk ⟨"flag", none, .condition "x <> ? AND y <> ?"⟩ (.scalar (.bool true))] none

def earlierRole : Operation :=
  .plan ⟨"RoleQuery",
    [⟨"nick_not_end", none, .scalar⟩, ⟨"note", none, .condition "(a = ? OR b = ?)"⟩]⟩

theorem placeholders_condition_markedQuery :
    Naming.WrittenIn NotMark {} ∧
      (∀ type ∈ [earlierRole].flatMap Operation.types ++ markedQuery.types,
        type.WrittenIn NotMark) ∧
      placeholders (answer (condition markedQuery) (reached {} [earlierRole])).sql =
        (answer (condition markedQuery) (reached {} [earlierRole])).args.length := by
  have hnaming : Naming.WrittenIn NotMark {} :=
    .of_formats (by decide) (by decide) (by decide) rfl rfl
  have htypes : ∀ type ∈ [earlierRole].flatMap Operation.types ++ markedQuery.types,
      type.WrittenIn NotMark := by
    decide
  exact ⟨hnaming, htypes, (placeholders_condition hnaming htypes).left⟩

example :
    (answer (condition markedQuery) (reached {} [earlierRole])).sql =
      "id IN (SELECT user_id FROM a_user_and_role WHERE role_id IN (SELECT id FROM t_role " ++
        "WHERE nick NOT LIKE ? ESCAPE '\\' AND (a = ? OR b = ?))) AND uid IN (?, ?) AND " ++
        "x <> ? AND y <> ?" := by
  decide +kernel

end Session
end Criteria
