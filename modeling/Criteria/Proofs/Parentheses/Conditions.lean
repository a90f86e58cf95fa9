import Criteria.Proofs.Parentheses.Connectives

/-!
# Conditions and their connectives

The condition of a query, and the inside of each of its groups, is cut at the connective that joined
it into the conditions that were joined.
-/

namespace Criteria

open Text

/-!
# Cutting what was joined
-/

namespace Clauses

variable {clauses : Clauses}

theorem pieces_join_of_passed
    {connective : Connective}
    (hpassed : clauses.All fun fragment =>
      Passed connective.separator.toList fragment.sql.toList)
    (hnonempty : clauses.All Fragment.Nonempty) :
    piecesOutside connective.separator (clauses.join connective.separator).sql =
      clauses.parts.map Fragment.sql := by
  by_cases hparts : clauses.parts = []
  · have hempty : (clauses.join connective.separator).sql = "" := by
      simp [join, hparts, joinWith]
    rw [piecesOutside, if_pos hempty, hparts]
    rfl
  · have hcut : cutOutside connective.separator.toList 0 0
        (clauses.join connective.separator).sql.toList =
          clauses.parts.map fun fragment => fragment.sql.toList := by
      rw [toList_join]
      refine cutOutside_joinChars connective.separating.ne_nil (by simpa using hparts) ?_
      intro piece hpiece
      rcases List.mem_map.mp hpiece with ⟨fragment, hfragment, heq⟩
      rw [← heq]
      exact hpassed fragment hfragment
    rw [piecesOutside, if_neg (nonempty_join hparts hnonempty _), hcut, List.map_map]
    refine List.map_congr_left ?_
    intro fragment _
    exact String.ofList_toList

theorem pieces_join
    (hsealed : clauses.All Fragment.Sealed)
    (hnonempty : clauses.All Fragment.Nonempty)
    (connective : Connective) :
    piecesOutside connective.separator (clauses.join connective.separator).sql =
      clauses.parts.map Fragment.sql :=
  pieces_join_of_passed
    (fun fragment hfragment =>
      cutOutside_sealed connective.separating (hsealed fragment hfragment))
    hnonempty

theorem not_standsOutside_join
    (hsealed : clauses.All Fragment.Sealed)
    (hclear : clauses.All Fragment.Clear)
    (connective : Connective) :
    ¬ StandsOutside connective.other.separator (clauses.join connective.separator).sql := by
  unfold StandsOutside
  rw [toList_join]
  refine not_outside_joinChars ?_ ?_
  · intro piece hpiece
    rcases List.mem_map.mp hpiece with ⟨fragment, hfragment, heq⟩
    rw [← heq]
    exact hsealed fragment hfragment
  · intro piece hpiece
    rcases List.mem_map.mp hpiece with ⟨fragment, hfragment, heq⟩
    rw [← heq]
    exact hclear fragment hfragment

end Clauses

/-- What a group makes of its members: nothing of none, itself of one, and of several their join in
parentheses, which is cut at the group's connective into the members. -/
structure Clauses.Grouped (connective : Connective) (members contribution : Clauses) : Prop where
  none : members.parts = [] -> contribution.parts = []
  one : ∀ member, members.parts = [member] -> contribution.parts = [member]
  several : 1 < members.size ->
    contribution.parts =
        [.text "(" ++ members.join connective.separator ++ .text ")"] ∧
      piecesOutside connective.separator (members.join connective.separator).sql =
        members.parts.map Fragment.sql

theorem Clauses.parts_single
    {f : Fragment}
    (h : f.Nonempty) :
    (single f).parts = [f] := by
  have hne : f.isEmpty = false := beq_false_of_ne h
  rw [single, hne]
  rfl

theorem Clauses.grouped_single
    {members : Clauses}
    (hsealed : members.All Fragment.Sealed)
    (hnonempty : members.All Fragment.Nonempty)
    (connective : Connective) :
    Grouped connective members (single (members.group connective.separator)) := by
  constructor
  · intro hparts
    rw [single_group_of_parts_eq_nil hparts]
    rfl
  · intro member hparts
    have hgroup : members.group connective.separator = member := by
      simp [group, size, join, hparts, joinWith]
    rw [hgroup, parts_single (hnonempty member (by simp [hparts]))]
  · intro hsize
    have hgroup : members.group connective.separator =
        .text "(" ++ members.join connective.separator ++ .text ")" := if_pos hsize
    rw [hgroup, parts_single (Fragment.nonempty_append_text _)]
    exact ⟨rfl, pieces_join hsealed hnonempty connective⟩

/-!
# Conditions in a session
-/

namespace Session

/-- In any session that a caller can reach, the condition of a query whose plans have plain names
and no templates is cut at AND into the conditions that its fields contribute, and every group in
the tree into its members.  Where no condition begins with a column AND or OR, the other connective
does not stand at the same level. -/
theorem connectives_condition
    {naming : Naming} {operations : List Operation} {query : Query}
    (hplain : ∀ type ∈ operations.flatMap Operation.types ++ query.types,
      type.name ∈ query.types.map QueryType.name -> type.StepsAre naming Step.Plain) :
    let session := reached naming operations
    let plans := (after (condition query) session).planOf
    let result := answer (condition query) session
    piecesOutside " AND " result.sql =
        ((query.contributions plans).flatMap Clauses.parts).map Fragment.sql ∧
      (∀ (connective : Connective) (members contribution : Clauses),
        query.HasGroup plans connective members contribution ->
          Clauses.Grouped connective members contribution) ∧
      ((∀ type ∈ operations.flatMap Operation.types ++ query.types,
          type.name ∈ query.types.map QueryType.name ->
            type.StepsAre naming Step.NoConnective) ->
        ¬ StandsOutside " OR " result.sql ∧
          ∀ (connective : Connective) (members contribution : Clauses),
            query.HasGroup plans connective members contribution ->
              ¬ StandsOutside connective.other.separator
                (members.join connective.separator).sql) := by
  intro session plans result
  have hresult : result = conjunction (query.clausesBy plans) := condition_eq query session
  have hsteps := steps_after_reached hplain
  have hanything : ∀ type ∈ query.types, ∀ planned ∈ (plans type).fields, True :=
    fun _ _ _ _ => trivial
  have hsealed := handsOn_sealed.all_clauses plans query hsteps
  have hnonempty := handsOn_nonempty.all_clauses plans query hanything
  refine ⟨?_, ?_, ?_⟩
  · rw [hresult]
    exact Clauses.pieces_join hsealed hnonempty .and
  · intro connective members contribution hgroup
    rw [hgroup.contribution_eq]
    exact Clauses.grouped_single (handsOn_sealed.all_groupMembers hsteps hgroup)
      (handsOn_nonempty.all_groupMembers hanything hgroup) connective
  · intro hheads
    have hboth : ∀ type ∈ query.types, ∀ planned ∈ (plans type).fields,
        planned.step.Plain ∧ planned.step.NoConnective := by
      intro type htype planned hplanned
      exact ⟨hsteps type htype planned hplanned,
        steps_after_reached hheads type htype planned hplanned⟩
    constructor
    · rw [hresult]
      exact Clauses.not_standsOutside_join hsealed
        (handsOn_clear.all_clauses plans query hboth) .and
    · intro connective members contribution hgroup
      exact Clauses.not_standsOutside_join (handsOn_sealed.all_groupMembers hsteps hgroup)
        (handsOn_clear.all_groupMembers hboth hgroup) connective

def groupedQuery : Query :=
  let either := Query.mk "EitherQuery"
    [.mk ⟨"age_gt", none, .scalar⟩ (.scalar (.int 18)),
      .mk ⟨"nick_start", none, .scalar⟩ (.scalar (.text "a_"))] none
  let entry := Query.mk "EntryQuery"
    [.mk ⟨"tag_in", none, .scalar⟩ (.list [.int 1, .int 2]),
      .mk ⟨"either_or", none, .group .or .ofQuery⟩ (.query either),
      .mk ⟨"active", none, .scalar⟩ .absent] none
  .mk "UserQuery"
    [.mk ⟨"entries_or", none, .group .or .queries⟩ (.queries [entry, either, entry]),
      .mk ⟨"name_and", none, .group .and .values⟩ (.list [.text "x", .text "y"]),
      .mk ⟨"either_and", none, .group .and .ofQuery⟩ (.query either),
      .mk ⟨"score_gt", none, .subquery "select:avg(score),from:t_score"⟩ (.query entry),
      .mk ⟨"perm", none, .path "user->role_id,role,perm"⟩ (.query either)] none

theorem connectives_condition_groupedQuery :
    (∀ type ∈ [].flatMap Operation.types ++ groupedQuery.types,
        type.name ∈ groupedQuery.types.map QueryType.name -> type.StepsAre {} Step.Plain) ∧
      (∀ type ∈ [].flatMap Operation.types ++ groupedQuery.types,
        type.name ∈ groupedQuery.types.map QueryType.name ->
          type.StepsAre {} Step.NoConnective) ∧
      (piecesOutside " AND " (answer (condition groupedQuery) (reached {} [])).sql).length = 5 ∧
      ¬ StandsOutside " OR " (answer (condition groupedQuery) (reached {} [])).sql := by
  have hplain : ∀ type ∈ [].flatMap Operation.types ++ groupedQuery.types,
      type.name ∈ groupedQuery.types.map QueryType.name -> type.StepsAre {} Step.Plain := by
    decide +kernel
  have hheads : ∀ type ∈ [].flatMap Operation.types ++ groupedQuery.types,
      type.name ∈ groupedQuery.types.map QueryType.name ->
        type.StepsAre {} Step.NoConnective := by
    decide +kernel
  have hcondition := connectives_condition hplain
  refine ⟨hplain, hheads, ?_, (hcondition.right.right hheads).left⟩
  rw [hcondition.left]
  decide +kernel

def orColumnQuery : Query :=
  .mk "WordQuery"
    [.mk ⟨"a", none, .scalar⟩ (.scalar (.int 1)),
      .mk ⟨"b", some "OR", .scalar⟩ (.scalar (.int 2))] none

theorem standsOutside_orColumnQuery :
    (∀ type ∈ orColumnQuery.types, type.StepsAre {} Step.Plain) ∧
      (answer (condition orColumnQuery) (reached {} [])).sql = "a = ? AND OR = ?" ∧
      StandsOutside " OR " (answer (condition orColumnQuery) (reached {} [])).sql := by
  have hsql : (answer (condition orColumnQuery) (reached {} [])).sql = "a = ? AND OR = ?" := by
    decide +kernel
  refine ⟨by decide +kernel, hsql, ?_⟩
  rw [hsql]
  exact ⟨"a = ? AND".toList, "= ?".toList, by decide, by decide⟩

end Session
end Criteria
