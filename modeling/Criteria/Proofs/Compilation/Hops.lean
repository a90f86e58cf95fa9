import Mathlib.Data.List.Basic
import Criteria.Proofs.Compilation.Locality
import Criteria.Proofs.Paths.Filters

/-!
# Filters by the number of their stop

The queries that are given for the stops of a path are a map from the numbers of stops to
conditions.  What a path field adds depends on the first query for each stop after the root; other
numbers are reported, and neither later queries for a stop, nor those that make no condition, nor
the order of queries for different stops is seen.
-/

namespace Criteria

/-!
# The first query for a stop
-/

def Query.filter? (naming : Naming) (query : Query) : Option Fragment :=
  (Session.conjunction (Field.clauses naming query.fields)).nonempty?

namespace HopQuery

def entry (hop : HopQuery) : Nat × Query :=
  (hop.index, hop.query)

def given? (hops : List HopQuery) (index : Nat) : Option Query :=
  (hops.map entry).lookup index

def filterFor? (naming : Naming) (hops : List HopQuery) (index : Nat) : Option Fragment :=
  (given? hops index).bind (Query.filter? naming)

def filtersTo (naming : Naming) (hops : List HopQuery) (length : Nat) : Filters :=
  (List.range' 1 length).filterMap fun index =>
    (filterFor? naming hops index).map fun filter => (index, filter)

def SameFilters (naming : Naming) (path : Path) (hops others : List HopQuery) : Prop :=
  ∀ index, 1 ≤ index -> index ≤ path.length ->
    filterFor? naming hops index = filterFor? naming others index

section

variable {naming : Naming} {hops others before after : List HopQuery} {hop : HopQuery} {index : Nat}

theorem given?_append
    (before after : List HopQuery) (index : Nat) :
    given? (before ++ after) index = (given? before index).or (given? after index) := by
  unfold given?
  rw [List.map_append, List.lookup_append]

theorem given?_cons
    (hop : HopQuery) (hops : List HopQuery) (index : Nat) :
    given? (hop :: hops) index =
      if index = hop.index then some hop.query else given? hops index := by
  unfold given?
  rw [List.map_cons]
  by_cases h : index = hop.index
  · rw [if_pos h, h]
    exact List.lookup_cons_self
  · rw [if_neg h, entry, List.lookup_cons, beq_false_of_ne h]

theorem given?_eq_none_iff :
    given? hops index = none ↔ index ∉ hops.map HopQuery.index := by
  unfold given?
  rw [List.lookup_eq_none_iff, List.forall_mem_map, List.mem_map]
  constructor
  · rintro h ⟨hop, hmem, hindex⟩
    exact bne_iff_ne.mp (h hop hmem) hindex.symm
  · intro h hop hmem
    refine bne_iff_ne.mpr ?_
    intro hindex
    exact h ⟨hop, hmem, hindex.symm⟩

theorem given?_of_ne
    (h : index ≠ hop.index)
    (before after : List HopQuery) :
    given? (before ++ hop :: after) index = given? (before ++ after) index := by
  rw [given?_append, given?_append, given?_cons, if_neg h]

theorem given?_of_mem
    (h : hop.index ∈ before.map HopQuery.index)
    (after : List HopQuery) (index : Nat) :
    given? (before ++ hop :: after) index = given? (before ++ after) index := by
  by_cases hindex : index = hop.index
  · rw [← hindex] at h
    rw [given?_append, given?_append]
    cases hbefore : given? before index with
    | none => exact absurd h (given?_eq_none_iff.mp hbefore)
    | some query => rfl
  · exact given?_of_ne hindex before after

theorem given?_without
    (hops : List HopQuery) (removed index : Nat) :
    given? (hops.filter fun hop => hop.index != removed) index =
      if index = removed then none else given? hops index := by
  by_cases h : index = removed
  · rw [if_pos h, given?_eq_none_iff, h]
    simp
  · rw [if_neg h]
    induction hops with
    | nil => rfl
    | cons hop hops ih =>
        by_cases hremoved : hop.index = removed
        · have hother : index ≠ hop.index := by
            rw [hremoved]
            exact h
          rw [List.filter_cons_of_neg (by simp [hremoved]), given?_cons, if_neg hother, ih]
        · rw [List.filter_cons_of_pos (by simp [hremoved]), given?_cons, given?_cons, ih]

theorem given?_swap
    {other : HopQuery}
    (h : hop.index ≠ other.index)
    (before after : List HopQuery) (index : Nat) :
    given? (before ++ other :: hop :: after) index =
      given? (before ++ hop :: other :: after) index := by
  by_cases hindex : index = hop.index
  · have hother : index ≠ other.index := by
      rw [hindex]
      exact h
    rw [given?_of_ne hother, given?_append, given?_append, given?_cons, given?_cons, if_pos hindex,
      if_pos hindex]
  · rw [given?_of_ne hindex, given?_append, given?_append, given?_cons, given?_cons, given?_cons,
      if_neg hindex]

theorem given?_of_perm
    (hperm : hops.Perm others)
    (hindices : (hops.map HopQuery.index).Nodup)
    (index : Nat) :
    given? others index = given? hops index := by
  have hkeys : ((hops.map entry).map Prod.fst).Nodup := by
    rw [List.map_map]
    exact hindices
  exact lookup_of_perm (hperm.map entry) hkeys index

/-!
# What does not change the filters
-/

/-- Changes to the queries for the stops of a path that no condition shows: leaving out a query for
no stop after the root, a query for a stop that has one, or all queries for a stop whose first one
makes no condition; and changing the order of queries for different stops. -/
inductive Unseen (naming : Naming) (path : Path) : List HopQuery -> List HopQuery -> Prop where
  | outside {before after : List HopQuery} {hop : HopQuery} :
      hop.index = 0 ∨ path.length < hop.index ->
        Unseen naming path (before ++ hop :: after) (before ++ after)
  | repeated {before after : List HopQuery} {hop : HopQuery} :
      hop.index ∈ before.map HopQuery.index ->
        Unseen naming path (before ++ hop :: after) (before ++ after)
  | empty {hops : List HopQuery} {index : Nat} :
      filterFor? naming hops index = none ->
        Unseen naming path hops (hops.filter fun hop => hop.index != index)
  | swap {before after : List HopQuery} {hop other : HopQuery} :
      hop.index ≠ other.index ->
        Unseen naming path (before ++ hop :: other :: after) (before ++ other :: hop :: after)
  | order {hops others : List HopQuery} :
      hops.Perm others -> (hops.map HopQuery.index).Nodup -> Unseen naming path hops others

theorem filterFor?_eq
    (h : given? hops index = given? others index)
    (naming : Naming) :
    filterFor? naming hops index = filterFor? naming others index := by
  unfold filterFor?
  rw [h]

theorem Unseen.sameFilters
    {path : Path}
    (h : Unseen naming path hops others) :
    SameFilters naming path hops others := by
  intro index hlow hhigh
  cases h with
  | outside houtside =>
      apply filterFor?_eq
      apply given?_of_ne
      omega
  | repeated hmem => exact filterFor?_eq (given?_of_mem hmem _ index) naming
  | @empty _ removed hnone =>
      by_cases hindex : index = removed
      · unfold filterFor? at hnone ⊢
        rw [given?_without, if_pos hindex, hindex, hnone]
        rfl
      · apply filterFor?_eq
        rw [given?_without, if_neg hindex]
  | swap hne => exact filterFor?_eq (given?_swap hne _ _ index).symm naming
  | order hperm hindices => exact filterFor?_eq (given?_of_perm hperm hindices index).symm naming

theorem filtersTo_eq_of_sameFilters
    {path : Path}
    (h : SameFilters naming path hops others) :
    filtersTo naming hops path.length = filtersTo naming others path.length := by
  apply List.filterMap_congr
  intro index hindex
  rw [List.mem_range'_1] at hindex
  rw [h index hindex.left (by omega)]

/-!
# Filters that are compiled
-/

theorem lookup_filterMap
    (filter? : Nat -> Option Fragment) (indices : List Nat) (index : Nat) :
    (indices.filterMap fun stop => (filter? stop).map fun filter => (stop, filter)).lookup index =
      if index ∈ indices then filter? index else none := by
  induction indices with
  | nil => rfl
  | cons stop indices ih =>
      rw [List.filterMap_cons]
      by_cases hindex : index = stop
      · rw [if_pos (by simp [hindex]), hindex]
        cases hstop : filter? stop with
        | none =>
            simp only [Option.map_none]
            rw [← hindex, ih, hindex, hstop, ite_self]
        | some filter => exact List.lookup_cons_self
      · have hmem : index ∈ stop :: indices ↔ index ∈ indices := by
          simp [hindex]
        rw [if_congr hmem rfl rfl, ← ih]
        cases filter? stop with
        | none => rfl
        | some filter =>
            simp only [Option.map_some]
            rw [List.lookup_cons, beq_false_of_ne hindex]

theorem filterAt?_filtersTo
    {length : Nat}
    (hlow : 1 ≤ index)
    (hhigh : index ≤ length) :
    filterAt? (filtersTo naming hops length) index = filterFor? naming hops index := by
  have hmem : index ∈ List.range' 1 length := by
    rw [List.mem_range'_1]
    omega
  unfold filterAt? filtersTo
  rw [lookup_filterMap, if_pos hmem]
  unfold filterFor?
  cases given? hops index with
  | none => rfl
  | some query => exact Fragment.nonempty?_bind _

theorem filterAt?_filters
    {path : Path}
    (hlow : 1 ≤ index)
    (hhigh : index ≤ path.length) :
    filterAt? (filters (Plan.build naming) path hops) index = filterFor? naming hops index := by
  have hlookup : (filters (Plan.build naming) path hops).lookup index =
      (given? hops index).map fun query =>
        Session.conjunction (Field.clauses naming query.fields) := by
    induction hops with
    | nil => rfl
    | cons hop hops ih =>
        rcases hop with ⟨own, query⟩
        have hclauses : Clauses.concat (query.contributions (Plan.build naming)) =
            Field.clauses naming query.fields := query.clausesBy_build naming
        rw [filters, given?_cons, hclauses]
        show _ = (if index = own then some query else given? hops index).map _
        by_cases hindex : index = own
        · have hinside : ¬(own = 0 ∨ path.length < own) := by
            omega
          rw [if_neg hinside, if_pos hindex, hindex]
          exact List.lookup_cons_self
        · rw [if_neg hindex, ← ih]
          split
          · rfl
          · rw [List.lookup_cons, beq_false_of_ne hindex]
  unfold filterAt? filterFor?
  rw [hlookup, Option.bind_map]
  rfl

theorem compile_filters
    (path : Path) (hops : List HopQuery) :
    path.compile (filters (Plan.build naming) path hops) =
      path.compile (filtersTo naming hops path.length) := by
  apply Path.compile_congr
  intro index hlow hhigh
  rw [filterAt?_filters hlow hhigh, filterAt?_filtersTo hlow hhigh]

end

end HopQuery

/-!
# Path fields
-/

/-- The queries that a content gives for the stops of a path: those of its list, its only query for
the last stop, or none. -/
def Content.hops? (path : Path) : Content -> Option (List HopQuery)
  | .path hops => some hops
  | .query inner => some [.mk path.length inner]
  | .scalar _ => some []
  | _ => none

theorem Content.contribution_path
    {path : Path} {content : Content} {hops : List HopQuery}
    (h : content.hops? path = some hops)
    (naming : Naming) :
    content.contribution (Plan.build naming) (.path path) =
      .single (path.compile (HopQuery.filtersTo naming hops path.length)) := by
  rw [← HopQuery.compile_filters]
  cases content with
  | path given =>
      cases h
      rfl
  | query query =>
      cases h
      have hinside : ¬(path.length = 0 ∨ path.length < path.length) := by
        have hlength : path.length = path.rest.length + 1 := rfl
        omega
      rw [HopQuery.filters, if_neg hinside]
      rfl
  | scalar value =>
      cases h
      rfl
  | absent => cases h
  | list values => cases h
  | queries queries => cases h

namespace Field

variable {naming : Naming}

theorem planned_of_path
    {type : FieldType} {raw : String} {path : Path}
    (hkind : type.kind = .path raw)
    (hparse : Path.parse naming raw = .ok path) :
    Step.planned naming type = .path path := by
  unfold Step.planned Step.ofField
  rw [hkind]
  dsimp only
  rw [hparse]
  rfl

theorem contribution_of_path
    {type : FieldType} {raw : String} {path : Path} {content : Content} {hops : List HopQuery}
    (hkind : type.kind = .path raw)
    (hparse : Path.parse naming raw = .ok path)
    (hhops : content.hops? path = some hops) :
    (Field.mk type content).contribution naming =
      .single (path.compile (HopQuery.filtersTo naming hops path.length)) := by
  have hplanned := planned_of_path hkind hparse
  show content.contribution (Plan.build naming) (Step.planned naming type) = _
  rw [hplanned, Content.contribution_path hhops]

inductive Refilters (naming : Naming) : Field -> List Field -> Prop where
  | mk {type : FieldType} {raw : String} {path : Path} {content other : Content}
      {hops others : List HopQuery} :
      type.kind = .path raw -> Path.parse naming raw = .ok path ->
        content.hops? path = some hops -> other.hops? path = some others ->
          HopQuery.SameFilters naming path hops others ->
            Refilters naming (.mk type content) [.mk type other]

theorem preserves_refilters
    (naming : Naming) :
    Preserves naming (Refilters naming) := by
  intro field parts h
  cases h with
  | mk hkind hparse hhops hothers hsame =>
      rw [clauses_cons, contribution_of_path hkind hparse hothers,
        contribution_of_path hkind hparse hhops, HopQuery.filtersTo_eq_of_sameFilters hsame]
      exact Clauses.append_empty _

end Field

/-!
# Reports on other numbers
-/

def HopQuery.isOutside (path : Path) (hop : HopQuery) : Bool :=
  decide (hop.index = 0 ∨ path.length < hop.index)

def HopQuery.ignored (typeName field : String) (path : Path) (hops : List HopQuery) : List Event :=
  (hops.filter (isOutside path)).map fun hop => .hopIgnored typeName field hop.index path.raw

namespace Act

def ignored? : Act -> Option Event
  | .ignoreHop typeName field index path => some (.hopIgnored typeName field index path)
  | _ => none

end Act

namespace Session

theorem log_performAll
    (session : Session) (acts : List Act) :
    ∃ news, (session.performAll acts).log = session.log ++ news ∧
      (acts.filterMap Act.ignored?).Sublist news := by
  induction acts generalizing session with
  | nil => exact ⟨[], (List.append_nil _).symm, .slnil⟩
  | cons act acts ih =>
      rcases ih (session.perform act) with ⟨news, hlog, hsublist⟩
      refine ⟨session.news act ++ news, ?_, ?_⟩
      · show ((session.perform act).performAll acts).log = _
        rw [hlog, log_perform, List.append_assoc]
      · have hhere : ([act].filterMap Act.ignored?).Sublist (session.news act) := by
          cases act with
          | ignoreHop typeName field index path => exact List.Sublist.refl _
          | plan type => exact List.nil_sublist _
          | layout entity => exact List.nil_sublist _
          | misfit typeName field => exact List.nil_sublist _
          | dropKeys faults => exact List.nil_sublist _
        rw [← List.singleton_append, List.filterMap_append]
        exact hhere.append hsublist

end Session

theorem HopQuery.ignored_sublist_acts
    (naming : Naming) (typeName field : String) (path : Path) (hops : List HopQuery) :
    (ignored typeName field path hops).Sublist
      ((HopQuery.acts naming typeName field path hops).filterMap Act.ignored?) := by
  induction hops with
  | nil => exact .slnil
  | cons hop hops ih =>
      rcases hop with ⟨index, query⟩
      have houtside : isOutside path (.mk index query) = true ↔
          index = 0 ∨ path.length < index :=
        decide_eq_true_iff
      unfold ignored at ih ⊢
      rw [HopQuery.acts]
      by_cases hindex : index = 0 ∨ path.length < index
      · rw [if_pos hindex, List.filter_cons_of_pos (houtside.mpr hindex)]
        exact ih.cons_cons (.hopIgnored typeName field index path.raw)
      · rw [if_neg hindex, List.filter_cons_of_neg (fun h => hindex (houtside.mp h)),
          List.filterMap_append]
        exact ih.trans (List.sublist_append_right _ _)

theorem Content.ignored_sublist_acts
    {path : Path} {content : Content} {hops : List HopQuery}
    (h : content.hops? path = some hops)
    (naming : Naming) (typeName field : String) :
    (HopQuery.ignored typeName field path hops).Sublist
      ((content.acts naming typeName field (.path path)).filterMap Act.ignored?) := by
  cases content with
  | path given =>
      cases h
      exact HopQuery.ignored_sublist_acts naming typeName field path hops
  | query query =>
      cases h
      have hinside : HopQuery.isOutside path (.mk path.length query) = false := by
        have hlength : path.length = path.rest.length + 1 := rfl
        simp [HopQuery.isOutside, HopQuery.index, hlength]
      unfold HopQuery.ignored
      rw [List.filter_cons_of_neg (by simp [hinside])]
      exact List.nil_sublist _
  | scalar value =>
      cases h
      exact List.nil_sublist _
  | absent => cases h
  | list values => cases h
  | queries queries => cases h

theorem Field.acts_planned
    (naming : Naming) (typeName : String) (fields : List Field) :
    acts naming typeName
        ((fields.map type).map fun field => ⟨field.name, Step.planned naming field⟩) fields =
      fields.flatMap fun field =>
        field.content.acts naming typeName field.type.name (Step.planned naming field.type) := by
  induction fields with
  | nil => rfl
  | cons field fields ih =>
      rcases field with ⟨type, content⟩
      rw [List.map_cons, List.map_cons, acts, ih, List.flatMap_cons]
      rfl

theorem Query.content_acts_sublist
    {query : Query} {type : FieldType} {content : Content}
    (h : .mk type content ∈ query.fields)
    (naming : Naming) :
    (content.acts naming query.typeName type.name (Step.planned naming type)).Sublist
      (query.acts naming) := by
  rcases query with ⟨typeName, fields, page⟩
  rcases List.append_of_mem h with ⟨before, after, hfields⟩
  have hfields' : fields = before ++ .mk type content :: after := hfields
  rw [Query.acts, Plan.fields_build, Field.acts_planned, hfields', List.flatMap_append,
    List.flatMap_cons]
  refine List.Sublist.cons _ ?_
  exact (List.sublist_append_left _ _).trans (List.sublist_append_right _ _)

namespace Session

variable {naming : Naming} {operations : List Operation} {query : Query}

theorem log_clauses_reached
    {type : FieldType} {raw : String} {path : Path} {content : Content} {hops : List HopQuery}
    (hkind : type.kind = .path raw)
    (hparse : Path.parse naming raw = .ok path)
    (hhops : content.hops? path = some hops)
    (hfield : .mk type content ∈ query.fields)
    (huniform : Shelf.plans.Uniform (operations.flatMap Operation.types ++ query.types)) :
    ∃ news, (after (clauses query) (reached naming operations)).log =
        (reached naming operations).log ++ news ∧
      (HopQuery.ignored query.typeName type.name path hops).Sublist news := by
  have hperforms := performs_clauses naming query
  rw [hperforms.after_eq (follows_reached huniform)]
  rcases log_performAll (reached naming operations) (query.acts naming) with
    ⟨news, hlog, hsublist⟩
  have hacts := (query.content_acts_sublist hfield naming).filterMap Act.ignored?
  rw [Field.planned_of_path hkind hparse] at hacts
  have hignored := Content.ignored_sublist_acts hhops naming query.typeName type.name
  exact ⟨news, hlog, (hignored.trans hacts).trans hsublist⟩

/-- What a path field adds is the condition of its path with one filter for each stop after the
root, the first that is given for it; other numbers are reported. -/
theorem hop_filters_by_stop
    {type : FieldType} {raw : String} {path : Path} {content : Content} {hops : List HopQuery}
    {typeName : String} {before after : List Field} {page : Option PageRequest}
    (hkind : type.kind = .path raw)
    (hparse : Path.parse naming raw = .ok path)
    (hhops : content.hops? path = some hops)
    (hquery : query = .mk typeName (before ++ .mk type content :: after) page)
    (huniform : Shelf.plans.Uniform (operations.flatMap Operation.types ++ query.types)) :
    answer (clauses query) (reached naming operations) =
        Field.clauses naming before ++
          .single (path.compile (HopQuery.filtersTo naming hops path.length)) ++
            Field.clauses naming after ∧
      (∃ news, (Session.after (clauses query) (reached naming operations)).log =
          (reached naming operations).log ++ news ∧
        (HopQuery.ignored typeName type.name path hops).Sublist news) ∧
      (∀ others : List HopQuery, HopQuery.SameFilters naming path hops others ->
        path.compile (HopQuery.filtersTo naming others path.length) =
          path.compile (HopQuery.filtersTo naming hops path.length)) ∧
      (∀ given others : List HopQuery, HopQuery.Unseen naming path given others ->
        HopQuery.SameFilters naming path given others) ∧
      (∀ inner : Query, (Field.mk type (.query inner)).contribution naming =
        (Field.mk type (.path [.mk path.length inner])).contribution naming) ∧
      (∀ value : Value, (Field.mk type (.scalar value)).contribution naming =
        (Field.mk type (.path [])).contribution naming) ∧
      ∀ (others : List Operation) (other : Query),
        query.Recasts (Field.Refilters naming) other ->
          Shelf.plans.Uniform (others.flatMap Operation.types ++ other.types) ->
            answer (condition other) (reached naming others) =
              answer (condition query) (reached naming operations) := by
  have hfield : .mk type content ∈ query.fields := by
    rw [hquery]
    exact List.mem_append_right before List.mem_cons_self
  have hcontribution : ∀ (content : Content) (hops : List HopQuery),
      content.hops? path = some hops -> (Field.mk type content).contribution naming =
        .single (path.compile (HopQuery.filtersTo naming hops path.length)) :=
    fun _ _ hgiven => Field.contribution_of_path hkind hparse hgiven
  refine ⟨?_, ?_, ?_, ?_, ?_, ?_, ?_⟩
  · rw [clauses_reached huniform, hquery]
    show Field.clauses naming (before ++ .mk type content :: after) = _
    rw [Field.clauses_append, Field.clauses_cons, hcontribution content hops hhops]
    exact (Clauses.append_assoc _ _ _).symm
  · have hlog := log_clauses_reached hkind hparse hhops hfield huniform
    rw [hquery] at hlog ⊢
    exact hlog
  · intro others hsame
    rw [HopQuery.filtersTo_eq_of_sameFilters hsame]
  · intro given others hunseen
    exact hunseen.sameFilters
  · intro inner
    rw [hcontribution (.query inner) _ rfl, hcontribution (.path _) _ rfl]
  · intro value
    rw [hcontribution (.scalar value) _ rfl, hcontribution (.path _) _ rfl]
  · intro others other hrecasts hothers
    exact condition_eq_of_recasts (Field.preserves_refilters naming) huniform hrecasts hothers

def cityPath : Path :=
  ⟨"member,team,city", ⟨"member", "t_member"⟩,
    ⟨.bridge "member_id" "team_id" "a_member_and_team", ⟨"team", "t_team"⟩⟩,
    [⟨.bridge "team_id" "city_id" "a_team_and_city", ⟨"city", "t_city"⟩⟩]⟩

def cityType : FieldType :=
  ⟨"city", none, .path "member,team,city"⟩

def namedQuery (name : Option String) : Query :=
  .mk "NamedQuery" [.mk ⟨"name", none, .scalar⟩ (.ofScalar name)] none

def cityHops : List HopQuery :=
  [.mk 3 (namedQuery (some "a")), .mk 2 (namedQuery (some "b")), .mk 1 (namedQuery none),
    .mk 0 (namedQuery (some "c")), .mk 2 (namedQuery (some "d"))]

def cityQuery (hops : List HopQuery) : Query :=
  .mk "MemberQuery"
    ([.mk ⟨"id_gt", none, .scalar⟩ (.scalar (.int 5))] ++ .mk cityType (.path hops) :: []) none

theorem hop_filters_by_stop_cityQuery :
    let query := cityQuery cityHops
    let other := cityQuery [.mk 2 (namedQuery (some "b"))]
    Path.parse {} "member,team,city" = .ok cityPath ∧
      Shelf.plans.Uniform (([] : List Operation).flatMap Operation.types ++ query.types) ∧
        answer (condition other) (reached {} []) = answer (condition query) (reached {} []) ∧
          answer (condition query) (reached {} []) =
            ⟨"id > ? AND id IN (SELECT member_id FROM a_member_and_team WHERE team_id IN " ++
              "(SELECT team_id FROM a_team_and_city WHERE city_id IN " ++
                "(SELECT id FROM t_city WHERE name = ?)))", [.int 5, .text "b"]⟩ := by
  intro query other
  have hparse : Path.parse {} "member,team,city" = .ok cityPath := by
    decide +kernel
  have huniform : Shelf.plans.Uniform
      (([] : List Operation).flatMap Operation.types ++ query.types) := by
    unfold Shelf.Uniform
    decide +kernel
  have hothers : Shelf.plans.Uniform
      (([] : List Operation).flatMap Operation.types ++ other.types) := by
    unfold Shelf.Uniform
    decide +kernel
  have hsame : HopQuery.SameFilters {} cityPath cityHops [.mk 2 (namedQuery (some "b"))] := by
    intro index hlow hhigh
    have hindex : index = 1 ∨ index = 2 := by
      have hlength : cityPath.length = 2 := rfl
      omega
    rcases hindex with rfl | rfl
    · decide +kernel
    · decide +kernel
  have hhops : Content.Recasts (Field.Refilters {}) (.path [.mk 2 (namedQuery (some "b"))])
      (.path [.mk 2 (namedQuery (some "b"))]) :=
    .path (.cons (.mk (.keep (.scalar _) .nil)) .nil)
  have hrecasts : query.Recasts (Field.Refilters {}) other :=
    .mk (.keep (.scalar _) (.replace (.mk rfl hparse rfl rfl hsame) (.keep hhops .nil)))
  have hkind : cityType.kind = .path "member,team,city" := rfl
  have hquery : query = .mk "MemberQuery"
      ([.mk ⟨"id_gt", none, .scalar⟩ (.scalar (.int 5))] ++ .mk cityType (.path cityHops) :: [])
      none := rfl
  have h := hop_filters_by_stop hkind hparse rfl hquery huniform
  exact ⟨hparse, huniform, h.right.right.right.right.right.right [] other hrecasts hothers,
    by decide +kernel⟩

end Session

end Criteria
