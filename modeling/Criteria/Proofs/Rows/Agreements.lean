import Criteria.Proofs.Compilation.Shelves
import Criteria.Proofs.Rows.Statements

/-!
# Statements that agree

An insertion, an update and the statements on a query are each written in two ways: from the texts
that a layout holds, and piece by piece.  Both ways give one text.  A patch of all columns is the
update, patches by identity and by query assign the same columns, and all statements on a query have
its condition, in this session and in those that later operations lead to.
-/

namespace Criteria

open Text

/-!
# Groups of values
-/

theorem joinWith_replicate
    (separator piece : String) (count : Nat) :
    joinWith separator (List.replicate (count + 1) piece) =
      piece ++ String.join (List.replicate count (separator ++ piece)) := by
  induction count with
  | zero => simp [joinWith]
  | succ count ih =>
      have hcopies : List.replicate (count + 1 + 1) piece =
          piece :: piece :: List.replicate count piece := rfl
      have hrest : piece :: List.replicate count piece = List.replicate (count + 1) piece := rfl
      rw [hcopies, joinWith, hrest, ih, List.replicate_succ, String.join_cons]
      simp only [String.append_assoc]

namespace Layout

theorem length_withoutIdentity
    {α β : Type} {xs : List α} {ys : List β}
    (layout : Layout)
    (h : xs.length = ys.length) :
    (layout.withoutIdentity xs).length = (layout.withoutIdentity ys).length := by
  unfold withoutIdentity
  cases layout.identityIndex with
  | none => exact h
  | some index => simp only [List.length_eraseIdx, h]

end Layout

namespace Statement

variable {layout : Layout} {row : Row} {rows : List Row}

def FitsLayout (layout : Layout) (row : Row) : Prop :=
  row.values.length = layout.columns.length

theorem FitsLayout.length_values
    (h : FitsLayout layout row) :
    (layout.withoutIdentity row.values).length = layout.insertColumns.length :=
  layout.length_withoutIdentity h

theorem markGroup_of_fits
    (h : FitsLayout layout row) :
    Fragment.markGroup (layout.withoutIdentity row.values).length = layout.markGroup := by
  rw [h.length_values]
  rfl

theorem rowGroups_join
    (h : ∀ row ∈ rows, FitsLayout layout row) :
    (rowGroups layout rows).join ", " =
      ⟨joinWith ", " (List.replicate rows.length layout.markGroup),
        rows.flatMap fun row => layout.withoutIdentity row.values⟩ := by
  have htexts : rows.map (fun row =>
      Fragment.markGroup (layout.withoutIdentity row.values).length) =
        List.replicate rows.length layout.markGroup := by
    rw [List.map_congr_left fun row hrow => markGroup_of_fits (h row hrow), List.map_const']
  unfold rowGroups Clauses.join
  rw [← htexts, List.map_map, List.flatMap_map]
  rfl

/-!
# Columns that are set
-/

theorem values_assigned
    (h : FitsLayout layout row) :
    (assigned layout row).map Prod.snd =
      (layout.withoutIdentity row.values).filter fun value => !value.isNull := by
  have hvalues : (layout.insertColumns.zip (layout.withoutIdentity row.values)).map Prod.snd =
      layout.withoutIdentity row.values :=
    List.map_snd_zip (Nat.le_of_eq h.length_values)
  have hfilter := List.filter_map (f := Prod.snd) (p := fun value : Value => !value.isNull)
    (l := layout.insertColumns.zip (layout.withoutIdentity row.values))
  rw [hvalues] at hfilter
  exact hfilter.symm

theorem assigned_eq_nil_iff
    (h : FitsLayout layout row) :
    assigned layout row = [] ↔ ∀ value ∈ layout.withoutIdentity row.values, value = .null := by
  rw [← List.map_eq_nil_iff (f := Prod.snd), values_assigned h, List.filter_eq_nil_iff]
  simp only [Bool.not_eq_true', Bool.not_eq_false, Value.isNull_iff]

theorem values_assigned_eq_iff
    (h : FitsLayout layout row) :
    (assigned layout row).map Prod.snd = layout.withoutIdentity row.values ↔
      .null ∉ layout.withoutIdentity row.values := by
  rw [values_assigned h, List.filter_eq_self]
  constructor
  · intro hset hnull
    have hnotNull := hset .null hnull
    cases hnotNull
  · intro hnull value hvalue
    cases hisNull : value.isNull with
    | false => rfl
    | true =>
        rw [Value.isNull_iff.mp hisNull] at hvalue
        exact absurd hvalue hnull

theorem columns_assigned
    (h : FitsLayout layout row)
    (hall : (assigned layout row).map Prod.snd = layout.withoutIdentity row.values) :
    (assigned layout row).map Prod.fst = layout.insertColumns := by
  let pairs := layout.insertColumns.zip (layout.withoutIdentity row.values)
  have hlength : (assigned layout row).length = pairs.length := by
    rw [← List.length_map (f := Prod.snd), hall, List.length_zip, h.length_values, Nat.min_self]
  have hpairs : assigned layout row = pairs :=
    List.filter_sublist.eq_of_length hlength
  rw [hpairs]
  exact List.map_fst_zip (Nat.le_of_eq h.length_values.symm)

theorem assignment?_eq_none_iff
    (h : FitsLayout layout row) :
    assignment? layout row = none ↔
      ∀ value ∈ layout.withoutIdentity row.values, value = .null := by
  rw [assignment?_eq, ← assigned_eq_nil_iff h]
  split
  next hnil => exact iff_of_true rfl hnil
  next hset => exact iff_of_false (Option.some_ne_none _) hset

theorem patch_eq_update_iff
    (h : FitsLayout layout row) :
    (assignment? layout row).map (fun fragment => fragment ++ ⟨layout.byId, [row.id]⟩) =
        some ⟨layout.updateSql, layout.withoutIdentity row.values ++ [row.id]⟩ ↔
      layout.insertColumns ≠ [] ∧ .null ∉ layout.withoutIdentity row.values := by
  rw [assignment?_eq, ← values_assigned_eq_iff h]
  constructor
  · intro hpatch
    split at hpatch
    next => cases hpatch
    next hset =>
        have hargs := congrArg Fragment.args (Option.some.inj hpatch)
        have hall := List.append_cancel_right hargs
        refine ⟨?_, hall⟩
        intro hnone
        have hcolumns := columns_assigned h hall
        rw [hnone, List.map_eq_nil_iff] at hcolumns
        exact hset hcolumns
  · rintro ⟨hcolumns, hall⟩
    have hset := columns_assigned h hall
    have hnotNil : assigned layout row ≠ [] := by
      intro hnil
      rw [hnil] at hset
      exact hcolumns hset.symm
    rw [if_neg hnotNil, hset, hall]
    rfl

end Statement

namespace Session

variable {entity : Entity} {row : Row} {rows : List Row} {query : Query}
variable {session later : Session}

/-!
# Insertions of several rows
-/

theorem insertAll_of_fits
    (hrows : ∀ row ∈ rows, Statement.FitsLayout (session.layoutOf entity) row)
    (hsome : rows ≠ []) :
    answer (Statement.insertAll entity rows) session =
      some ⟨(session.layoutOf entity).insertSql ++
          String.join (List.replicate (rows.length - 1)
            (", " ++ (session.layoutOf entity).markGroup)),
        rows.flatMap fun row => (answer (Statement.insert entity row) session).args⟩ := by
  rcases Nat.exists_eq_add_one_of_ne_zero (mt List.length_eq_zero_iff.mp hsome) with
    ⟨count, hcount⟩
  simp only [answer_insert]
  rw [answer_insertAll, if_neg hsome, Statement.rowGroups_join hrows, hcount, joinWith_replicate,
    Layout.insertSql, String.append_assoc]
  rfl

theorem insertAll_singleton
    (hrow : Statement.FitsLayout (session.layoutOf entity) row) :
    answer (Statement.insertAll entity [row]) session =
      some (answer (Statement.insert entity row) session) := by
  have hone : ∀ other ∈ [row], Statement.FitsLayout (session.layoutOf entity) other := by
    intro other hother
    rwa [List.mem_singleton.mp hother]
  rw [insertAll_of_fits hone (List.cons_ne_nil row []), answer_insert, List.flatMap_singleton,
    answer_insert]
  have hnone : String.join (List.replicate ([row].length - 1)
      (", " ++ (session.layoutOf entity).markGroup)) = "" := rfl
  rw [hnone, String.append_empty]

/-!
# Conditions and layouts that stay
-/

theorem samePlans_after_layout
    (entity : Entity) (session : Session) :
    SamePlans session (after (layout entity) session) :=
  ⟨(grows_layout [] entity session).naming, plans_after_layout entity session⟩

theorem condition_after_layout
    (entity : Entity) (query : Query) (session : Session) :
    answer (condition query) (after (layout entity) session) =
      answer (condition query) session :=
  (computes_condition query).answers (samePlans_after_layout entity session)

theorem condition_of_grows
    {types : List QueryType}
    (h : Grows types (after (condition query) session) later) :
    answer (condition query) later = answer (condition query) session := by
  have hlater := grows_condition query later
  have hgrows : Grows (types ++ query.types) (after (condition query) session)
      (after (condition query) later) :=
    (h.mono (List.subset_append_left _ _)).trans
      (hlater.mono (List.subset_append_right _ _))
  rw [condition_eq, (computes_condition query).agrees hgrows]

def Compiles (session : Session) (query : Query) : Operation -> Prop
  | .condition other | .select _ other | .count _ other | .delete _ other => other = query
  | .patchWhere entity row other =>
      other = query ∧ Statement.assigned (session.layoutOf entity) row ≠ []
  | _ => False

theorem grows_of_compiles
    {operation : Operation}
    (h : session.Compiles query operation) :
    ∃ before, SamePlans session before ∧
      Grows [] (after (condition query) before) (after operation.run session) := by
  have hordered : ∀ before, Grows [] before (after (orderBy query) before) :=
    keeps_orderBy (Grows.composes []) (fun events => (Computes.report [] events).grows) query
  cases operation with
  | condition other =>
      cases h
      exact ⟨session, ⟨rfl, rfl⟩, .refl [] _⟩
  | select entity other =>
      cases h
      exact ⟨after (layout entity) session, samePlans_after_layout entity session, hordered _⟩
  | count entity other =>
      cases h
      exact ⟨after (layout entity) session, samePlans_after_layout entity session, .refl [] _⟩
  | delete entity other =>
      cases h
      exact ⟨after (layout entity) session, samePlans_after_layout entity session, .refl [] _⟩
  | patchWhere entity row other =>
      rcases h with ⟨hquery, hset⟩
      cases hquery
      refine ⟨after (layout entity) session, samePlans_after_layout entity session, ?_⟩
      show Grows [] _ (after (Statement.patchWhere entity row query) session)
      unfold Statement.patchWhere
      rw [after_bind, answer_layout, Statement.assignment?_eq, if_neg hset]
      exact .refl [] _
  | _ => cases h

theorem condition_of_compiles
    {operation : Operation}
    (h : session.Compiles query operation)
    (others : List Operation) :
    answer (condition query) (after (Operation.runAll (operation :: others)) session) =
      answer (condition query) session := by
  rcases grows_of_compiles h with ⟨before, hsame, hgrows⟩
  rw [← (computes_condition query).answers hsame]
  exact condition_of_grows ((hgrows.mono (List.nil_subset _)).trans
    (grows_runAll others (after operation.run session)))

structure KeepsLayout (entity : Entity) (before after : Session) : Prop where
  naming : after.naming = before.naming
  layout : after.layoutOf entity = before.layoutOf entity

theorem KeepsLayout.composes
    (entity : Entity) :
    Composes (KeepsLayout entity) := by
  constructor
  · intro session
    exact ⟨rfl, rfl⟩
  · intro first second third h h'
    exact ⟨h'.naming.trans h.naming, h'.layout.trans h.layout⟩

theorem KeepsLayout.of_layouts_eq
    {before after : Session}
    (hnaming : after.naming = before.naming)
    (hlayouts : after.layouts = before.layouts) :
    KeepsLayout entity before after := by
  refine ⟨hnaming, ?_⟩
  unfold layoutOf
  rw [hnaming, hlayouts]

theorem keepsLayout_computed
    {α : Type} {run : Run α} {types : List QueryType} {value : Planning -> α}
    (entity : Entity)
    (h : Computes run types value) :
    Keeps (KeepsLayout entity) run :=
  fun session => .of_layouts_eq (h.grows session).naming (h.layouts session)

theorem keepsLayout_layout
    {other : Entity}
    (h : other.typeName = entity.typeName -> other = entity) :
    Keeps (KeepsLayout entity) (layout other) := by
  intro session
  have hnaming := (samePlans_after_layout other session).naming
  refine ⟨hnaming, ?_⟩
  unfold layoutOf
  rw [hnaming, layouts_after_layout, Catalog.find?_install]
  by_cases hname : entity.typeName = other.typeName
  · rw [if_pos hname, h hname.symm]
    cases session.layouts.find? entity.typeName <;> rfl
  · rw [if_neg hname, Option.or_none]

theorem keepsLayout_runAll
    {others : List Operation}
    (h : ∀ other ∈ others.flatMap Operation.entities,
      other.typeName = entity.typeName -> other = entity) :
    Keeps (KeepsLayout entity) (Operation.runAll others) := by
  have hcomposes := KeepsLayout.composes entity
  refine keeps_runAll hcomposes ?_
  intro operation hoperation
  refine keeps_run hcomposes ?_ ?_ ?_ ?_
  · intro type _
    exact keepsLayout_computed entity (computes_plan type)
  · intro other hother
    exact keepsLayout_layout (h other (List.mem_flatMap.mpr ⟨operation, hoperation, hother⟩))
  · intro query _
    exact keepsLayout_computed entity (computes_condition query)
  · exact keeps_orderBy hcomposes fun events => keepsLayout_computed entity (.report [] events)

/-!
# Statements on a query
-/

theorem orderBy_of_naming
    (query : Query)
    (h : later.naming = session.naming) :
    answer (orderBy query) later = answer (orderBy query) session := by
  unfold orderBy
  cases query.page.bind PageRequest.sort with
  | none => rfl
  | some sort =>
      show RowOrder.render _ later.naming = RowOrder.render _ session.naming
      rw [h]

theorem answer_select
    (entity : Entity) (query : Query) (session : Session) :
    answer (Statement.select entity query) session =
      .text (session.layoutOf entity).selectHead ++ (answer (condition query) session).asWhere ++
        .text (answer (orderBy query) session ++ window query) := by
  have hlaid := (samePlans_after_layout entity session).naming
  have hcompiled := (grows_condition query (after (layout entity) session)).naming
  rw [← answer_layout, ← condition_after_layout entity,
    ← orderBy_of_naming query (hcompiled.trans hlaid)]
  rfl

theorem answer_count
    (entity : Entity) (query : Query) (session : Session) :
    answer (Statement.count entity query) session =
      .text ("SELECT count(*) FROM " ++ (session.layoutOf entity).table) ++
        (answer (condition query) session).asWhere := by
  rw [← answer_layout, ← condition_after_layout entity]
  rfl

theorem answer_delete
    (entity : Entity) (query : Query) (session : Session) :
    answer (Statement.delete entity query) session =
      .text (session.layoutOf entity).deleteHead ++
        (answer (condition query) session).asWhere := by
  rw [← answer_layout, ← condition_after_layout entity]
  rfl

/-!
# Agreement
-/

/-- In any session, an insertion of several rows extends that of one row, a patch is the update if
it sets all columns, and both patches set the same columns.  The statements on a query have one
condition after different heads.  The condition is the same in any later session once one of them
has compiled it, and so is the layout if no other entity has the type name. -/
theorem statements_agree
    (query : Query)
    (hrow : Statement.FitsLayout (session.layoutOf entity) row)
    (hrows : ∀ other ∈ rows, Statement.FitsLayout (session.layoutOf entity) other) :
    let layout := session.layoutOf entity
    let values := layout.withoutIdentity row.values
    let filter := (answer (condition query) session).asWhere
    (answer (Statement.insertAll entity [row]) session =
          some (answer (Statement.insert entity row) session) ∧
        (rows ≠ [] ->
          answer (Statement.insertAll entity rows) session =
            some ⟨layout.insertSql ++
                String.join (List.replicate (rows.length - 1) (", " ++ layout.markGroup)),
              rows.flatMap fun other =>
                (answer (Statement.insert entity other) session).args⟩)) ∧
      ((answer (Statement.patch entity row) session =
            some (answer (Statement.update entity row) session) ↔
          layout.insertColumns ≠ [] ∧ .null ∉ values) ∧
        (answer (Statement.patch entity row) session = none ↔
          ∀ value ∈ values, value = .null)) ∧
      ((answer (Statement.patchWhere entity row query) session = none ↔
          answer (Statement.patch entity row) session = none) ∧
        ∀ patch ∈ answer (Statement.patch entity row) session,
          ∃ (columns : List String) (args : List Value),
            patch = ⟨layout.updateHead columns, args⟩ ++ ⟨layout.byId, [row.id]⟩ ∧
              answer (Statement.patchWhere entity row query) session =
                some (⟨layout.updateHead columns, args⟩ ++ filter)) ∧
      (answer (Statement.select entity query) session =
          .text layout.selectHead ++ filter ++
            .text (answer (orderBy query) session ++ window query) ∧
        answer (Statement.count entity query) session =
          .text ("SELECT count(*) FROM " ++ layout.table) ++ filter ∧
        answer (Statement.delete entity query) session = .text layout.deleteHead ++ filter) ∧
      (∀ operation, session.Compiles query operation -> ∀ others : List Operation,
        answer (condition query) (after (Operation.runAll (operation :: others)) session) =
          answer (condition query) session) ∧
      ∀ others : List Operation,
        (∀ other ∈ others.flatMap Operation.entities,
          other.typeName = entity.typeName -> other = entity) ->
        (after (Operation.runAll others) session).layoutOf entity = layout := by
  intro layout values filter
  have hpatchWhere : answer (Statement.patchWhere entity row query) session =
      (Statement.assignment? layout row).map fun fragment => fragment ++ filter := by
    rw [answer_patchWhere, condition_after_layout]
  refine ⟨⟨?_, insertAll_of_fits hrows⟩, ⟨?_, ?_⟩, ⟨?_, ?_⟩,
    ⟨answer_select entity query session, answer_count entity query session,
      answer_delete entity query session⟩, ?_, ?_⟩
  · exact insertAll_singleton hrow
  · rw [answer_patch, answer_update]
    exact Statement.patch_eq_update_iff hrow
  · rw [answer_patch, Option.map_eq_none_iff]
    exact Statement.assignment?_eq_none_iff hrow
  · rw [hpatchWhere, answer_patch, Option.map_eq_none_iff, Option.map_eq_none_iff]
  · intro patch hpatch
    rw [answer_patch] at hpatch
    rcases Option.map_eq_some_iff.mp hpatch with ⟨fragment, hfragment, hpatched⟩
    have hset := hfragment
    rw [Statement.assignment?_eq] at hset
    split at hset
    · cases hset
    · cases hset
      refine ⟨_, _, hpatched.symm, ?_⟩
      rw [hpatchWhere, hfragment]
      rfl
  · intro operation hcompiles others
    exact condition_of_compiles hcompiles others
  · intro others hnames
    exact (keepsLayout_runAll hnames session).layout

theorem statements_agree_account :
    let session := reached {} earlierOperations
    let layout := session.layoutOf account
    Statement.FitsLayout layout accountRow ∧
      (∀ other ∈ [accountRow, otherAccountRow], Statement.FitsLayout layout other) ∧
      answer (Statement.insertAll account [accountRow, otherAccountRow]) session =
        some ⟨"INSERT INTO t_account (name, realm_name, serial, score) " ++
            "VALUES (?, ?, ?, ?), (?, ?, ?, ?)",
          [.text "a", .text "r", .null, .int 5, .null, .text "s", .int 2, .null]⟩ ∧
      answer (Statement.patch account accountRow) session ≠
        some (answer (Statement.update account accountRow) session) := by
  intro session layout
  have hrow : Statement.FitsLayout layout accountRow := by
    unfold Statement.FitsLayout
    decide +kernel
  have hrows : ∀ other ∈ [accountRow, otherAccountRow], Statement.FitsLayout layout other := by
    unfold Statement.FitsLayout
    decide +kernel
  rcases statements_agree realmQuery hrow hrows with
    ⟨⟨_, hinsert⟩, ⟨hpatch, _⟩, _⟩
  refine ⟨hrow, hrows, ?_, ?_⟩
  · rw [hinsert (List.cons_ne_nil _ _)]
    decide +kernel
  · rw [ne_eq, hpatch]
    decide +kernel

end Session

end Criteria
