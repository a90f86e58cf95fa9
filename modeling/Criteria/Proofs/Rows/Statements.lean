import Criteria.Proofs.Placeholders.Conditions
import Criteria.Proofs.Rows.Pairs

/-!
# Statements that write rows

Insertions, updates and patches pair each column with its own value, and have one argument for each
placeholder.
-/

namespace Criteria

open Text

/-!
# Texts on pairs
-/

namespace Entity

def insertion (naming : Naming) (entity : Entity) (rows : List Row) : Fragment :=
  { sql := "INSERT INTO " ++ entity.table naming ++ " (" ++
      joinWith ", " (entity.writtenColumns naming) ++ ") VALUES " ++
        joinWith ", " (rows.map fun row => Fragment.markGroup (entity.pairs naming row).length)
    args := rows.flatMap fun row => (entity.pairs naming row).map Prod.snd }

def assignment (naming : Naming) (entity : Entity) (pairs : List (String × Value)) : Fragment :=
  { sql := "UPDATE " ++ entity.table naming ++ " SET " ++
      joinWith ", " (pairs.map fun pair => pair.1 ++ " = ?")
    args := pairs.map Prod.snd }

def whereIdentity (naming : Naming) (entity : Entity) (id : Value) : Fragment :=
  ⟨" WHERE " ++ entity.identity naming ++ " = ?", [id]⟩

variable {naming : Naming} {entity : Entity}

theorem writtenIn_column
    (naming : Naming)
    (hentity : entity.WrittenIn NotMark)
    {column : String}
    (hcolumn : column ∈ (entity.leaves naming).map Leaf.column) :
    Criteria.WrittenIn NotMark column := by
  rcases List.mem_map.mp hcolumn with ⟨leaf, hleaf, heq⟩
  rw [← heq]
  exact writtenIn_leaves alphabet_notMark naming entity hentity leaf hleaf

theorem mem_columns_of_mem_pairs
    {row : Row} {pair : String × Value}
    (h : pair ∈ entity.pairs naming row) :
    pair.1 ∈ (entity.leaves naming).map Leaf.column := by
  rcases List.mem_map.mp h with ⟨⟨leaf, value⟩, hleaf, heq⟩
  rw [← heq]
  exact List.mem_map_of_mem (List.of_mem_zip (List.mem_of_mem_eraseP hleaf)).left

theorem writtenIn_identity
    (naming : Naming)
    (hentity : entity.WrittenIn NotMark) :
    Criteria.WrittenIn NotMark (entity.identity naming) := by
  unfold identity
  cases hfound : (entity.leaves naming).find? Leaf.isIdentity with
  | none => exact selects_paired.identity
  | some leaf =>
      exact writtenIn_column naming hentity (List.mem_map_of_mem (List.mem_of_find?_eq_some hfound))

theorem paired_insertion
    (hnaming : naming.WrittenIn NotMark)
    (hentity : entity.WrittenIn NotMark)
    (rows : List Row) :
    (entity.insertion naming rows).Paired := by
  have htable := (writtenIn_table alphabet_notMark hnaming hentity).count_mark
  have hcolumn : ∀ leaf ∈ (entity.leaves naming).eraseP Leaf.isIdentity,
      placeholders leaf.column = ([] : List Value).length := by
    intro leaf hleaf
    have hmem := List.mem_map_of_mem (f := Leaf.column) (List.mem_of_mem_eraseP hleaf)
    exact (writtenIn_column naming hentity hmem).count_mark
  have hcolumns : placeholders (joinWith ", " (entity.writtenColumns naming)) = 0 := by
    unfold writtenColumns
    rw [placeholders_joinWith rfl hcolumn, List.length_eq_zero_iff, List.flatMap_eq_nil_iff]
    intro leaf _
    rfl
  have hgroups : placeholders (joinWith ", "
      (rows.map fun row => Fragment.markGroup (entity.pairs naming row).length)) =
        (rows.flatMap fun row => (entity.pairs naming row).map Prod.snd).length := by
    refine placeholders_joinWith rfl ?_
    intro row _
    rw [List.length_map]
    exact placeholders_markGroup _
  unfold Fragment.Paired insertion
  simp only [placeholders_append, hcolumns, hgroups]
  simp [placeholders, htable]

theorem paired_assignment
    (hnaming : naming.WrittenIn NotMark)
    (hentity : entity.WrittenIn NotMark)
    {pairs : List (String × Value)}
    (hpairs : ∀ pair ∈ pairs, pair.1 ∈ (entity.leaves naming).map Leaf.column) :
    (entity.assignment naming pairs).Paired := by
  have htable := (writtenIn_table alphabet_notMark hnaming hentity).count_mark
  have hone : ∀ pair ∈ pairs, placeholders (pair.1 ++ " = ?") = [pair.2].length := by
    intro pair hpair
    have hcolumn := (writtenIn_column naming hentity (hpairs pair hpair)).count_mark
    simp [placeholders, hcolumn]
  have hset : placeholders (joinWith ", " (pairs.map fun pair => pair.1 ++ " = ?")) =
      (pairs.map Prod.snd).length := by
    rw [placeholders_joinWith rfl hone, ← List.map_eq_flatMap]
  unfold Fragment.Paired assignment
  simp only [placeholders_append, hset]
  simp [placeholders, htable]

theorem paired_whereIdentity
    (naming : Naming)
    (hentity : entity.WrittenIn NotMark)
    (id : Value) :
    (entity.whereIdentity naming id).Paired := by
  have hidentity := (writtenIn_identity naming hentity).count_mark
  unfold Fragment.Paired whereIdentity
  simp [placeholders, hidentity]

end Entity

/-!
# Answers of a session
-/

namespace Session

theorem answer_insert
    (entity : Entity) (row : Row) (session : Session) :
    answer (Statement.insert entity row) session =
      ⟨(session.layoutOf entity).insertSql,
        (session.layoutOf entity).withoutIdentity row.values⟩ := by
  rw [← answer_layout]
  rfl

theorem answer_insertAll
    (entity : Entity) (rows : List Row) (session : Session) :
    answer (Statement.insertAll entity rows) session =
      if rows = [] then
        none
      else
        some (.text (session.layoutOf entity).insertHead ++
          (Statement.rowGroups (session.layoutOf entity) rows).join ", ") := by
  rw [← answer_layout]
  cases rows with
  | nil => rfl
  | cons row rows => rfl

theorem answer_update
    (entity : Entity) (row : Row) (session : Session) :
    answer (Statement.update entity row) session =
      ⟨(session.layoutOf entity).updateSql,
        (session.layoutOf entity).withoutIdentity row.values ++ [row.id]⟩ := by
  rw [← answer_layout]
  rfl

theorem answer_patch
    (entity : Entity) (row : Row) (session : Session) :
    answer (Statement.patch entity row) session =
      (Statement.assignment? (session.layoutOf entity) row).map fun fragment =>
        fragment ++ ⟨(session.layoutOf entity).byId, [row.id]⟩ := by
  rw [← answer_layout]
  rfl

theorem answer_patchWhere
    (entity : Entity) (row : Row) (query : Query) (session : Session) :
    answer (Statement.patchWhere entity row query) session =
      (Statement.assignment? (session.layoutOf entity) row).map fun fragment =>
        fragment ++ (answer (condition query) (after (layout entity) session)).asWhere := by
  unfold Statement.patchWhere
  rw [answer_bind, answer_layout]
  cases Statement.assignment? (session.layoutOf entity) row with
  | none => rfl
  | some fragment => rfl

variable {naming : Naming} {entity : Entity} {session : Session}

theorem insert_eq
    (hlayout : session.layoutOf entity = Layout.build naming entity)
    {row : Row}
    (hrow : entity.Fits naming row) :
    answer (Statement.insert entity row) session = entity.insertion naming [row] := by
  have hlength : (entity.writtenColumns naming).length = (entity.pairs naming row).length := by
    rw [← Layout.columns_pairs hrow, List.length_map]
  unfold Entity.insertion
  rw [answer_insert, hlayout, Layout.values_pairs hrow]
  simp only [Layout.insertSql, Layout.insertHead, Layout.markGroup, Layout.insertColumns_build,
    hlength, List.map_cons, List.map_nil, joinWith, List.flatMap_cons, List.flatMap_nil,
    List.append_nil]
  rfl

theorem insertAll_eq
    (hlayout : session.layoutOf entity = Layout.build naming entity)
    {rows : List Row}
    (hrows : ∀ row ∈ rows, entity.Fits naming row) :
    answer (Statement.insertAll entity rows) session =
      if rows = [] then none else some (entity.insertion naming rows) := by
  have hgroups : ∀ row ∈ rows,
      Fragment.boundGroup ((Layout.build naming entity).withoutIdentity row.values) =
        ⟨Fragment.markGroup (entity.pairs naming row).length,
          (entity.pairs naming row).map Prod.snd⟩ := by
    intro row hrow
    rw [Layout.values_pairs (hrows row hrow), Fragment.boundGroup, List.length_map]
  have hjoin : (Statement.rowGroups (Layout.build naming entity) rows).join ", " =
      ⟨joinWith ", " (rows.map fun row => Fragment.markGroup (entity.pairs naming row).length),
        rows.flatMap fun row => (entity.pairs naming row).map Prod.snd⟩ := by
    unfold Statement.rowGroups Clauses.join
    rw [List.map_congr_left hgroups, List.map_map, List.flatMap_map]
    rfl
  rw [answer_insertAll, hlayout, hjoin]
  simp only [Layout.insertHead, Layout.insertColumns_build]
  rfl

theorem update_eq
    (hlayout : session.layoutOf entity = Layout.build naming entity)
    {row : Row}
    (hrow : entity.Fits naming row) :
    answer (Statement.update entity row) session =
      entity.assignment naming (entity.pairs naming row) ++ entity.whereIdentity naming row.id := by
  rw [answer_update, hlayout, Layout.values_pairs hrow]
  simp only [Layout.updateSql, Layout.updateHead, Layout.assignments, Layout.insertColumns_build,
    ← Layout.columns_pairs hrow, List.map_map]
  rfl

theorem assignment?_eq
    {row : Row}
    (hrow : entity.Fits naming row) :
    Statement.assignment? (Layout.build naming entity) row =
      if entity.presentPairs naming row = [] then
        none
      else
        some (entity.assignment naming (entity.presentPairs naming row)) := by
  have hassigned : Statement.assigned (Layout.build naming entity) row =
      entity.presentPairs naming row := by
    unfold Statement.assigned Entity.presentPairs
    have hzip : ((entity.pairs naming row).map Prod.fst).zip
        ((entity.pairs naming row).map Prod.snd) = entity.pairs naming row :=
      (List.zip_of_prod rfl rfl).symm
    rw [Layout.insertColumns_build, ← Layout.columns_pairs hrow, Layout.values_pairs hrow, hzip]
  rw [Statement.assignment?_eq, hassigned, Layout.updateHead, Layout.assignments, List.map_map]
  rfl

theorem patch_eq
    (hlayout : session.layoutOf entity = Layout.build naming entity)
    {row : Row}
    (hrow : entity.Fits naming row) :
    answer (Statement.patch entity row) session =
      if entity.presentPairs naming row = [] then
        none
      else
        some (entity.assignment naming (entity.presentPairs naming row) ++
          entity.whereIdentity naming row.id) := by
  rw [answer_patch, hlayout, assignment?_eq hrow]
  split
  · rfl
  · rfl

theorem patchWhere_eq
    (hlayout : session.layoutOf entity = Layout.build naming entity)
    {row : Row}
    (hrow : entity.Fits naming row)
    (query : Query) :
    answer (Statement.patchWhere entity row query) session =
      if entity.presentPairs naming row = [] then
        none
      else
        some (entity.assignment naming (entity.presentPairs naming row) ++
          (answer (condition query) (after (layout entity) session)).asWhere) := by
  rw [answer_patchWhere, hlayout, assignment?_eq hrow]
  split
  · rfl
  · rfl

/-- In any session that a caller can reach, in which no other entity has the type name, every
statement that writes a row pairs the columns with the row's values: an insertion and an update
without the pair that identifies the row, a patch without null values too.  An insertion of several
rows has the values of each row in the order of the same columns.  Every statement has one argument
for each placeholder. -/
theorem statements_pair_columns
    {naming : Naming} {operations : List Operation} {entity : Entity} {query : Query}
    {row : Row} {rows : List Row}
    (hnaming : naming.WrittenIn NotMark)
    (hentity : entity.WrittenIn NotMark)
    (htypes : ∀ type ∈ operations.flatMap Operation.types ++ query.types,
      type.WrittenIn NotMark)
    (hown : ∀ other ∈ operations.flatMap Operation.entities,
      other.typeName = entity.typeName -> other = entity)
    (hrow : entity.Fits naming row)
    (hrows : ∀ other ∈ rows, entity.Fits naming other) :
    let session := reached naming operations
    let present := entity.presentPairs naming row
    (∀ other ∈ row :: rows,
        (entity.pairs naming other).map Prod.fst = entity.writtenColumns naming) ∧
      (answer (Statement.insert entity row) session = entity.insertion naming [row] ∧
        (answer (Statement.insert entity row) session).Paired) ∧
      (answer (Statement.insertAll entity rows) session =
          (if rows = [] then none else some (entity.insertion naming rows)) ∧
        ∀ fragment ∈ answer (Statement.insertAll entity rows) session, fragment.Paired) ∧
      (answer (Statement.update entity row) session =
          entity.assignment naming (entity.pairs naming row) ++
            entity.whereIdentity naming row.id ∧
        (answer (Statement.update entity row) session).Paired) ∧
      (answer (Statement.patch entity row) session =
          (if present = [] then none
          else some (entity.assignment naming present ++ entity.whereIdentity naming row.id)) ∧
        ∀ fragment ∈ answer (Statement.patch entity row) session, fragment.Paired) ∧
      (answer (Statement.patchWhere entity row query) session =
          (if present = [] then none
          else some (entity.assignment naming present ++
            (answer (condition query) (after (layout entity) session)).asWhere)) ∧
        ∀ fragment ∈ answer (Statement.patchWhere entity row query) session,
          fragment.Paired) := by
  intro session present
  have hlayout : session.layoutOf entity = Layout.build naming entity := layoutOf_reached hown
  have hpairs : (entity.assignment naming (entity.pairs naming row)).Paired :=
    Entity.paired_assignment hnaming hentity fun pair => Entity.mem_columns_of_mem_pairs
  have hpresent : (entity.assignment naming present).Paired := by
    refine Entity.paired_assignment hnaming hentity ?_
    intro pair hpair
    exact Entity.mem_columns_of_mem_pairs ((List.mem_filter.mp hpair).left)
  have hid := Entity.paired_whereIdentity naming hentity row.id
  have hcondition : (answer (condition query) (after (layout entity) session)).Paired := by
    have hreached : after (layout entity) session =
        reached naming (operations ++ [.layout entity]) :=
      (reached_append naming operations (.layout entity)).symm
    rw [hreached]
    refine paired_condition hnaming ?_
    simpa [Operation.types] using htypes
  refine ⟨?_, ⟨insert_eq hlayout hrow, ?_⟩, ⟨insertAll_eq hlayout hrows, ?_⟩,
    ⟨update_eq hlayout hrow, ?_⟩, ⟨patch_eq hlayout hrow, ?_⟩,
    ⟨patchWhere_eq hlayout hrow query, ?_⟩⟩
  · intro other hother
    rcases List.mem_cons.mp hother with hself | hin
    · rw [hself]
      exact Layout.columns_pairs hrow
    · exact Layout.columns_pairs (hrows other hin)
  · rw [insert_eq hlayout hrow]
    exact Entity.paired_insertion hnaming hentity [row]
  · intro fragment hfragment
    rw [insertAll_eq hlayout hrows] at hfragment
    split at hfragment
    · cases hfragment
    · cases hfragment
      exact Entity.paired_insertion hnaming hentity rows
  · rw [update_eq hlayout hrow]
    exact hpairs.append hid
  · intro fragment hfragment
    rw [patch_eq hlayout hrow] at hfragment
    split at hfragment
    · cases hfragment
    · cases hfragment
      exact hpresent.append hid
  · intro fragment hfragment
    rw [patchWhere_eq hlayout hrow query] at hfragment
    split at hfragment
    · cases hfragment
    · cases hfragment
      exact hpresent.append (selects_paired.asWhere hcondition)

def account : Entity :=
  .mk "Account" "AccountEntity" none
    [.mk "name" none .column,
      .mk "key" none (.embedded (.mk "Key" "Key" none
        [.mk "realm" (some "realm_name") .column, .mk "number" none .identity,
          .mk "serial" none .column])),
      .mk "score" none .column]

def accountRow : Row :=
  ⟨[.text "a", .text "r", .int 7, .null, .int 5], .int 7⟩

def otherAccountRow : Row :=
  ⟨[.null, .text "s", .int 8, .int 2, .null], .int 8⟩

def realmQuery : Query :=
  .mk "RealmQuery"
    [.mk ⟨"realm_name_in", none, .scalar⟩ (.list [.text "r", .text "s"]),
      .mk ⟨"recent", none, .condition "(age < ? OR age IS NULL)"⟩ (.scalar (.int 3))] none

def earlierOperations : List Operation :=
  [.insert account otherAccountRow, .layout (.mk "Realm" "RealmEntity" none []),
    .condition realmQuery]

theorem statements_pair_columns_account :
    Naming.WrittenIn NotMark {} ∧ account.WrittenIn NotMark ∧
      (∀ type ∈ earlierOperations.flatMap Operation.types ++ realmQuery.types,
        type.WrittenIn NotMark) ∧
      (∀ other ∈ earlierOperations.flatMap Operation.entities,
        other.typeName = account.typeName -> other = account) ∧
      account.Fits {} accountRow ∧
      (∀ other ∈ [accountRow, otherAccountRow], account.Fits {} other) ∧
      answer (Statement.patch account accountRow) (reached {} earlierOperations) =
        some ⟨"UPDATE t_account SET name = ?, realm_name = ?, score = ? WHERE number = ?",
          [.text "a", .text "r", .int 5, .int 7]⟩ := by
  have hnaming : Naming.WrittenIn NotMark {} :=
    .of_formats (by decide) (by decide) (by decide) rfl rfl
  have hentity : account.WrittenIn NotMark := by
    simp only [account, Entity.WrittenIn, EntityField.WrittenIn, Role.WrittenIn]
    decide
  have htypes : ∀ type ∈ earlierOperations.flatMap Operation.types ++ realmQuery.types,
      type.WrittenIn NotMark := by
    decide
  have hown : ∀ other ∈ earlierOperations.flatMap Operation.entities,
      other.typeName = account.typeName -> other = account := by
    intro other hother hname
    have hcases : other = account ∨ other = .mk "Realm" "RealmEntity" none [] := by
      simpa [earlierOperations, Operation.entities] using hother
    rcases hcases with hsame | hrealm
    · exact hsame
    · rw [hrealm] at hname
      exact absurd hname (by decide)
  have hrow : account.Fits {} accountRow := rfl
  have hrows : ∀ other ∈ [accountRow, otherAccountRow], account.Fits {} other := by
    intro other hother
    rcases List.mem_cons.mp hother with hfirst | hsecond
    · rw [hfirst]
      rfl
    · rw [List.mem_singleton.mp hsecond]
      rfl
  have hstatements := statements_pair_columns hnaming hentity htypes hown hrow hrows
  refine ⟨hnaming, hentity, htypes, hown, hrow, hrows, ?_⟩
  rw [hstatements.right.right.right.right.left.left]
  decide +kernel

end Session
end Criteria
