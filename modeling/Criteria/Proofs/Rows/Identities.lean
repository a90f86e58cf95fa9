import Criteria.Proofs.Derive.Families
import Criteria.Proofs.Rows.Statements

/-!
# The column that identifies a row

An entity has one field of its own that identifies a row.  An embedded entity brings its own
identity among the columns.  Statements on single rows compare the first identity with the value of
the entity's own field; this is the column of that field unless an entity is embedded before it.
-/

namespace Criteria

open Text

/-!
# The first identity among the columns
-/

namespace Entity

variable {naming : Naming} {entity : Entity} {before after : List Leaf} {own : Leaf}

theorem identityIndex_eq_length_iff
    (hleaves : entity.leaves naming = before ++ own :: after)
    (hown : own.isIdentity = true) :
    (Layout.build naming entity).identityIndex = some before.length ↔
      ∀ leaf ∈ before, leaf.isIdentity = false := by
  have hindex : (Layout.build naming entity).identityIndex =
      (before ++ own :: after).findIdx? Leaf.isIdentity := by
    rw [← hleaves]
    rfl
  rw [hindex]
  constructor
  · intro hfound leaf hleaf
    rcases List.findIdx?_eq_some_iff_getElem.mp hfound with ⟨_, _, hfirst⟩
    rcases List.getElem_of_mem hleaf with ⟨index, hlt, hget⟩
    have hnot := hfirst index hlt
    rw [List.getElem_append_left hlt, hget] at hnot
    simpa using hnot
  · intro hfree
    have hnone : before.findIdx? Leaf.isIdentity = none :=
      List.findIdx?_eq_none_iff.mpr hfree
    rw [List.findIdx?_append, hnone, List.findIdx?_cons, hown]
    simp

theorem identity_eq
    (hleaves : entity.leaves naming = before ++ own :: after)
    (hown : own.isIdentity = true) :
    entity.identity naming = ((before.find? Leaf.isIdentity).map Leaf.column).getD own.column := by
  unfold identity
  rw [hleaves, List.find?_append, List.find?_cons_of_pos hown]
  cases before.find? Leaf.isIdentity with
  | none => rfl
  | some leaf => rfl

theorem identity_eq_of_free
    (hleaves : entity.leaves naming = before ++ own :: after)
    (hown : own.isIdentity = true)
    (hfree : ∀ leaf ∈ before, leaf.isIdentity = false) :
    entity.identity naming = own.column := by
  have hnone : before.find? Leaf.isIdentity = none := by
    rw [List.find?_eq_none]
    intro leaf hleaf
    simp [hfree leaf hleaf]
  rw [identity_eq hleaves hown, hnone]
  rfl

theorem pairs_eq_of_free
    (hleaves : entity.leaves naming = before ++ own :: after)
    (hown : own.isIdentity = true)
    (hfree : ∀ leaf ∈ before, leaf.isIdentity = false)
    {row : Row} {earlier later : List Value} {value : Value}
    (hvalues : row.values = earlier ++ value :: later)
    (hlength : earlier.length = before.length) :
    entity.pairs naming row =
      ((before ++ after).map Leaf.column).zip (earlier ++ later) := by
  have hkept : ∀ pair ∈ before.zip earlier, ¬pair.1.isIdentity = true := by
    rintro ⟨leaf, other⟩ hpair
    rw [hfree leaf (List.of_mem_zip hpair).left]
    exact Bool.false_ne_true
  have hzip : (entity.leaves naming).zip row.values =
      before.zip earlier ++ (own, value) :: after.zip later := by
    rw [hleaves, hvalues, List.zip_append hlength.symm, List.zip_cons_cons]
  unfold pairs
  rw [hzip, List.eraseP_append_right _ hkept, List.eraseP_cons_of_pos (by exact hown),
    ← List.zip_append hlength.symm, List.zip_map_left]
  rfl

end Entity

namespace Session

variable {naming : Naming} {entity : Entity} {session : Session}

theorem selectById_eq
    (hlayout : session.layoutOf entity = Layout.build naming entity)
    (id : Value) :
    answer (Statement.selectById entity id) session =
      .text (Layout.build naming entity).selectHead ++ entity.whereIdentity naming id := by
  have hanswer : answer (Statement.selectById entity id) session =
      ⟨(answer (layout entity) session).selectByIdSql, [id]⟩ := rfl
  rw [hanswer, answer_layout, hlayout]
  rfl

theorem deleteById_eq
    (hlayout : session.layoutOf entity = Layout.build naming entity)
    (id : Value) :
    answer (Statement.deleteById entity id) session =
      .text (Layout.build naming entity).deleteHead ++ entity.whereIdentity naming id := by
  have hanswer : answer (Statement.deleteById entity id) session =
      ⟨(answer (layout entity) session).deleteByIdSql, [id]⟩ := rfl
  rw [hanswer, answer_layout, hlayout]
  rfl

def comparing (column : String) (value : Value) : Fragment :=
  ⟨" WHERE " ++ column ++ " = ?", [value]⟩

/-- The statements on single rows compare `column`, and those that write a row give `values` to
`columns`. -/
structure WritesBy (naming : Naming) (session : Session) (entity : Entity) (row : Row)
    (column : String) (columns : List String) (values : List Value) : Prop where
  identity : (session.layoutOf entity).identity = column
  fits : columns.length = values.length
  selectById : ∀ id, answer (Statement.selectById entity id) session =
    .text (Layout.build naming entity).selectHead ++ comparing column id
  deleteById : ∀ id, answer (Statement.deleteById entity id) session =
    .text (Layout.build naming entity).deleteHead ++ comparing column id
  insert : answer (Statement.insert entity row) session =
    ⟨"INSERT INTO " ++ entity.table naming ++ " (" ++ joinWith ", " columns ++ ") VALUES " ++
      Fragment.markGroup values.length, values⟩
  update : answer (Statement.update entity row) session =
    entity.assignment naming (columns.zip values) ++ comparing column row.id
  patch : answer (Statement.patch entity row) session =
    let present := (columns.zip values).filter fun pair => !pair.2.isNull
    if present = [] then none
    else some (entity.assignment naming present ++ comparing column row.id)

theorem writesBy_of_free
    {before after : List Leaf} {own : Leaf}
    (hlayout : session.layoutOf entity = Layout.build naming entity)
    (hleaves : entity.leaves naming = before ++ own :: after)
    (hown : own.isIdentity = true)
    (hfree : ∀ leaf ∈ before, leaf.isIdentity = false)
    {row : Row} {earlier later : List Value} {value : Value}
    (hvalues : row.values = earlier ++ value :: later)
    (hearlier : earlier.length = before.length)
    (hlater : later.length = after.length) :
    WritesBy naming session entity row own.column ((before ++ after).map Leaf.column)
      (earlier ++ later) := by
  have hrow : entity.Fits naming row := by
    unfold Entity.Fits
    rw [hvalues, hleaves]
    simp [hearlier, hlater]
  have hlength : ((before ++ after).map Leaf.column).length = (earlier ++ later).length := by
    simp [hearlier, hlater]
  have hpairs := Entity.pairs_eq_of_free hleaves hown hfree hvalues hearlier
  have hwhere : entity.whereIdentity naming = comparing own.column := by
    funext id
    unfold Entity.whereIdentity comparing
    rw [Entity.identity_eq_of_free hleaves hown hfree]
  constructor
  case identity =>
    rw [hlayout]
    exact Entity.identity_eq_of_free hleaves hown hfree
  case fits => exact hlength
  case selectById =>
    intro id
    rw [selectById_eq hlayout, hwhere]
  case deleteById =>
    intro id
    rw [deleteById_eq hlayout, hwhere]
  case insert =>
    have hcolumns : entity.writtenColumns naming = (before ++ after).map Leaf.column := by
      rw [← Layout.columns_pairs hrow, hpairs]
      exact List.map_fst_zip (Nat.le_of_eq hlength)
    have hargs : (((before ++ after).map Leaf.column).zip (earlier ++ later)).map Prod.snd =
        earlier ++ later :=
      List.map_snd_zip (Nat.le_of_eq hlength.symm)
    have hmarks : (((before ++ after).map Leaf.column).zip (earlier ++ later)).length =
        (earlier ++ later).length := by
      rw [List.length_zip, hlength, Nat.min_self]
    rw [insert_eq hlayout hrow]
    unfold Entity.insertion
    simp only [List.map_cons, List.map_nil, joinWith, List.flatMap_cons, List.flatMap_nil,
      List.append_nil, hpairs, hcolumns, hargs, hmarks]
  case update => rw [update_eq hlayout hrow, hpairs, hwhere]
  case patch =>
    rw [patch_eq hlayout hrow, hwhere]
    unfold Entity.presentPairs
    rw [hpairs]

end Session

/-!
# The field of a record that identifies a row
-/

namespace Derive

open Source

/-- Whether some column of a type identifies a row. -/
def Implementation.HoldsIdentity (naming : Naming) (implementation : Implementation) : Prop :=
  ∃ leaf ∈ implementation.description.leaves naming, leaf.isIdentity = true

namespace RowRecord

variable {record : RowRecord} {implementation : TypeExpr -> Implementation}
variable {before after : List RowField} {own : RowField}

def columnsOf (naming : Naming) (implementation : TypeExpr -> Implementation)
    (rows : List RowField) : List Leaf :=
  rows.flatMap (RowField.columns naming implementation)

def valuesOf (record : RowRecord) (implementation : TypeExpr -> Implementation)
    (contents : Contents) (rows : List RowField) : List Value :=
  rows.flatMap (record.values implementation contents)

theorem length_valuesOf
    {naming : Naming}
    (hlawful : ∀ type, (implementation type).Lawful naming)
    (contents : Contents) {rows : List RowField}
    (hrows : ∀ row ∈ rows, row ∈ record.definition.fields) :
    (record.valuesOf implementation contents rows).length =
      (columnsOf naming implementation rows).length := by
  unfold valuesOf columnsOf
  rw [List.length_flatMap, List.length_flatMap]
  congr 1
  apply List.map_congr_left
  intro row hrow
  exact length_values hlawful contents (hrows row hrow)

theorem isIdentity_of_identity?
    (hown : record.definition.identity? = some own) :
    own.isIdentity = true := by
  have hfilter := (EntityDefinition.identities_ofDeclaration record.accepted).left
  have hmem : own ∈ record.definition.fields.filter RowField.isIdentity := by
    rw [hfilter, hown]
    exact List.mem_singleton_self own
  exact (List.mem_filter.mp hmem).right

theorem not_embedded_of_isIdentity
    (h : own.isIdentity = true) :
    own.placement ≠ .embedded := by
  intro hembedded
  simp [RowField.isIdentity, hembedded] at h

theorem isIdentity_before
    (hfields : record.definition.fields = before ++ own :: after)
    (hown : record.definition.identity? = some own)
    {row : RowField}
    (hrow : row ∈ before) :
    row.isIdentity = false := by
  have hfilter := (EntityDefinition.identities_ofDeclaration record.accepted).left
  rw [hown, hfields, List.filter_append,
    List.filter_cons_of_pos (isIdentity_of_identity? hown)] at hfilter
  have hnil : before.filter RowField.isIdentity = [] := by
    have hlength := congrArg List.length hfilter
    simp only [List.length_append, List.length_cons, Option.toList_some, List.length_nil]
      at hlength
    exact List.eq_nil_of_length_eq_zero (by omega)
  simpa using List.filter_eq_nil_iff.mp hnil row hrow

theorem columnsOf_free_iff
    (naming : Naming) (implementation : TypeExpr -> Implementation)
    (hfields : record.definition.fields = before ++ own :: after)
    (hown : record.definition.identity? = some own) :
    (∀ leaf ∈ columnsOf naming implementation before, leaf.isIdentity = false) ↔
      ∀ row ∈ before, row.placement = .embedded ->
        ¬(implementation row.type).HoldsIdentity naming := by
  constructor
  · rintro hfree row hrow hembedded ⟨leaf, hleaf, hidentity⟩
    rw [← RowField.columns_of_embedded naming hembedded] at hleaf
    rw [hfree leaf (List.mem_flatMap.mpr ⟨row, hrow, hleaf⟩)] at hidentity
    cases hidentity
  · intro hparts leaf hleaf
    rcases List.mem_flatMap.mp hleaf with ⟨row, hrow, hin⟩
    by_cases hembedded : row.placement = .embedded
    · rw [RowField.columns_of_embedded naming hembedded] at hin
      apply Bool.eq_false_iff.mpr
      intro hidentity
      exact hparts row hrow hembedded ⟨leaf, hin, hidentity⟩
    · rw [RowField.columns_of_not_embedded naming hembedded, List.mem_singleton] at hin
      rw [hin]
      exact isIdentity_before hfields hown hrow

theorem leaves_split
    {naming : Naming}
    (hfields : record.definition.fields = before ++ own :: after)
    (hown : record.definition.identity? = some own) :
    (record.implement implementation).description.leaves naming =
      columnsOf naming implementation before ++
        ⟨own.column.getD (naming.column own.name), true⟩ ::
          columnsOf naming implementation after := by
  have hidentity := isIdentity_of_identity? hown
  rw [leaves_implement, hfields, List.flatMap_append, List.flatMap_cons,
    RowField.columns_of_not_embedded naming (not_embedded_of_isIdentity hidentity), hidentity]
  rfl

theorem write_split
    (hfields : record.definition.fields = before ++ own :: after)
    (hown : record.definition.identity? = some own)
    (contents : Contents) :
    (record.implement implementation).write contents =
      record.valuesOf implementation contents before ++
        contents [own.name] :: record.valuesOf implementation contents after := by
  have hidentity := isIdentity_of_identity? hown
  rw [write_implement, hfields, List.flatMap_append, List.flatMap_cons,
    values_of_not_embedded (not_embedded_of_isIdentity hidentity)]
  rfl

theorem id_row
    (hown : record.definition.identity? = some own)
    (contents : Contents) :
    (record.row implementation contents).id = contents [own.name] := by
  have hidentity : record.code.identity = some ⟨own.name, own.type⟩ := by
    show record.definition.identity?.map _ = _
    rw [hown]
    rfl
  unfold row
  rw [hidentity]

/-- The value that identifies a record is that of its own field.  The column that identifies it is
the first identity among the columns before that of the own field, and is this column if and only if
no field that is embedded before holds an identity.  Then the statements on single rows compare the
column of the own field with its value, and all others are written. -/
theorem identity_own_iff
    {naming : Naming} {operations : List Operation}
    (hlawful : ∀ type, (implementation type).Lawful naming)
    (hfields : record.definition.fields = before ++ own :: after)
    (hown : record.definition.identity? = some own)
    (htypes : ∀ other ∈ operations.flatMap Operation.entities,
      other.typeName = (record.implement implementation).description.typeName ->
        other = (record.implement implementation).description)
    (contents : Contents) :
    let entity := (record.implement implementation).description
    let row := record.row implementation contents
    let session := Session.reached naming operations
    let earlier := columnsOf naming implementation before
    let later := columnsOf naming implementation after
    let column := own.column.getD (naming.column own.name)
    row.id = contents [own.name] ∧
      (session.layoutOf entity).identity =
        ((earlier.find? Leaf.isIdentity).map Leaf.column).getD column ∧
      ((session.layoutOf entity).identityIndex = some earlier.length ↔
        ∀ field ∈ before, field.placement = .embedded ->
          ¬(implementation field.type).HoldsIdentity naming) ∧
      ((∀ field ∈ before, field.placement = .embedded ->
          ¬(implementation field.type).HoldsIdentity naming) ->
        Session.WritesBy naming session entity row column ((earlier ++ later).map Leaf.column)
          (record.valuesOf implementation contents before ++
            record.valuesOf implementation contents after)) := by
  intro entity row session earlier later column
  have hlayout : session.layoutOf entity = Layout.build naming entity :=
    Session.layoutOf_reached htypes
  have hleaves : entity.leaves naming = earlier ++ ⟨column, true⟩ :: later :=
    leaves_split hfields hown
  have hfree := columnsOf_free_iff naming implementation hfields hown
  have hmem : ∀ field, field ∈ before ∨ field ∈ after -> field ∈ record.definition.fields := by
    intro field hfield
    rw [hfields, List.mem_append, List.mem_cons]
    exact hfield.imp id Or.inr
  refine ⟨id_row hown contents, ?_, ?_, ?_⟩
  · rw [hlayout]
    exact Entity.identity_eq hleaves rfl
  · rw [hlayout, Entity.identityIndex_eq_length_iff hleaves rfl]
    exact hfree
  · intro hparts
    apply Session.writesBy_of_free hlayout hleaves rfl (hfree.mpr hparts)
      (write_split hfields hown contents)
    · exact length_valuesOf hlawful contents fun field hfield => hmem field (Or.inl hfield)
    · exact length_valuesOf hlawful contents fun field hfield => hmem field (Or.inr hfield)

end RowRecord

/-!
# Players and members of a team
-/

def playerNick : RowField :=
  ⟨"nick", plainType "String", none, .column⟩

def playerId : RowField :=
  ⟨"id", plainType "u64", some "player_no", .identity⟩

def playerTeam : RowField :=
  ⟨"team", plainType "Team", none, .embedded⟩

def playerRecord : RowRecord where
  place := "app"
  declaration :=
    declaredRecord "Player" []
      [ declaredField "nick" "String" []
      , declaredField "id" "u64"
          [ bareAttribute "id"
          , listAttribute "column" [.word "name", .mark '=' false, .ofText "player_no"] ]
      , memberTeam ]
  definition := ⟨"Player", none, false, [playerNick, playerId, playerTeam]⟩
  accepted := by rfl
  distinct := by decide

def memberImplementation (type : TypeExpr) : Implementation :=
  (memberParts type).implementation

def playerEntity : Entity :=
  (playerRecord.implement memberImplementation).description

def memberEntity : Entity :=
  (memberRecord.implement memberImplementation).description

theorem identity_own_iff_playerRecord :
    (∀ type, (memberImplementation type).Lawful {}) ∧
      playerRecord.definition.fields = [playerNick] ++ playerId :: [playerTeam] ∧
      playerRecord.definition.identity? = some playerId ∧
      (∀ other ∈ [Operation.layout memberEntity, .layout playerEntity].flatMap Operation.entities,
        other.typeName = playerEntity.typeName -> other = playerEntity) ∧
      (memberImplementation playerTeam.type).HoldsIdentity {} ∧
      ∀ contents : Contents,
        Session.answer
            (Statement.update playerEntity (playerRecord.row memberImplementation contents))
            (Session.reached {} [.layout memberEntity, .layout playerEntity]) =
          ⟨"UPDATE t_player SET nick = ?, number = ?, region_code = ? WHERE player_no = ?",
            [contents ["nick"], contents ["team", "number"], contents ["team", "region", "code"],
              contents ["id"]]⟩ := by
  have hlawful : ∀ type, (memberImplementation type).Lawful {} := by
    intro type
    exact Family.lawful_implementation {} (memberParts type)
  have hfields : playerRecord.definition.fields = [playerNick] ++ playerId :: [playerTeam] := rfl
  have hown : playerRecord.definition.identity? = some playerId := rfl
  have htypes : ∀ other ∈
      [Operation.layout memberEntity, .layout playerEntity].flatMap Operation.entities,
      other.typeName = playerEntity.typeName -> other = playerEntity := by
    intro other hother hname
    have hcases : other = memberEntity ∨ other = playerEntity := by
      simpa [Operation.entities] using hother
    rcases hcases with hmember | hsame
    · rw [hmember] at hname
      exact absurd hname (by decide +kernel)
    · exact hsame
  have hteam : (memberImplementation playerTeam.type).HoldsIdentity {} :=
    ⟨⟨"number", true⟩, by decide +kernel, rfl⟩
  refine ⟨hlawful, hfields, hown, htypes, hteam, ?_⟩
  intro contents
  have h := RowRecord.identity_own_iff hlawful hfields hown htypes contents
  rcases h with ⟨hid, _, _, hwrites⟩
  have hfree : ∀ field ∈ [playerNick], field.placement = .embedded ->
      ¬(memberImplementation field.type).HoldsIdentity {} := by
    intro field hfield hembedded
    rw [List.mem_singleton.mp hfield] at hembedded
    cases hembedded
  have hupdate := (hwrites hfree).update
  have hcolumns : (RowRecord.columnsOf {} memberImplementation [playerNick] ++
      RowRecord.columnsOf {} memberImplementation [playerTeam]).map Leaf.column =
      ["nick", "number", "region_code"] := by
    decide +kernel
  have hsql : "UPDATE " ++ playerEntity.table {} ++ " SET " ++
      joinWith ", " ["nick = ?", "number = ?", "region_code = ?"] ++ " WHERE player_no = ?" =
      "UPDATE t_player SET nick = ?, number = ?, region_code = ? WHERE player_no = ?" := by
    decide +kernel
  rw [hid, hcolumns] at hupdate
  refine hupdate.trans ?_
  rw [← hsql]
  rfl

/-- An entity that is embedded before the own identity takes its place: the statements compare the
team's number with the member's identity, which is assigned like any other column. -/
theorem identity_ne_own_memberRecord :
    memberRecord.definition.identity? = some ⟨"id", plainType "u64", none, .identity⟩ ∧
      (Layout.build {} memberEntity).identity = "number" ∧
      (Layout.build {} memberEntity).identityIndex = some 0 ∧
      ∀ contents : Contents,
        Session.answer
            (Statement.update memberEntity (memberRecord.row memberImplementation contents)) {} =
          ⟨"UPDATE t_member SET region_code = ?, id = ?, score = ? WHERE number = ?",
            [contents ["team", "region", "code"], contents ["id"], contents ["score"],
              contents ["id"]]⟩ := by
  have hsql : (Layout.build {} memberEntity).updateSql =
      "UPDATE t_member SET region_code = ?, id = ?, score = ? WHERE number = ?" := by
    decide +kernel
  refine ⟨rfl, by decide +kernel, by decide +kernel, ?_⟩
  intro contents
  rw [← hsql]
  rfl

end Derive
end Criteria
