import Criteria.Proofs.Naming.Entities
import Criteria.Proofs.Naming.SnakeCase

/-!
# Explicit tables of entities

Explicit tables may be given one after the other, and the last one for a name counts.  It is the table
of the domain and of the entity type of this name, and of a subquery on the type.  The steps of a path
look it up under the spelling of columns: the steps that name the entity as the table was given have
this table, whatever it is, exactly if the name is its own column.
-/

namespace Criteria

open Text
open Text.Letter

namespace Naming

/-!
# Tables given one after the other
-/

def withTables (naming : Naming) (given : List (String × String)) : Naming :=
  given.foldl (fun naming entry => naming.withTable entry.1 entry.2) naming

def lastTable? (given : List (String × String)) (name : String) : Option String :=
  given.reverse.lookup name

theorem withTables_cons
    (naming : Naming) (entry : String × String) (given : List (String × String)) :
    naming.withTables (entry :: given) = (naming.withTable entry.1 entry.2).withTables given :=
  rfl

theorem column_withTables
    (naming : Naming) (given : List (String × String)) (field : String) :
    (naming.withTables given).column field = naming.column field := by
  induction given generalizing naming with
  | nil => rfl
  | cons entry given ih =>
      rw [withTables_cons, ih]
      rfl

theorem find?_withTable
    (naming : Naming) (entry : String × String) (name : String) :
    (naming.withTable entry.1 entry.2).tables.find? name =
      ([entry].lookup name).or (naming.tables.find? name) := by
  rcases entry with ⟨key, table⟩
  unfold withTable
  by_cases hname : name = key
  · rw [hname, Catalog.find?_put_self, List.lookup_cons_self]
    rfl
  · rw [Catalog.find?_put_of_ne _ _ hname, List.lookup_cons, beq_false_of_ne hname]
    rfl

theorem domainTable_withTable_of_ne
    {naming : Naming} {name other table : String}
    (h : other ≠ name) :
    (naming.withTable name table).domainTable other = naming.domainTable other := by
  unfold domainTable withTable
  rw [Catalog.find?_put_of_ne _ _ h]

theorem find?_withTables
    (naming : Naming) (given : List (String × String)) (name : String) :
    (naming.withTables given).tables.find? name =
      (lastTable? given name).or (naming.tables.find? name) := by
  induction given generalizing naming with
  | nil => rfl
  | cons entry given ih =>
      rw [withTables_cons, ih, find?_withTable, ← Option.or_assoc, lastTable?, lastTable?,
        List.reverse_cons, List.lookup_append]

section

variable {naming : Naming} {given : List (String × String)} {name table : String}

theorem domainTable_withTables
    (h : lastTable? given name = some table) :
    (naming.withTables given).domainTable name = table := by
  unfold domainTable
  rw [find?_withTables, h]
  rfl

theorem entityTable_withTables
    (h : lastTable? given name = some table) :
    (naming.withTables given).entityTable name = table := by
  unfold entityTable
  rw [find?_withTables, h]
  rfl

end

/-!
# Steps of paths
-/

def StepsHave (naming : Naming) (name table : String) : Prop :=
  ∀ raw path tokens, Path.parse naming raw = .ok path -> Path.Spelled raw tokens ->
    ∀ (index : Nat) (token : PathToken), tokens[index]? = some token -> token.entity = name ->
      path.tables[index]? = some table

theorem stepsHave_domainTable
    (naming : Naming) (name : String) :
    naming.StepsHave name (naming.domainTable (naming.column name)) := by
  rintro raw path tokens hpath htokens index token htoken rfl
  rw [Path.tables_of_spelled hpath htokens, List.getElem?_map, htoken]
  rfl

theorem StepsHave.eq_domainTable
    {naming : Naming} {name table : String}
    (hname : FieldName.IsWord name.toList)
    (h : naming.StepsHave name table) :
    table = naming.domainTable (naming.column name) := by
  have hnames : ∀ step ∈ [name, name], PathToken.EntityName step.toList := by
    simpa using PathToken.EntityName.of_isWord hname
  have hspelled := Path.spelled_of_names (List.cons_ne_nil name [name]) hnames
  have htwo : 2 ≤ [name, name].length := Nat.le_refl 2
  rcases Path.exists_parse_of_names htwo hnames with ⟨path, hpath, htables⟩
  have htable := h _ path _ hpath hspelled 0 (.plain name) rfl rfl
  rw [htables] at htable
  exact (Option.some.inj htable).symm

theorem stepsHave_given_iff
    {naming : Naming} {name : String}
    (hname : FieldName.IsWord name.toList) :
    (∀ given table, lastTable? given name = some table ->
      (naming.withTables given).StepsHave name table) ↔ naming.column name = name := by
  constructor
  · intro h
    refine Decidable.byContradiction fun hcolumn => ?_
    -- a table that is longer than the one of the name's column
    let own := naming.domainTable (naming.column name)
    have hgiven := (h [(name, own ++ "x")] (own ++ "x") (by simp [lastTable?])).eq_domainTable hname
    have hown : (naming.withTables [(name, own ++ "x")]).domainTable (naming.column name) = own :=
      domainTable_withTable_of_ne hcolumn
    rw [column_withTables, hown] at hgiven
    have hlength := congrArg String.length hgiven
    simp at hlength
  · intro hcolumn given table hlast
    have hsteps := stepsHave_domainTable (naming.withTables given) name
    rwa [column_withTables, hcolumn, domainTable_withTables hlast] at hsteps

/-!
# Where a given table counts
-/

/-- The name has the table wherever it is looked up as it is written. -/
structure HasTable (naming : Naming) (name table : String) : Prop where
  domain : naming.domainTable name = table
  entity : naming.entityTable name = table
  source : (∃ c ∈ name.toList.head?, c.isUpper = true) ->
    ∀ subquery : Subquery, subquery.source = name -> subquery.table naming = table
  steps : ∀ other, naming.column other = name -> naming.StepsHave other table

theorem hasTable_withTables
    {naming : Naming} {given : List (String × String)} {name table : String}
    (h : lastTable? given name = some table) :
    (naming.withTables given).HasTable name table := by
  constructor
  case domain => exact domainTable_withTables h
  case entity => exact entityTable_withTables h
  case source =>
    rintro hcapital subquery rfl
    rw [Subquery.table_of_capital hcapital]
    exact entityTable_withTables h
  case steps =>
    intro other hcolumn
    have hsteps := stepsHave_domainTable (naming.withTables given) other
    rwa [hcolumn, domainTable_withTables h] at hsteps

/-- A table that is given last for a name is the one of the domain, of the entity type, of a subquery
that ends in the name, and of every step that comes to the name.  A step with the name itself has the
table of the name's column instead, so that it has every table that is given for the name only if the
name is its own column.  This holds of every word if columns are spelled as the fields are; in snake
case it is a matter of capitals, and of digits beside letters. -/
theorem tables_honoured_iff
    {naming : Naming} {name : String}
    (hname : FieldName.IsWord name.toList) :
    (∀ given table, lastTable? given name = some table ->
      let own := naming.withTables given
      own.HasTable name table ∧ own.StepsHave name (own.domainTable (naming.column name))) ∧
      (∀ expression : String, ¬Blank expression.toList -> ∃ subquery,
        Subquery.parse ("select:" ++ expression ++ ",from:" ++ name) = .ok subquery ∧
          subquery.source = name) ∧
      ((∀ given table, lastTable? given name = some table ->
        (naming.withTables given).StepsHave name table) ↔ naming.column name = name) ∧
      (naming.spelling = .verbatim -> naming.column name = name) ∧
      (naming.spelling = .snake ->
        (naming.column name = name ↔
          ¬FieldName.HasCapital name.toList ∧ Words.Unmixed name.toList)) := by
  refine ⟨?_, ?_, stepsHave_given_iff hname, ?_, ?_⟩
  · intro given table hlast own
    refine ⟨hasTable_withTables hlast, ?_⟩
    have hsteps := stepsHave_domainTable own name
    rwa [column_withTables] at hsteps
  · intro expression hexpression
    exact ⟨_, Subquery.parse_of_isWord hexpression hname, rfl⟩
  · intro hspelling
    exact FieldName.column_of_verbatim hspelling name
  · intro hspelling
    rw [← FieldName.snake_eq_self_iff hname.chars, column, hspelling, Spelling.apply,
      ← String.toList_inj, String.toList_ofList]

/-- The table that is given last is the one of the type, and the steps that are written so keep the
table of the format. -/
theorem tables_honoured_iff_menuView :
    let given := [("MenuView", "t_old"), ("user", "t_login"), ("MenuView", "v_menu")]
    let own := Naming.withTables {} given
    FieldName.IsWord "MenuView".toList ∧ lastTable? given "MenuView" = some "v_menu" ∧
      own.HasTable "MenuView" "v_menu" ∧ own.StepsHave "MenuView" "t_menu_view" ∧
        ¬∀ given table, lastTable? given "MenuView" = some table ->
          (Naming.withTables {} given).StepsHave "MenuView" table := by
  intro given own
  have hname : FieldName.IsWord "MenuView".toList :=
    ⟨by decide, List.all_eq_true.mp (by decide +kernel)⟩
  have hlast : lastTable? given "MenuView" = some "v_menu" := by
    decide
  have hcolumn : Naming.column {} "MenuView" = "menu_view" := by
    decide +kernel
  have hstep : own.domainTable "menu_view" = "t_menu_view" := by
    decide +kernel
  rcases @tables_honoured_iff {} _ hname with ⟨hgiven, _, hall, _⟩
  rcases hgiven given "v_menu" hlast with ⟨htable, hsteps⟩
  rw [hcolumn, hstep] at hsteps
  rw [hcolumn] at hall
  exact ⟨hname, hlast, htable, hsteps, fun h => absurd (hall.mp h) (by decide)⟩

/-- A view that has its table in a subquery, and not in a path. -/
theorem step_ne_given_menuView :
    let given := [("MenuView", "v_menu")]
    let naming := Naming.withTables {} given
    lastTable? given "MenuView" = some "v_menu" ∧ naming.domainTable "MenuView" = "v_menu" ∧
      naming.entityTable "MenuView" = "v_menu" ∧
        (Subquery.mk "max(id)" "MenuView").table naming = "v_menu" ∧
          Path.Spelled "user,MenuView" [.plain "user", .plain "MenuView"] ∧
            ∃ path, Path.parse naming "user,MenuView" = .ok path ∧
              path.tables = ["t_user", "t_menu_view"] := by
  intro given naming
  have hnames : ∀ name ∈ ["user", "MenuView"], PathToken.EntityName name.toList := by
    intro name hmem
    refine .of_isWord ⟨?_, List.all_eq_true.mp ?_⟩
    · exact (by decide : ∀ name ∈ ["user", "MenuView"], name.toList ≠ []) name hmem
    · exact (by decide +kernel :
        ∀ name ∈ ["user", "MenuView"], name.toList.all isWordChar = true) name hmem
  have htwo : 2 ≤ ["user", "MenuView"].length := Nat.le_refl 2
  rcases @Path.exists_parse_of_names naming _ htwo hnames with ⟨path, hpath, htables⟩
  have hown : (["user", "MenuView"].map fun name => naming.domainTable (naming.column name)) =
      ["t_user", "t_menu_view"] := by
    decide +kernel
  refine ⟨by decide, by decide, by decide, by decide,
    Path.spelled_of_names (List.cons_ne_nil _ _) hnames, path, hpath, htables.trans hown⟩

end Naming
end Criteria
