import Criteria.Entity.Layout
import Criteria.Proofs.Naming.Suffixes
import Criteria.Proofs.Paths.Identifiers
import Criteria.Proofs.Subqueries.Annotations

/-!
# Ways to name an entity

A layout and a subquery name an entity by its type, which has the suffix of entity types; a step of a
path names it without the suffix, as the type does or in snake case.  All of them come to one domain,
and so to one table, unless an explicit table is given for the type itself, which a path does not
look up.
-/

namespace Criteria

open Text
open Text.Letter

/-- A capital, and letters and digits alone after it, all of them ASCII. -/
structure PascalCase (name : List Char) : Prop where
  first : ∃ c ∈ name.head?, c.isUpper = true
  chars : ∀ c ∈ name, c.isAlphanum = true

instance : DecidablePred PascalCase :=
  fun name => decidable_of_iff
    (name.head?.any Char.isUpper = true ∧ name.all Char.isAlphanum = true)
    ⟨fun h => ⟨(Option.any_eq_true ..).mp h.left, List.all_eq_true.mp h.right⟩,
      fun h => ⟨(Option.any_eq_true ..).mpr h.first, List.all_eq_true.mpr h.chars⟩⟩

namespace PascalCase

variable {name : List Char}

theorem nonempty
    (h : PascalCase name) :
    name ≠ [] := by
  rintro rfl
  rcases h.first with ⟨c, hc, _⟩
  cases hc

theorem isWord
    (h : PascalCase name) :
    FieldName.IsWord name :=
  ⟨h.nonempty, fun c hc => by simp [isWordChar, h.chars c hc]⟩

theorem append
    {suffix name : String}
    (h : PascalCase name.toList)
    (hsuffix : ∀ c ∈ suffix.toList, c.isAlphanum = true) :
    PascalCase (name ++ suffix).toList := by
  rw [String.toList_append]
  constructor
  case first =>
    rcases h.first with ⟨c, hc, hupper⟩
    refine ⟨c, ?_, hupper⟩
    rw [Option.mem_def, List.head?_append, Option.mem_def.mp hc]
    rfl
  case chars => exact List.forall_mem_append.mpr ⟨h.chars, hsuffix⟩

end PascalCase

/-!
# Domains
-/

namespace Naming

variable {name : String}

theorem stem_append
    (naming : Naming)
    (hname : name.toList ≠ []) :
    naming.stem (name ++ naming.entitySuffix) = name := by
  have hdrop : dropEnd? naming.entitySuffix.toList (name ++ naming.entitySuffix).toList =
      some name.toList :=
    dropEnd?_eq_some_iff.mpr String.toList_append
  rcases List.exists_cons_of_ne_nil hname with ⟨c, cs, hcs⟩
  unfold stem
  rw [hdrop, hcs]
  dsimp only
  rw [← hcs, String.ofList_toList]

theorem entityTable_append
    {naming : Naming}
    (hname : name.toList ≠ [])
    (hfree : naming.tables.find? (name ++ naming.entitySuffix) = none) :
    naming.entityTable (name ++ naming.entitySuffix) = naming.domainTable (naming.column name) := by
  unfold entityTable domainOf
  rw [hfree, naming.stem_append hname]
  rfl

theorem column_snake
    {naming : Naming}
    (hspelling : naming.spelling ≠ .verbatim)
    (hname : ∀ c ∈ name.toList, isWordChar c = true) :
    naming.column (Spelling.snake.apply name) = naming.column name := by
  unfold column Spelling.apply
  rw [String.toList_ofList, Spelling.applyChars_snake hspelling hname]

end Naming

/-!
# Sources
-/

namespace Subquery

theorem table_of_capital
    {naming : Naming} {subquery : Subquery}
    (h : ∃ c ∈ subquery.source.toList.head?, c.isUpper = true) :
    subquery.table naming = naming.entityTable subquery.source := by
  rcases h with ⟨c, hc, hupper⟩
  unfold table
  rw [Option.mem_def.mp hc]
  exact if_pos hupper

theorem parse_of_isWord
    {expression source : String}
    (hexpression : ¬Blank expression.toList)
    (hsource : FieldName.IsWord source.toList) :
    parse ("select:" ++ expression ++ ",from:" ++ source) =
      .ok ⟨String.ofList (trimChars expression.toList), source⟩ := by
  have hclear : ∀ c ∈ source.toList, isBlank c = false :=
    fun c hc => not_isBlank_of_isWordChar (hsource.chars c hc)
  have hwhole : ("select:" ++ expression ++ ",from:" ++ source).toList =
      opening ++ (expression.toList ++ separator ++ source.toList) := by
    simp only [String.toList_append, List.append_assoc]
    rfl
  have hmade : MadeOf ("select:" ++ expression ++ ",from:" ++ source).toList expression.toList
      source.toList := by
    constructor
    case written =>
      rw [hwhole]
      refine trimChars_eq_iff.mpr ⟨⟨[], [], by simp, by simp, by simp⟩, ?_, ?_⟩
      · rintro c ⟨rfl⟩
        decide
      · intro c hc
        apply hclear
        apply List.mem_of_mem_getLast?
        rwa [List.getLast?_append_of_ne_nil _ (by simp [separator]),
          List.getLast?_append_of_ne_nil _ hsource.nonempty] at hc
    case last =>
      intro front rest heq
      have hcomma : ',' ∈ source.toList := by
        rw [heq]
        simp [separator]
      cases hsource.chars ',' hcomma
    case select => exact hexpression
    case source =>
      rw [← trimChars_eq_nil_iff, trimChars_eq_self hclear]
      exact hsource.nonempty
  apply parse_eq_ok_iff.mpr
  refine ⟨_, _, hmade, ?_⟩
  rw [trimChars_eq_self hclear, String.ofList_toList]

end Subquery

/-!
# Steps
-/

namespace PathToken

variable {name : List Char}

theorem EntityName.of_isWord
    (h : FieldName.IsWord name) :
    EntityName name :=
  ⟨h.nonempty, h.chars⟩

theorem EntityName.of_snake
    (h : FieldName.IsWord name) :
    EntityName (Spelling.snake.applyChars name) :=
  ⟨FieldName.snake_ne_nil h, alphabet_isWordChar.applyChars .snake h.chars⟩

theorem rightUnique_spells :
    Relator.RightUnique Spells := by
  intro piece token other htoken hother
  have hread := read_eq_ok_iff.mpr htoken
  rw [read_eq_ok_iff.mpr hother] at hread
  exact Except.ok.inj hread.symm

end PathToken

namespace Path

variable {naming : Naming}

theorem tables_of_spelled
    {raw : String} {path : Path} {tokens : List PathToken}
    (hpath : parse naming raw = .ok path)
    (htokens : Spelled raw tokens) :
    path.tables = tokens.map fun token => naming.domainTable (naming.column token.entity) := by
  rcases of_parse_eq_ok hpath with ⟨_, own, hown, hmade⟩
  have hsame : own = tokens := PathToken.rightUnique_spells.forall₂ hown.spells htokens.spells
  rw [hmade.tables, hmade.domains, List.map_map, hsame]
  rfl

theorem spelled_of_names
    {names : List String}
    (hne : names ≠ [])
    (hnames : ∀ name ∈ names, PathToken.EntityName name.toList) :
    Spelled (joinWith "," names) (names.map .plain) := by
  have hpieces : pieces (joinWith "," names) = names.map String.toList := by
    have hsplit : split ',' (joinWith "," names).toList = names.map String.toList := by
      refine split_eq_iff.mpr ⟨by simpa using hne, (joinWith_toList "," names).symm, ?_⟩
      intro piece hpiece hin
      rcases List.mem_map.mp hpiece with ⟨name, hname, rfl⟩
      cases (hnames name hname).chars ',' hin
    rw [pieces, hsplit, List.map_map]
    refine List.map_congr_left fun name hname => trimChars_eq_self ?_
    intro c hc
    exact not_isBlank_of_isWordChar ((hnames name hname).chars c hc)
  constructor
  case spells =>
    rw [hpieces, List.forall₂_map_left_iff, List.forall₂_map_right_iff, List.forall₂_same]
    intro name hname
    have hspells := PathToken.Spells.plain (hnames name hname)
    rw [String.ofList_toList] at hspells
    exact hspells
  case last =>
    intro token htoken
    rcases List.mem_map.mp (List.mem_of_mem_getLast? htoken) with ⟨name, _, rfl⟩
    rfl

theorem exists_parse_of_names
    {names : List String}
    (hlength : 2 ≤ names.length)
    (hnames : ∀ name ∈ names, PathToken.EntityName name.toList) :
    ∃ path, parse naming (joinWith "," names) = .ok path ∧
      path.tables = names.map fun name => naming.domainTable (naming.column name) := by
  have hspelled : Spelled (joinWith "," names) (names.map .plain) :=
    spelled_of_names (List.ne_nil_of_length_pos (Nat.lt_of_succ_lt hlength)) hnames
  have hcomma : ',' ∈ (joinWith "," names).toList := by
    rw [← two_le_length_pieces_iff, hspelled.spells.length_eq, List.length_map]
    exact hlength
  rcases (exists_parse_iff naming hcomma).mpr ⟨_, hspelled⟩ with ⟨path, hpath⟩
  refine ⟨path, hpath, ?_⟩
  rw [tables_of_spelled hpath hspelled, List.map_map]
  rfl

end Path

/-!
# One table
-/

namespace Naming

/-- The layout of an entity's type, a subquery on the type and the steps of a path that name the
entity by its type without the suffix, or by the snake case form of that, have one table: the
explicit one of the domain, or the one that the format gives. -/
theorem tables_agree
    {naming : Naming} {name : String}
    (hspelling : naming.spelling ≠ .verbatim)
    (hname : PascalCase name.toList)
    (hsuffix : ∀ c ∈ naming.entitySuffix.toList, c.isAlphanum = true)
    (hfree : naming.tables.find? (name ++ naming.entitySuffix) = none) :
    let typeName := name ++ naming.entitySuffix
    let table := naming.domainTable (naming.column name)
    (∀ fullName fields, (Layout.build naming (.mk fullName typeName none fields)).table = table) ∧
      (∀ raw subquery, Subquery.parse raw = .ok subquery -> subquery.source = typeName ->
        subquery.table naming = table) ∧
      (∀ expression : String, ¬Blank expression.toList -> ∃ subquery,
        Subquery.parse ("select:" ++ expression ++ ",from:" ++ typeName) = .ok subquery ∧
          subquery.source = typeName) ∧
      (∀ raw path tokens, Path.parse naming raw = .ok path -> Path.Spelled raw tokens ->
        ∀ (index : Nat) (token : PathToken), tokens[index]? = some token ->
          token.entity = name ∨ token.entity = Spelling.snake.apply name ->
            path.tables[index]? = some table) ∧
      ∀ names : List String, 2 ≤ names.length ->
        (∀ step ∈ names, step = name ∨ step = Spelling.snake.apply name) ->
          ∃ path, Path.parse naming (joinWith "," names) = .ok path ∧
            path.tables = List.replicate names.length table := by
  intro typeName table
  have hentity : naming.entityTable typeName = table := entityTable_append hname.nonempty hfree
  have hstep : ∀ step, step = name ∨ step = Spelling.snake.apply name ->
      naming.domainTable (naming.column step) = table := by
    rintro step (rfl | rfl)
    · rfl
    · exact congrArg naming.domainTable (column_snake hspelling hname.isWord.chars)
  have htypeName : PascalCase typeName.toList := hname.append hsuffix
  refine ⟨?_, ?_, ?_, ?_, ?_⟩
  · intro fullName fields
    exact hentity
  · intro raw subquery _ hsource
    have hcapital := htypeName.first
    rw [← hsource] at hcapital
    rw [Subquery.table_of_capital hcapital, hsource]
    exact hentity
  · intro expression hexpression
    exact ⟨_, Subquery.parse_of_isWord hexpression htypeName.isWord, rfl⟩
  · intro raw path tokens hpath htokens index token htoken hnamed
    rw [Path.tables_of_spelled hpath htokens, List.getElem?_map, htoken, Option.map_some,
      hstep token.entity hnamed]
  · intro names hlength hnames
    have hentities : ∀ step ∈ names, PathToken.EntityName step.toList := by
      intro step hmem
      rcases hnames step hmem with rfl | rfl
      · exact .of_isWord hname.isWord
      · rw [Spelling.apply, String.toList_ofList]
        exact .of_snake hname.isWord
    rcases Path.exists_parse_of_names hlength hentities with ⟨path, hpath, htables⟩
    refine ⟨path, hpath, ?_⟩
    rw [htables, ← List.map_const']
    exact List.map_congr_left fun step hmem => hstep step (hnames step hmem)

/-- A name with an acronym and a digit, under a domain that has an explicit table. -/
theorem tables_agree_servers :
    let tables : Catalog String := Catalog.empty.put "httpServer2" "v_servers"
    let naming : Naming := { spelling := .camel, tables := tables }
    (Layout.build naming (.mk "net::HTTPServer2Entity" "HTTPServer2Entity" none [])).table =
        "v_servers" ∧
      (∃ subquery, Subquery.parse "select:max(load),from:HTTPServer2Entity" = .ok subquery ∧
        subquery.table naming = "v_servers") ∧
      ∃ path, Path.parse naming "HTTPServer2,http_server_2" = .ok path ∧
        path.tables = ["v_servers", "v_servers"] := by
  intro tables naming
  have htable : naming.domainTable (naming.column "HTTPServer2") = "v_servers" := by
    decide +kernel
  have hsnake : Spelling.snake.apply "HTTPServer2" = "http_server_2" := by
    decide +kernel
  have hname : PascalCase "HTTPServer2".toList := by
    decide +kernel
  have hspelling : naming.spelling ≠ .verbatim := by
    decide
  have hsuffix : ∀ c ∈ naming.entitySuffix.toList, c.isAlphanum = true :=
    List.all_eq_true.mp (by decide +kernel)
  have hfree : naming.tables.find? ("HTTPServer2" ++ naming.entitySuffix) = none := by
    decide +kernel
  have hagree := tables_agree hspelling hname hsuffix hfree
  rw [htable, hsnake] at hagree
  rcases hagree with ⟨hlayout, hsources, hparse, _, hpaths⟩
  refine ⟨hlayout _ _, ?_, ?_⟩
  · rcases hparse "max(load)" (by decide +kernel) with ⟨subquery, hsubquery, hsource⟩
    exact ⟨subquery, hsubquery, hsources _ subquery hsubquery hsource⟩
  · exact hpaths ["HTTPServer2", "http_server_2"] (by decide) (by simp)

end Naming
end Criteria
