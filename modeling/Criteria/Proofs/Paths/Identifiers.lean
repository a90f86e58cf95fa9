import Criteria.Proofs.Naming.Cutting
import Criteria.Proofs.Paths.Positions
import Criteria.Proofs.Paths.Texts

/-!
# Identifiers on a path

The entities of a path are looked at character by character when the path is read, and so under the
default naming its domains, its tables and its bridges are named by identifiers.  A key is only
asked not to be empty.  Its column is an identifier exactly if its characters, separators of words
apart, are identifier characters in lower case; if it is none, it stands in the condition as it is.
-/

namespace Criteria

open Text
open Text.Letter

def Identifier (name : String) : Prop :=
  WrittenIn (fun c => isWordChar c = true) name

instance : DecidablePred Identifier :=
  fun name => inferInstanceAs (Decidable (WrittenIn (fun c => isWordChar c = true) name))

theorem Identifier.append
    {before after : String}
    (hbefore : Identifier before)
    (hafter : Identifier after) :
    Identifier (before ++ after) := by
  intro c hc
  rw [String.toList_append] at hc
  exact (List.mem_append.mp hc).elim (hbefore c) (hafter c)

namespace Naming

/-!
# Default formats

The braces of a format are no identifier characters, but no brace is left once the slots are filled.
-/

theorem identifier_fill
    {format before name after : String}
    (hcut : FirstCut slot format.toList before.toList after.toList)
    (hbefore : Identifier before)
    (hname : Identifier name)
    (hafter : Identifier after) :
    Identifier (fill format [name]) := by
  have hfill : fill format [name] = before ++ name ++ after := by
    rw [fill_of_firstCut hcut, ← String.toList_append, ← String.toList_append, String.ofList_toList]
  rw [hfill]
  exact (hbefore.append hname).append hafter

section

variable {left right : String}

theorem identifier_domainTable
    (h : Identifier left) :
    Identifier (domainTable {} left) := by
  have hcut : FirstCut slot (tableFormat {}).toList "t_".toList "".toList :=
    cutFirst?_eq_some_iff.mp (by decide +kernel)
  exact identifier_fill hcut (by decide +kernel) h (by decide)

theorem identifier_bridgeKey
    (h : Identifier left) :
    Identifier (bridgeKey {} left) := by
  have hcut : FirstCut slot (bridgeKeyFormat {}).toList "".toList "_id".toList :=
    cutFirst?_eq_some_iff.mp (by decide +kernel)
  exact identifier_fill hcut (by decide) h (by decide +kernel)

/-- The second name goes to the second slot, as no brace comes with the first name. -/
theorem identifier_bridgeTable
    (hleft : Identifier left)
    (hright : Identifier right) :
    Identifier (bridgeTable {} left right) := by
  have hcut : FirstCut slot (bridgeFormat {}).toList "a_".toList ("_and_".toList ++ slot) :=
    cutFirst?_eq_some_iff.mp (by decide +kernel)
  have hfirst : (fill (bridgeFormat {}) [left]).toList =
      ("a_" ++ left ++ "_and_").toList ++ slot ++ "".toList := by
    rw [fill_of_firstCut hcut, String.toList_ofList]
    simp only [String.toList_append, List.append_assoc]
    rfl
  have hbefore : Identifier ("a_" ++ left ++ "_and_") := by
    have hopening : Identifier "a_" := by decide +kernel
    have hmiddle : Identifier "_and_" := by decide +kernel
    exact (hopening.append hleft).append hmiddle
  have hsecond : FirstCut slot (fill (bridgeFormat {}) [left]).toList
      ("a_" ++ left ++ "_and_").toList "".toList := by
    rw [hfirst]
    refine firstCut_of_clear ?_
    intro hin
    have hbrace := hbefore _ hin
    revert hbrace
    decide
  change Identifier (fill (bridgeFormat {}) [left, right])
  rw [fill_cons]
  exact identifier_fill hsecond hbefore hright (by decide)

end

end Naming

namespace PathToken

/-!
# Entities and keys
-/

def key? : PathToken -> Option String
  | .plain _ => none
  | .refersToNext _ key => some key
  | .referredByNext key _ => some key

/-- Each character separates words, or is written in lower case by identifier characters. -/
def KeyName (key : String) : Prop :=
  ∀ c ∈ key.toList, Words.isSeparator c = true ∨ ∀ d ∈ lower c, isWordChar d = true

theorem identifier_column_iff
    (key : String) :
    Identifier (Naming.column {} key) ↔ KeyName key := by
  have hcolumn : (Naming.column {} key).toList =
      joinChars ['_'] ((Words.ofName key.toList).map lowerAll) :=
    String.toList_ofList
  unfold Identifier Criteria.WrittenIn
  rw [hcolumn]
  constructor
  · intro h c hc
    by_cases hseparator : Words.isSeparator c = true
    · exact Or.inl hseparator
    · refine Or.inr fun d hd => ?_
      have hflat : c ∈ (Words.ofName key.toList).flatten := by
        rw [Words.flatten_ofName, List.mem_filter]
        exact ⟨hc, by simpa using hseparator⟩
      rcases List.mem_flatten.mp hflat with ⟨word, hword, hin⟩
      have hall : ∀ e ∈ lowerAll word, isWordChar e = true :=
        fun e he => h e (mem_joinChars_of_mem ['_'] (List.mem_map_of_mem hword) he)
      rcases mem_lowerAll hin with hlower | ⟨_, hsigma⟩
      · exact hall d (hlower d hd)
      · exact absurd (hall 'ς' hsigma) (by decide)
  · intro h d hd
    rcases mem_joinChars hd with hmark | ⟨piece, hpiece, hin⟩
    · rw [List.mem_singleton.mp hmark]
      decide
    · rcases List.mem_map.mp hpiece with ⟨word, hword, rfl⟩
      rcases of_mem_lowerAll hin with ⟨c, hc, hlower⟩
      rcases Words.of_mem_ofName hword hc with ⟨hkey, hclear⟩
      rcases h c hkey with hseparator | hword
      · rw [hclear] at hseparator
        cases hseparator
      · rcases hlower with hown | ⟨rfl, _⟩
        · exact hword d hown
        · exact absurd (hword 'σ' (by decide)) (by decide)

theorem EntityName.identifier
    {cs : List Char}
    (h : EntityName cs) :
    Identifier (String.ofList cs) := by
  intro c hc
  rw [String.toList_ofList] at hc
  exact h.chars c hc

theorem Spells.identifier
    {piece : List Char} {token : PathToken}
    (h : Spells piece token) :
    Identifier token.entity := by
  cases h with
  | plain hname => exact hname.identifier
  | refersToNext hcut hname hkey => exact hname.identifier
  | referredByNext hno hcut hname hkey => exact hname.identifier

theorem identifier_of_spells
    {pieces : List (List Char)} {tokens : List PathToken}
    (h : List.Forall₂ Spells pieces tokens) :
    ∀ token ∈ tokens, Identifier token.entity := by
  induction h with
  | nil => simp
  | cons hpiece hlater ih => exact List.forall_mem_cons.mpr ⟨hpiece.identifier, ih⟩

section

variable {left right : String}

theorem identifier_relation_table
    (token : PathToken)
    (hleft : Identifier left)
    (hright : Identifier right) :
    Identifier (token.relation {} left right).table := by
  cases token with
  | plain entity => exact Naming.identifier_bridgeTable hleft hright
  | refersToNext entity key => exact Naming.identifier_domainTable hleft
  | referredByNext key entity => exact Naming.identifier_domainTable hright

theorem identifier_relation_keys_iff
    (token : PathToken)
    (hleft : Identifier left)
    (hright : Identifier right) :
    (Identifier (token.relation {} left right).localKey ∧
        Identifier (token.relation {} left right).foreignKey) ↔
      ∀ key ∈ token.key?, KeyName key := by
  have hidentity : Identifier identityColumn := by
    decide
  cases token with
  | plain entity =>
      have hkeys :=
        And.intro (Naming.identifier_bridgeKey hleft) (Naming.identifier_bridgeKey hright)
      exact ⟨fun _ => by simp [key?], fun _ => hkeys⟩
  | refersToNext entity key =>
      show Identifier identityColumn ∧ Identifier (Naming.column {} key) ↔ _
      simp [key?, identifier_column_iff, hidentity]
  | referredByNext key entity =>
      show Identifier (Naming.column {} key) ∧ Identifier identityColumn ↔ _
      simp [key?, identifier_column_iff, hidentity]

end

end PathToken

namespace Path

/-!
# Names of spelled paths
-/

theorem Spelled.identifier
    {raw : String} {tokens : List PathToken}
    (h : Spelled raw tokens) :
    ∀ token ∈ tokens, Identifier (Naming.column {} token.entity) := by
  intro token htoken
  have hentity := PathToken.identifier_of_spells h.spells token htoken
  exact Naming.WrittenIn.column alphabet_isWordChar {} hentity

section

variable {path : Path} {tokens : List PathToken}

theorem MadeOf.exists_relation_of_key
    {naming : Naming} {token : PathToken} {key : String}
    (h : MadeOf naming path tokens)
    (hlast : ∀ token ∈ tokens.getLast?, token.isPlain = true)
    (htoken : token ∈ tokens)
    (hkey : key ∈ token.key?) :
    ∃ next ∈ tokens, token.relation naming (naming.column token.entity)
      (naming.column next.entity) ∈ path.relations := by
  rcases List.getElem_of_mem htoken with ⟨index, hindex, hget⟩
  have hfound : tokens[index]? = some token := List.getElem?_eq_some_iff.mpr ⟨hindex, hget⟩
  have hnext : index + 1 < tokens.length := by
    by_contra hend
    have hsame : index = tokens.length - 1 := by omega
    have hplain : token.isPlain = true := by
      apply hlast
      rw [List.getLast?_eq_getElem?, ← hsame]
      exact hfound
    cases token with
    | plain entity => cases hkey
    | refersToNext entity key => cases hplain
    | referredByNext key entity => cases hplain
  refine ⟨tokens[index + 1], List.getElem_mem hnext, ?_⟩
  refine List.mem_of_getElem? (h.relations hfound ?_ ?_)
  · rw [h.domains, List.getElem?_map, hfound]
    rfl
  · rw [h.domains, List.getElem?_map, List.getElem?_eq_getElem hnext]
    rfl

theorem MadeOf.identifiers
    (h : MadeOf {} path tokens)
    (hentities : ∀ token ∈ tokens, Identifier (Naming.column {} token.entity)) :
    ∀ name ∈ path.domains ++ path.tables ++ path.relations.map Relation.table,
      Identifier name := by
  have hdomains : ∀ name ∈ path.domains, Identifier name := by
    rw [h.domains]
    exact List.forall_mem_map.mpr hentities
  simp only [List.forall_mem_append, List.forall_mem_map]
  refine ⟨⟨hdomains, ?_⟩, ?_⟩
  · rw [h.tables]
    exact List.forall_mem_map.mpr fun name hname =>
      Naming.identifier_domainTable (hdomains name hname)
  · intro relation hrelation
    rcases List.getElem?_of_mem hrelation with ⟨index, hindex⟩
    rcases h.exists_neighbours hindex with ⟨left, right, hleft, hright, rfl⟩
    exact left.identifier_relation_table (hentities left (List.mem_of_getElem? hleft))
      (hentities right (List.mem_of_getElem? hright))

theorem MadeOf.identifier_keys_iff
    (h : MadeOf {} path tokens)
    (hlast : ∀ token ∈ tokens.getLast?, token.isPlain = true)
    (hentities : ∀ token ∈ tokens, Identifier (Naming.column {} token.entity)) :
    (∀ relation ∈ path.relations,
        Identifier relation.localKey ∧ Identifier relation.foreignKey) ↔
      ∀ token ∈ tokens, ∀ key ∈ token.key?, PathToken.KeyName key := by
  constructor
  · intro hkeys token htoken key hkey
    rcases h.exists_relation_of_key hlast htoken hkey with ⟨next, hnext, hrelation⟩
    have hclean := token.identifier_relation_keys_iff (hentities token htoken)
      (hentities next hnext)
    exact hclean.mp (hkeys _ hrelation) key hkey
  · intro hclean relation hrelation
    rcases List.getElem?_of_mem hrelation with ⟨index, hindex⟩
    rcases h.exists_neighbours hindex with ⟨left, right, hleft, hright, rfl⟩
    have htoken := List.mem_of_getElem? hleft
    exact (left.identifier_relation_keys_iff (hentities left htoken)
      (hentities right (List.mem_of_getElem? hright))).mpr (hclean left htoken)

theorem MadeOf.shows_key
    {naming : Naming} {token : PathToken} {key : String}
    (h : MadeOf naming path tokens)
    (hlast : ∀ token ∈ tokens.getLast?, token.isPlain = true)
    (htoken : token ∈ tokens)
    (hkey : key ∈ token.key?)
    (filters : Filters) :
    (path.compile filters).Shows (naming.column key) := by
  rcases h.exists_relation_of_key hlast htoken hkey with ⟨next, hnext, hrelation⟩
  have hlink := List.mem_map_of_mem (f := Relation.link) hrelation
  rw [Path.relations, map_link_relationsFrom] at hlink
  rcases List.mem_map.mp hlink with ⟨hop, hhop, heq⟩
  refine shows_compile filters hhop ?_
  rw [heq]
  cases token with
  | plain entity => cases hkey
  | refersToNext entity other =>
      cases hkey
      exact List.mem_singleton.mpr rfl
  | referredByNext other entity =>
      cases hkey
      exact List.mem_singleton.mpr rfl

end

/-- Domains, tables and bridge tables are identifiers.  The columns are, exactly if the keys of all
tokens are names of keys; then the condition is made of identifiers around its filters.  The column
of every key stands in the condition, whatever characters it has. -/
theorem names_identifiers_iff
    {raw : String} {path : Path}
    (hpath : parse {} raw = .ok path) :
    ∃ tokens, Spelled raw tokens ∧
      (∀ name ∈ path.domains ++ path.tables ++ path.relations.map Relation.table,
        Identifier name) ∧
      ((∀ name ∈ path.names, Identifier name) ↔
        ∀ token ∈ tokens, ∀ key ∈ token.key?, PathToken.KeyName key) ∧
      ∀ filters : Filters,
        ((∀ name ∈ path.names, Identifier name) ->
            Framed Identifier filters (path.compile filters)) ∧
          ∀ token ∈ tokens, ∀ key ∈ token.key?,
            (path.compile filters).Shows (Naming.column {} key) := by
  rcases (of_parse_eq_ok hpath).right with ⟨tokens, hspelled, hmade⟩
  have hentities := hspelled.identifier
  have hstops := hmade.identifiers hentities
  refine ⟨tokens, hspelled, hstops, ?_, ?_⟩
  · rw [forall_names_iff, hmade.identifier_keys_iff hspelled.last hentities]
    exact and_iff_right hstops
  · intro filters
    refine ⟨fun hnames => framed_compile (by decide) hnames filters, ?_⟩
    intro token htoken key hkey
    exact hmade.shows_key hspelled.last htoken hkey filters

def ownedPath : Path :=
  ⟨"menu->parent Id,owner-id<-user,role", ⟨"menu", "t_menu"⟩,
    ⟨.leftKey "parent_id", ⟨"user", "t_user"⟩⟩,
    [⟨.rightKey "owner_id", ⟨"role", "t_role"⟩⟩]⟩

theorem names_identifiers_iff_ownedPath :
    parse {} "menu->parent Id,owner-id<-user,role" = .ok ownedPath ∧
      ∃ tokens, Spelled "menu->parent Id,owner-id<-user,role" tokens ∧
        (∀ name ∈ ownedPath.names, Identifier name) ∧
          (∀ token ∈ tokens, ∀ key ∈ token.key?, PathToken.KeyName key) ∧
            ∀ filters, Framed Identifier filters (ownedPath.compile filters) := by
  have hpath : parse {} "menu->parent Id,owner-id<-user,role" = .ok ownedPath := by
    decide +kernel
  have hnames : ∀ name ∈ ownedPath.names, Identifier name := by
    decide +kernel
  rcases names_identifiers_iff hpath with ⟨tokens, hspelled, _, hkeys, hcompile⟩
  exact ⟨hpath, tokens, hspelled, hnames, hkeys.mp hnames,
    fun filters => (hcompile filters).left hnames⟩

/-- A key that is a condition of its own is read, and stands at the head of the condition. -/
theorem parse_ok_key_not_identifier :
    let menu : Stop := ⟨"menu", "t_menu"⟩
    let path : Path :=
      ⟨"menu->id=id/**/or/**/id,menu", menu, ⟨.leftKey "id=id/**/or/**/id", menu⟩, []⟩
    parse {} "menu->id=id/**/or/**/id,menu" = .ok path ∧
      path.relations.map Relation.foreignKey = ["id=id/**/or/**/id"] ∧
        ¬Identifier "id=id/**/or/**/id" ∧
          path.compile [] = .text "id=id/**/or/**/id IN (SELECT id FROM t_menu)" ∧
            ¬Framed Identifier [] (path.compile []) := by
  intro menu path
  have hcompile : path.compile [] = .text "id=id/**/or/**/id IN (SELECT id FROM t_menu)" := by
    decide +kernel
  refine ⟨by decide +kernel, rfl, by decide +kernel, hcompile, ?_⟩
  intro hframed
  rw [hcompile] at hframed
  rcases hframed.chars '=' (by decide +kernel) with hword | hframe
  · revert hword
    decide
  · revert hframe
    decide +kernel

end Path
end Criteria
