import Criteria.Proofs.Naming.Alphabet
import Criteria.Proofs.Paths.Meaning
import Criteria.Proofs.Paths.Positions

/-!
# Bridges between entities

A bridge table has a column for each of the two entities that it relates, and both columns are named
after the entity by one format.  A format with a place for the name tells any two names apart, so
the columns differ exactly if the neighbours on the path are named differently once they are spelled
as columns.  Between two neighbours of one name there is only one column, and the bridge relates no
identity but to itself.
-/

namespace Criteria

open Text

namespace Naming

/-!
# Formats with a place
-/

def HasSlot (format : String) : Prop :=
  ∃ before after, format.toList = before ++ slot ++ after

theorem exists_fill_eq
    {format : String}
    (h : HasSlot format) :
    ∃ before after : List Char, ∀ name : String,
      fill format [name] = String.ofList (before ++ name.toList ++ after) := by
  rcases h with ⟨front, rest, hformat⟩
  rcases exists_cutFirst?_append slot front rest with ⟨parts, hparts, _⟩
  rw [← hformat] at hparts
  exact ⟨parts.1, parts.2, fill_of_firstCut (cutFirst?_eq_some_iff.mp hparts)⟩

variable {naming : Naming}

theorem bridgeKey_eq_iff
    (h : HasSlot naming.bridgeKeyFormat)
    {left right : String} :
    naming.bridgeKey left = naming.bridgeKey right ↔ left = right := by
  constructor
  · intro hsame
    rcases exists_fill_eq h with ⟨before, after, hfill⟩
    unfold bridgeKey at hsame
    rw [hfill, hfill] at hsame
    have hlist := congrArg String.toList hsame
    rw [String.toList_ofList, String.toList_ofList] at hlist
    have hname := List.append_cancel_left (List.append_cancel_right hlist)
    exact String.toList_inj.mp hname
  · rintro rfl
    rfl

end Naming

/-!
# Related identities
-/

section

variable {κ : Type} {leftKey rightKey table : String} {left right : Stop}

theorem Link.eq_of_relates_same
    {db : Database κ} {x y : κ}
    (h : (Link.bridge leftKey leftKey table).Relates db left right x y) :
    x = y := by
  rcases h with ⟨record, _, hleft, hright⟩
  exact Option.some.inj (hleft.symm.trans hright)

theorem Link.exists_relates_iff
    {x y : κ}
    (hne : x ≠ y) :
    (∃ db : Database κ, (Link.bridge leftKey rightKey table).Relates db left right x y) ↔
      leftKey ≠ rightKey := by
  constructor
  · rintro ⟨db, hrelates⟩ rfl
    exact hne (eq_of_relates_same hrelates)
  · intro hkeys
    let record : Record κ := .ofColumns [(leftKey, x), (rightKey, y)]
    refine ⟨⟨fun _ => [record]⟩, record, List.mem_singleton.mpr rfl, ?_, ?_⟩
    · simp [record, Record.ofColumns]
    · have hother : (rightKey == leftKey) = false := by
        simpa using hkeys.symm
      simp [record, Record.ofColumns, List.lookup_cons, hother]

end

theorem PathToken.of_link_eq_bridge
    {naming : Naming} {token : PathToken} {left right leftKey rightKey table : String}
    (h : (token.relation naming left right).link = .bridge leftKey rightKey table) :
    leftKey = naming.bridgeKey left ∧ rightKey = naming.bridgeKey right ∧
      token.relation naming left right =
        ⟨.bridge leftKey rightKey table, leftKey, rightKey, table⟩ := by
  cases token with
  | plain entity =>
      cases h
      exact ⟨rfl, rfl, rfl⟩
  | refersToNext entity key => cases h
  | referredByNext key entity => cases h

namespace Path

/-!
# Bridges of a path
-/

/-- The domains of a path are the spelled entities of its tokens.  The two columns of a bridge on
the path differ, and so the bridge can relate two different identities, exactly if the domains on
both sides of it differ. -/
theorem bridge_keys_ne_iff
    {naming : Naming} {raw : String} {path : Path}
    (hslot : Naming.HasSlot naming.bridgeKeyFormat)
    (hpath : parse naming raw = .ok path) :
    (∃ tokens, Spelled raw tokens ∧
        path.domains = tokens.map fun token => naming.column token.entity) ∧
      ∀ (index : Nat) (relation : Relation) (leftKey rightKey table : String),
        path.relations[index]? = some relation ->
          relation.link = .bridge leftKey rightKey table ->
            ∃ left right, path.domains[index]? = some left ∧
              path.domains[index + 1]? = some right ∧
              (relation.localKey ≠ relation.foreignKey ↔ left ≠ right) ∧
              ∀ {κ : Type} {x y : κ} (before after : Stop), x ≠ y ->
                ((∃ db : Database κ, relation.link.Relates db before after x y) ↔
                  left ≠ right) := by
  rcases (of_parse_eq_ok hpath).right with ⟨tokens, hspelled, hmade⟩
  refine ⟨⟨tokens, hspelled, hmade.domains⟩, ?_⟩
  intro index relation leftKey rightKey table hrelation hlink
  rcases hmade.exists_neighbours hrelation with ⟨left, right, hleft, hright, rfl⟩
  rcases PathToken.of_link_eq_bridge hlink with ⟨hleftKey, hrightKey, heq⟩
  have hkeys : leftKey ≠ rightKey ↔ naming.column left.entity ≠ naming.column right.entity := by
    rw [hleftKey, hrightKey]
    exact not_congr (Naming.bridgeKey_eq_iff hslot)
  refine ⟨naming.column left.entity, naming.column right.entity, ?_, ?_, ?_, ?_⟩
  · rw [hmade.domains, List.getElem?_map, hleft]
    rfl
  · rw [hmade.domains, List.getElem?_map, hright]
    rfl
  · rw [heq]
    exact hkeys
  · intro κ x y before after hne
    rw [heq]
    exact (Link.exists_relates_iff hne).trans hkeys

def rolePath : Path :=
  ⟨"user,userRole,user_role", ⟨"user", "t_user"⟩,
    ⟨.bridge "user_id" "user_role_id" "a_user_and_user_role", ⟨"user_role", "t_user_role"⟩⟩,
    [⟨.bridge "user_role_id" "user_role_id" "a_user_role_and_user_role",
      ⟨"user_role", "t_user_role"⟩⟩]⟩

theorem bridge_keys_ne_iff_rolePath :
    Naming.HasSlot (Naming.bridgeKeyFormat {}) ∧
      parse {} "user,userRole,user_role" = .ok rolePath ∧
      (∃ relation, rolePath.relations[0]? = some relation ∧
        relation.localKey ≠ relation.foreignKey ∧
          ∃ db : Database Nat, relation.link.Relates db ⟨"user", "t_user"⟩
            ⟨"user_role", "t_user_role"⟩ 1 2) ∧
      ∃ relation, rolePath.relations[1]? = some relation ∧
        relation.localKey = relation.foreignKey ∧
          ¬∃ db : Database Nat, relation.link.Relates db ⟨"user_role", "t_user_role"⟩
            ⟨"user_role", "t_user_role"⟩ 1 2 := by
  have hslot : Naming.HasSlot (Naming.bridgeKeyFormat {}) :=
    ⟨[], "_id".toList, by decide +kernel⟩
  have hpath : parse {} "user,userRole,user_role" = .ok rolePath := by
    decide +kernel
  have hbridges := (bridge_keys_ne_iff hslot hpath).right
  refine ⟨hslot, hpath, ⟨_, rfl, ?_⟩, ⟨_, rfl, ?_⟩⟩
  · rcases hbridges 0 _ _ _ _ rfl rfl with ⟨left, right, hleft, hright, hkeys, hrelates⟩
    cases hleft
    cases hright
    have hne : "user" ≠ "user_role" := by
      decide
    exact ⟨hkeys.mpr hne, (hrelates _ _ (by decide)).mpr hne⟩
  · rcases hbridges 1 _ _ _ _ rfl rfl with ⟨left, right, hleft, hright, hkeys, hrelates⟩
    cases hleft
    cases hright
    refine ⟨?_, ?_⟩
    · exact Decidable.not_not.mp fun hne => hkeys.mp hne rfl
    · exact fun hdb => (hrelates _ _ (by decide)).mp hdb rfl

/-- A bridge from an entity to itself has one column for both sides, and relates no two different
identities. -/
theorem parse_ok_one_bridge_key :
    let user : Stop := ⟨"user", "t_user"⟩
    let link : Link := .bridge "user_id" "user_id" "a_user_and_user"
    Naming.HasSlot (Naming.bridgeKeyFormat {}) ∧
      parse {} "user,user" = .ok ⟨"user,user", user, ⟨link, user⟩, []⟩ ∧
      Path.relations ⟨"user,user", user, ⟨link, user⟩, []⟩ =
        [⟨link, "user_id", "user_id", "a_user_and_user"⟩] ∧
      ∀ (db : Database Nat) (x y : Nat), link.Relates db user user x y -> x = y := by
  intro user link
  refine ⟨⟨[], "_id".toList, by decide +kernel⟩, by decide +kernel, rfl, ?_⟩
  intro db x y hrelates
  exact Link.eq_of_relates_same hrelates

end Path
end Criteria
