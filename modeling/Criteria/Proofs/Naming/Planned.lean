import Criteria.Plan
import Criteria.Proofs.Naming.Alphabet

/-!
# Alphabets of planned steps

The texts of a planned step come from the field's name, its explicit column and its annotation, and
from the naming.  Where these are written in an alphabet, so are the columns, tables and keys of
the step.  Templates of conditions are not looked at.
-/

namespace Criteria

open Text

variable {p : Char -> Prop}

/-!
# Texts of fields and steps
-/

def Kind.WrittenIn (p : Char -> Prop) : Kind -> Prop
  | .path raw => Criteria.WrittenIn p raw
  | .subquery raw => Criteria.WrittenIn p raw
  | _ => True

structure FieldType.WrittenIn (p : Char -> Prop) (field : FieldType) : Prop where
  name : Criteria.WrittenIn p field.name
  column : ∀ column ∈ field.column, Criteria.WrittenIn p column
  kind : field.kind.WrittenIn p

def QueryType.WrittenIn (p : Char -> Prop) (type : QueryType) : Prop :=
  ∀ field ∈ type.fields, field.WrittenIn p

section

variable (p : Char -> Prop) [DecidablePred p]

instance : DecidablePred (Kind.WrittenIn p)
  | .path raw => inferInstanceAs (Decidable (Criteria.WrittenIn p raw))
  | .subquery raw => inferInstanceAs (Decidable (Criteria.WrittenIn p raw))
  | .scalar => isTrue trivial
  | .group _ _ => isTrue trivial
  | .condition _ => isTrue trivial
  | .flatten => isTrue trivial
  | .page => isTrue trivial
  | .unsupported _ => isTrue trivial

instance : DecidablePred (FieldType.WrittenIn p) :=
  fun field => decidable_of_iff
    (Criteria.WrittenIn p field.name ∧
      (∀ column ∈ field.column, Criteria.WrittenIn p column) ∧ field.kind.WrittenIn p)
    ⟨fun h => ⟨h.left, h.right.left, h.right.right⟩, fun h => ⟨h.name, h.column, h.kind⟩⟩

instance : DecidablePred (QueryType.WrittenIn p) :=
  fun type => inferInstanceAs (Decidable (∀ field ∈ type.fields, field.WrittenIn p))

end

structure Stop.WrittenIn (p : Char -> Prop) (stop : Stop) : Prop where
  domain : Criteria.WrittenIn p stop.domain
  table : Criteria.WrittenIn p stop.table

def Link.WrittenIn (p : Char -> Prop) : Link -> Prop
  | .bridge left right table =>
      Criteria.WrittenIn p left ∧ Criteria.WrittenIn p right ∧ Criteria.WrittenIn p table
  | .leftKey column => Criteria.WrittenIn p column
  | .rightKey column => Criteria.WrittenIn p column

instance (p : Char -> Prop) [DecidablePred p] : DecidablePred (Link.WrittenIn p)
  | .bridge left right table => inferInstanceAs
      (Decidable (Criteria.WrittenIn p left ∧ Criteria.WrittenIn p right ∧
        Criteria.WrittenIn p table))
  | .leftKey column => inferInstanceAs (Decidable (Criteria.WrittenIn p column))
  | .rightKey column => inferInstanceAs (Decidable (Criteria.WrittenIn p column))

structure Hop.WrittenIn (p : Char -> Prop) (hop : Hop) : Prop where
  link : hop.link.WrittenIn p
  stop : hop.stop.WrittenIn p

structure Path.WrittenIn (p : Char -> Prop) (path : Path) : Prop where
  root : path.root.WrittenIn p
  hops : ∀ hop ∈ path.hops, hop.WrittenIn p

def Step.WrittenIn (p : Char -> Prop) : Step -> Prop
  | .compare column _ => Criteria.WrittenIn p column
  | .group _ _ column _ => Criteria.WrittenIn p column
  | .subquery column _ select table =>
      Criteria.WrittenIn p column ∧ Criteria.WrittenIn p select ∧ Criteria.WrittenIn p table
  | .path route => route.WrittenIn p
  | _ => True

def Plan.WrittenIn (p : Char -> Prop) (plan : Plan) : Prop :=
  ∀ planned ∈ plan.fields, planned.step.WrittenIn p

theorem Hop.writtenIn_relation
    (hop : Hop)
    {left : Stop}
    (hlink : hop.link.WrittenIn p)
    (hidentity : Criteria.WrittenIn p identityColumn)
    (hleft : Criteria.WrittenIn p left.table)
    (hright : Criteria.WrittenIn p hop.stop.table) :
    Criteria.WrittenIn p (hop.relation left).localKey ∧
      Criteria.WrittenIn p (hop.relation left).foreignKey ∧
        Criteria.WrittenIn p (hop.relation left).table := by
  unfold relation
  cases hcase : hop.link with
  | bridge leftKey rightKey table =>
      rw [hcase] at hlink
      exact hlink
  | leftKey column =>
      rw [hcase] at hlink
      exact ⟨hidentity, hlink, hleft⟩
  | rightKey column =>
      rw [hcase] at hlink
      exact ⟨hlink, hidentity, hright⟩

/-!
# Columns of fields
-/

namespace FieldName

theorem of_mem_cuts
    {name : List Char} {parts : List Char × List Char}
    (h : parts ∈ cuts name) :
    name = parts.1 ++ '_' :: parts.2 ∧ parts.1 ≠ [] ∧ ∀ c ∈ parts.1, isNameChar c = true := by
  induction name generalizing parts with
  | nil => cases h
  | cons c cs ih =>
      unfold cuts at h
      split at h
      next hc =>
        rcases List.mem_append.mp h with hhere | hlater
        · split at hhere
          next rest =>
            rw [List.mem_singleton.mp hhere]
            exact ⟨rfl, List.cons_ne_nil c [], by simpa using hc⟩
          next => cases hhere
        · rcases List.mem_map.mp hlater with ⟨inner, hinner, rfl⟩
          rcases ih hinner with ⟨hcut, _, hchars⟩
          refine ⟨?_, List.cons_ne_nil c inner.1, List.forall_mem_cons.mpr ⟨hc, hchars⟩⟩
          rw [hcut]
          rfl
      next => cases h

theorem mem_of_mem_cuts
    {name : List Char} {parts : List Char × List Char} {c : Char}
    (hparts : parts ∈ cuts name)
    (hc : c ∈ parts.1) :
    c ∈ name := by
  rw [(of_mem_cuts hparts).left]
  exact List.mem_append_left _ hc

theorem writtenIn_readWith
    (hp : Alphabet p)
    (operator? : List Char -> Option Operator) (naming : Naming)
    {name : String}
    (hname : Criteria.WrittenIn p name) :
    Criteria.WrittenIn p (readWith operator? naming name).column := by
  have hnormal : ∀ c ∈ normalize name.toList, p c := by
    unfold normalize
    split
    · exact hp.applyChars .snake hname
    · exact hname
  unfold readWith
  simp only
  split
  next base operator hcut =>
    rcases List.exists_of_findSome?_eq_some hcut with ⟨parts, hparts, hsome⟩
    rcases Option.map_eq_some_iff.mp hsome with ⟨found, _, heq⟩
    cases heq
    refine Naming.WrittenIn.column hp naming ?_
    intro c hc
    rw [String.toList_ofList] at hc
    exact hnormal c (mem_of_mem_cuts hparts hc)
  next =>
    refine Naming.WrittenIn.column hp naming ?_
    intro c hc
    rw [String.toList_ofList] at hc
    exact hnormal c hc

end FieldName

/-!
# Paths
-/

def PathToken.WrittenIn (p : Char -> Prop) : PathToken -> Prop
  | .plain entity => Criteria.WrittenIn p entity
  | .refersToNext entity key => Criteria.WrittenIn p entity ∧ Criteria.WrittenIn p key
  | .referredByNext key entity => Criteria.WrittenIn p entity ∧ Criteria.WrittenIn p key

namespace PathToken

theorem WrittenIn.entity
    {token : PathToken}
    (h : token.WrittenIn p) :
    Criteria.WrittenIn p token.entity := by
  cases token with
  | plain entity => exact h
  | refersToNext entity key => exact h.left
  | referredByNext key entity => exact h.left

theorem cut_subset
    (token : List Char) :
    (cut token).1 ⊆ token ∧ ∀ key ∈ (cut token).2, key.2 ⊆ token := by
  unfold cut
  split
  next parts hparts =>
    have hcut := cutFirst?_eq_append hparts
    constructor
    · intro c hc
      rw [hcut]
      simp [trimChars_subset parts.1 hc]
    · intro key hkey c hc
      cases hkey
      rw [hcut]
      simp [trimChars_subset parts.2 hc]
  next =>
    split
    next parts hparts =>
      have hcut := cutFirst?_eq_append hparts
      constructor
      · intro c hc
        rw [hcut]
        simp [trimChars_subset parts.2 hc]
      · intro key hkey c hc
        cases hkey
        rw [hcut]
        simp [trimChars_subset parts.1 hc]
    next => exact ⟨List.Subset.refl token, by simp⟩

theorem writtenIn_read
    {piece : List Char} {token : PathToken}
    (hpiece : ∀ c ∈ piece, p c)
    (h : read piece = .ok token) :
    token.WrittenIn p := by
  have hof : ∀ {cs : List Char}, cs ⊆ piece -> Criteria.WrittenIn p (String.ofList cs) := by
    intro cs hsubset c hc
    rw [String.toList_ofList] at hc
    exact hpiece c (hsubset hc)
  rcases cut_subset piece with ⟨hentity, hkey⟩
  unfold read at h
  split at h
  · cases h
  · simp only at h
    split at h
    · cases h
    · split at h
      · cases h
      · split at h
        · cases hcut : (cut piece).2 with
          | none =>
              rw [hcut] at h
              cases h
              exact hof hentity
          | some side =>
              obtain ⟨right, key⟩ := side
              rw [hcut] at h
              cases right with
              | true =>
                  cases h
                  exact ⟨hof hentity, hof (hkey _ hcut)⟩
              | false =>
                  cases h
                  exact ⟨hof hentity, hof (hkey _ hcut)⟩
        · cases h

end PathToken

section

variable {naming : Naming}

theorem Stop.writtenIn_ofToken
    (hp : Alphabet p)
    (hnaming : naming.WrittenIn p)
    {token : PathToken}
    (h : token.WrittenIn p) :
    (ofToken naming token).WrittenIn p := by
  have hdomain := Naming.WrittenIn.column hp naming h.entity
  exact ⟨hdomain, hnaming.domainTable hdomain⟩

theorem Link.writtenIn_ofToken
    (hp : Alphabet p)
    (hnaming : naming.WrittenIn p)
    {token : PathToken} {left right : Stop}
    (h : token.WrittenIn p)
    (hleft : left.WrittenIn p)
    (hright : right.WrittenIn p) :
    (ofToken naming token left right).WrittenIn p := by
  cases token with
  | plain entity =>
      exact ⟨hnaming.bridgeKey hleft.domain, hnaming.bridgeKey hright.domain,
        hnaming.bridgeTable hleft.domain hright.domain⟩
  | refersToNext entity key => exact Naming.WrittenIn.column hp naming h.right
  | referredByNext key entity => exact Naming.WrittenIn.column hp naming h.right

theorem Path.writtenIn_readHops
    (hp : Alphabet p)
    (hnaming : naming.WrittenIn p)
    {pieces : List (List Char)} {token : PathToken} {stop : Stop} {hops : List Hop}
    (hpieces : ∀ piece ∈ pieces, ∀ c ∈ piece, p c)
    (htoken : token.WrittenIn p)
    (hstop : stop.WrittenIn p)
    (h : readHops naming token stop pieces = .ok hops) :
    ∀ hop ∈ hops, hop.WrittenIn p := by
  induction pieces generalizing token stop hops with
  | nil =>
      unfold readHops at h
      split at h
      · cases h
        simp
      · cases h
  | cons piece pieces ih =>
      unfold readHops at h
      cases hread : PathToken.read piece with
      | error fault =>
          rw [hread] at h
          cases h
      | ok next =>
          rw [hread] at h
          have hnext := PathToken.writtenIn_read (hpieces piece List.mem_cons_self) hread
          have hnextStop := Stop.writtenIn_ofToken hp hnaming hnext
          cases hrest : readHops naming next (Stop.ofToken naming next) pieces with
          | error fault =>
              simp only [bind, Except.bind, hrest] at h
              cases h
          | ok others =>
              simp only [bind, Except.bind, hrest] at h
              cases h
              intro hop hhop
              rcases List.mem_cons.mp hhop with hfirst | hlater
              · rw [hfirst]
                exact ⟨Link.writtenIn_ofToken hp hnaming htoken hstop hnextStop, hnextStop⟩
              · exact ih (fun other hother => hpieces other (List.mem_cons_of_mem piece hother))
                  hnext hnextStop hrest hop hlater

theorem Path.writtenIn_readPieces
    (hp : Alphabet p)
    (hnaming : naming.WrittenIn p)
    {raw : String} {piece second : List Char} {pieces : List (List Char)} {path : Path}
    (hpiece : ∀ c ∈ piece, p c)
    (hpieces : ∀ other ∈ second :: pieces, ∀ c ∈ other, p c)
    (h : readPieces naming raw piece second pieces = .ok path) :
    path.WrittenIn p := by
  unfold readPieces at h
  cases hread : PathToken.read piece with
  | error fault =>
      rw [hread] at h
      cases h
  | ok token =>
      have htoken := PathToken.writtenIn_read hpiece hread
      have hroot := Stop.writtenIn_ofToken hp hnaming htoken
      -- what follows the first token is read as the hops of a path that begins at the second
      have hhops : ∃ hops, readHops naming token (Stop.ofToken naming token) (second :: pieces) =
          .ok hops ∧ path.root = Stop.ofToken naming token ∧ path.hops = hops := by
        unfold readHops
        cases hsecond : PathToken.read second with
        | error fault =>
            simp only [bind, Except.bind, hread, hsecond] at h
            cases h
        | ok next =>
            cases hrest : readHops naming next (Stop.ofToken naming next) pieces with
            | error fault =>
                simp only [bind, Except.bind, hread, hsecond, hrest] at h
                cases h
            | ok others =>
                simp only [bind, Except.bind, hread, hsecond, hrest] at h
                cases h
                refine ⟨⟨Link.ofToken naming token (Stop.ofToken naming token)
                  (Stop.ofToken naming next), Stop.ofToken naming next⟩ :: others, ?_, rfl, rfl⟩
                simp only [bind, Except.bind, hrest]
                rfl
      rcases hhops with ⟨hops, hreadHops, hrootEq, hhopsEq⟩
      constructor
      · rwa [hrootEq]
      · rw [hhopsEq]
        exact writtenIn_readHops hp hnaming hpieces htoken hroot hreadHops

theorem Path.writtenIn_parse
    (hp : Alphabet p)
    (hnaming : naming.WrittenIn p)
    {raw : String} {path : Path}
    (hraw : Criteria.WrittenIn p raw)
    (h : parse naming raw = .ok path) :
    path.WrittenIn p := by
  have hpieces : ∀ piece ∈ (split ',' raw.toList).map trimChars, ∀ c ∈ piece, p c := by
    intro piece hpiece c hc
    rcases List.mem_map.mp hpiece with ⟨whole, hwhole, htrim⟩
    rw [← htrim] at hc
    exact hraw c (mem_of_mem_splitWhere hwhole (trimChars_subset whole hc))
  unfold parse at h
  split at h
  next piece second pieces hsplit =>
    rw [hsplit] at hpieces
    split at h
    next found hfound =>
      cases h
      exact writtenIn_readPieces hp hnaming (hpieces piece List.mem_cons_self)
        (fun other hother => hpieces other (List.mem_cons_of_mem piece hother)) hfound
    next => cases h
  next => cases h

/-!
# Subqueries
-/

theorem Subquery.writtenIn_parse
    {raw : String} {spec : Subquery}
    (hraw : Criteria.WrittenIn p raw)
    (h : parse raw = .ok spec) :
    Criteria.WrittenIn p spec.select ∧ Criteria.WrittenIn p spec.source := by
  unfold parse at h
  split at h
  next parts hparts =>
    cases h
    unfold parts? at hparts
    split at hparts
    · cases hparts
    next body hbody =>
      split at hparts
      · cases hparts
      next cut hcut =>
        simp only at hparts
        split at hparts
        · cases hparts
        · cases hparts
          have hsubset : body ⊆ raw.toList := by
            intro c hc
            apply trimChars_subset
            rw [dropStart?_eq_some_iff.mp hbody]
            exact List.mem_append_right _ hc
          have hcutEq := cutLast?_eq_append hcut
          constructor
          · refine hraw.of_subset fun c hc => hsubset ?_
            rw [hcutEq]
            simp [trimChars_subset cut.1 hc]
          · refine hraw.of_subset fun c hc => hsubset ?_
            rw [hcutEq]
            simp [trimChars_subset cut.2 hc]
  next => cases h

theorem Subquery.writtenIn_table
    (hp : Alphabet p)
    (hnaming : naming.WrittenIn p)
    {spec : Subquery}
    (h : Criteria.WrittenIn p spec.source) :
    Criteria.WrittenIn p (spec.table naming) := by
  unfold table
  split
  · split
    · exact hnaming.entityTable hp h
    · exact h
  · exact h

/-!
# Steps and plans
-/

theorem FieldType.WrittenIn.columnOr
    {field : FieldType} {column : String}
    (h : field.WrittenIn p)
    (hcolumn : Criteria.WrittenIn p column) :
    Criteria.WrittenIn p (field.column.getD column) := by
  cases hfield : field.column with
  | none => exact hcolumn
  | some explicit => exact h.column explicit hfield

theorem Connective.writtenIn_ofName?
    {name : String}
    (hname : Criteria.WrittenIn p name) :
    Criteria.WrittenIn p (((ofName? name).map Prod.snd).getD name) := by
  have hbefore : ∀ {ending base : List Char}, dropEnd? ending name.toList = some base ->
      Criteria.WrittenIn p (String.ofList base) := by
    intro ending base hdrop
    refine hname.of_subset ?_
    rw [dropEnd?_eq_some_iff.mp hdrop]
    exact List.subset_append_left _ _
  unfold ofName?
  simp only
  split
  next base hdrop => exact hbefore hdrop
  next base _ hdrop => exact hbefore hdrop
  next =>
    split
    next hdrop => exact hbefore hdrop
    next hdrop _ => exact hbefore hdrop
    next => exact hname

theorem Step.writtenIn_ofField
    (hp : Alphabet p)
    (hnaming : naming.WrittenIn p)
    {typeName : String} {field : FieldType} {step : Step}
    (hfield : field.WrittenIn p)
    (h : ofField naming typeName field = .ok step) :
    step.WrittenIn p := by
  have hkind := hfield.kind
  unfold ofField at h
  cases hcase : field.kind with
  | page =>
      rw [hcase] at h
      cases h
      trivial
  | unsupported reason =>
      rw [hcase] at h
      cases h
  | flatten =>
      rw [hcase] at h
      cases h
      trivial
  | scalar =>
      rw [hcase] at h
      cases h
      exact hfield.columnOr (FieldName.writtenIn_readWith hp _ naming hfield.name)
  | group connective members =>
      rw [hcase] at h
      cases h
      exact hfield.columnOr
        (FieldName.writtenIn_readWith hp _ naming (Connective.writtenIn_ofName? hfield.name))
  | condition template =>
      rw [hcase] at h
      cases h
      trivial
  | subquery raw =>
      rw [hcase] at h hkind
      simp only [ofSubquery] at h
      split at h
      · cases h
      next spec hspec =>
        rcases Subquery.writtenIn_parse hkind hspec with ⟨hselect, hsource⟩
        split at h
        · cases h
        · cases h
          exact ⟨hfield.columnOr (FieldName.writtenIn_readWith hp _ naming hfield.name), hselect,
            Subquery.writtenIn_table hp hnaming hsource⟩
  | path raw =>
      rw [hcase] at h hkind
      cases hparse : Path.parse naming raw with
      | error fault =>
          simp only [hparse] at h
          cases h
      | ok route =>
          simp only [hparse] at h
          cases h
          exact Path.writtenIn_parse hp hnaming hkind hparse

theorem Plan.writtenIn_build
    (hp : Alphabet p)
    (hnaming : naming.WrittenIn p)
    {type : QueryType}
    (htype : type.WrittenIn p) :
    (build naming type).WrittenIn p := by
  intro planned hplanned
  rcases List.mem_map.mp hplanned with ⟨field, hfield, heq⟩
  rw [← heq]
  cases hstep : Step.ofField naming type.name field with
  | ok step => exact Step.writtenIn_ofField hp hnaming (htype field hfield) hstep
  | error fault => trivial

end
end Criteria
