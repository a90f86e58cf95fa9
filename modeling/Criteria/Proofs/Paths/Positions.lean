import Criteria.Path.Selection
import Criteria.Proofs.Paths.Tokens

/-!
# Positions on a path

The stops and hops of a path that is read stand in the order of its tokens: a stop for each token,
and between each two of them the relation that the left one's key asks for.

A path is compiled from its end by numbers: the last stop, then the hops down to the first.  All
numbers that are used this way belong to a stop or a hop, and the condition is the one that the
recursion on the hops gives.
-/

namespace Criteria

open Text

namespace Path

/-!
# Stops and relations of tokens
-/

section

variable {naming : Naming}

theorem map_stop_hopsOf
    (naming : Naming) (token : PathToken) (tokens : List PathToken) :
    (hopsOf naming token tokens).map Hop.stop = tokens.map (Stop.ofToken naming) := by
  induction tokens generalizing token with
  | nil => rfl
  | cons next tokens ih => rw [hopsOf, List.map_cons, ih, List.map_cons]

theorem length_relationsFrom
    (left : Stop) (hops : List Hop) :
    (relationsFrom left hops).length = hops.length := by
  induction hops generalizing left with
  | nil => rfl
  | cons hop hops ih => rw [relationsFrom, List.length_cons, ih, List.length_cons]

theorem relationsFrom_getElem?
    {left stop : Stop} {hops : List Hop} {hop : Hop} {index : Nat}
    (hhop : hops[index]? = some hop)
    (hstop : (left :: hops.map Hop.stop)[index]? = some stop) :
    (relationsFrom left hops)[index]? = some (hop.relation stop) := by
  induction hops generalizing left index with
  | nil => cases hhop
  | cons first hops ih =>
      cases index with
      | zero =>
          cases hhop
          cases hstop
          rfl
      | succ index => exact ih hhop hstop

theorem relation_hopsOf
    {token before : PathToken} {tokens : List PathToken} {next : PathToken} {index : Nat}
    (hbefore : (token :: tokens)[index]? = some before)
    (hnext : (token :: tokens)[index + 1]? = some next) :
    (relationsFrom (Stop.ofToken naming token) (hopsOf naming token tokens))[index]? =
      some (before.relation naming (naming.column before.entity)
        (naming.column next.entity)) := by
  induction index generalizing token tokens with
  | zero =>
      cases hbefore
      cases tokens with
      | nil => cases hnext
      | cons second tokens =>
          cases hnext
          cases before <;> rfl
  | succ index ih =>
      cases tokens with
      | nil => cases hbefore
      | cons second tokens => exact ih hbefore hnext

end

end Path

/-!
# Compiling by numbers
-/

def Relation.project (relation : Relation) (inner : IdSet) : Fragment :=
  let unfolded :=
    selectFrom relation.localKey relation.table ++
      .text (" WHERE " ++ relation.foreignKey ++ " IN (") ++ inner.fragment ++ .text ")"
  match relation.link, inner with
  | .rightKey _, .rows table filter =>
      if table = relation.table then
        selectFrom relation.localKey relation.table ++ filter.asWhere
      else
        unfolded
  | _, _ => unfolded

namespace Path

def projectAt? (path : Path) (step : Nat) (inner : IdSet) : Option Fragment :=
  path.relations[step]?.map fun relation => relation.project inner

def narrowAt? (path : Path) (filters : Filters) (step : Nat) (selected : Fragment) :
    Option Fragment :=
  let filter := filterAt filters step
  if filter.isEmpty then
    some selected
  else
    path.tables[step]?.map fun table =>
      selected ++ .text " INTERSECT " ++ selectFrom identityColumn table ++ filter.asWhere

/-- The steps down to the first stop after the root, given the identities at the stop after `step`.
There is no result if a step has no relation or, with a filter, no table. -/
def descend? (path : Path) (filters : Filters) : Nat -> IdSet -> Option IdSet
  | 0, inner => some inner
  | step + 1, inner => do
      let selected ← path.projectAt? (step + 1) inner
      let narrowed ← path.narrowAt? filters (step + 1) selected
      path.descend? filters step (.selection narrowed)

/-- The condition on a root entity, from the last stop by numbers. -/
def compileAt? (path : Path) (filters : Filters) : Option Fragment := do
  let last := path.stops.length - 1
  let table ← path.tables[last]?
  let inner ← path.descend? filters (last - 1) (.rows table (filterAt filters last))
  match path.relations.head? with
  | some ⟨.leftKey _, _, foreignKey, _⟩ =>
      return .text (foreignKey ++ " IN (") ++ inner.fragment ++ .text ")"
  | _ =>
      let selected ← path.projectAt? 0 inner
      return .text (identityColumn ++ " IN (") ++ selected ++ .text ")"

section

variable {filters : Filters}

theorem table_of_idsAt
    {index : Nat} {stop : Stop} {hops : List Hop} {table : String} {filter : Fragment}
    (h : idsAt filters index stop hops = .rows table filter) :
    table = stop.table := by
  cases hops with
  | nil =>
      cases h
      rfl
  | cons hop hops => cases h

theorem project_relation
    (hop : Hop) (left : Stop)
    {inner : IdSet}
    (hinner : ∀ table filter, inner = .rows table filter -> table = hop.stop.table) :
    (hop.relation left).project inner = hop.project left inner := by
  rcases hop with ⟨link, stop⟩
  cases link with
  | bridge leftKey rightKey table => rfl
  | leftKey column => rfl
  | rightKey column =>
      cases inner with
      | selection fragment => rfl
      | rows table filter =>
          have htable : table = stop.table := hinner table filter rfl
          cases htable
          exact if_pos rfl

theorem stops_getElem?_succ
    (path : Path) (index : Nat) :
    path.stops[index + 1]? = path.hops[index]?.map Hop.stop := by
  unfold stops
  rw [List.getElem?_cons_succ, List.getElem?_map]

theorem projectAt?_idsAt
    {path : Path} {index : Nat} {hop : Hop} {left : Stop} {hops : List Hop}
    (hhop : path.hops[index]? = some hop)
    (hleft : path.stops[index]? = some left) :
    path.projectAt? index (idsAt filters (index + 1) hop.stop hops) =
      some (hop.project left (idsAt filters (index + 1) hop.stop hops)) := by
  have hrelation : path.relations[index]? = some (hop.relation left) :=
    relationsFrom_getElem? hhop hleft
  unfold projectAt?
  rw [hrelation, Option.map_some, project_relation hop left]
  intro table filter hrows
  exact table_of_idsAt hrows

theorem narrowAt?_eq
    {path : Path} {index : Nat} {stop : Stop}
    (hstop : path.stops[index]? = some stop)
    (selected : Fragment) :
    path.narrowAt? filters index selected =
      some (narrow selected stop (filterAt filters index)) := by
  have htable : path.tables[index]? = some stop.table := by
    unfold tables
    rw [List.getElem?_map, hstop]
    rfl
  unfold narrowAt? narrow
  dsimp only
  rw [htable]
  split <;> rfl

theorem descend?_idsAt
    {path : Path} {step : Nat} {stop : Stop}
    (hstop : path.stops[step + 1]? = some stop) :
    path.descend? filters step
        (idsAt filters (step + 1) stop (path.hops.drop (step + 1))) =
      some (idsAt filters 1 path.first.stop path.rest) := by
  induction step generalizing stop with
  | zero =>
      cases hstop
      rfl
  | succ step ih =>
      rw [stops_getElem?_succ] at hstop
      rcases Option.map_eq_some_iff.mp hstop with ⟨hop, hhop, rfl⟩
      rcases List.getElem?_eq_some_iff.mp hhop with ⟨hlength, hget⟩
      have hdrop : path.hops.drop (step + 1) = hop :: path.hops.drop (step + 2) := by
        rw [List.drop_eq_getElem_cons hlength, hget]
      have hleft : ∃ left, path.stops[step + 1]? = some left := by
        rw [stops_getElem?_succ, List.getElem?_eq_getElem (Nat.lt_of_succ_lt hlength)]
        exact ⟨_, rfl⟩
      rcases hleft with ⟨left, hleft⟩
      have hlater := ih hleft
      rw [hdrop] at hlater
      rw [descend?, projectAt?_idsAt hhop hleft]
      simp only [Option.bind_eq_bind, Option.bind_some]
      rw [narrowAt?_eq hleft]
      exact hlater

theorem compileAt?_eq
    (path : Path) (filters : Filters) :
    path.compileAt? filters = some (path.compile filters) := by
  have hlength : path.stops.length = path.rest.length + 2 := by
    simp [stops, hops]
  have hstop : ∃ stop, path.stops[path.rest.length + 1]? = some stop := by
    apply Option.ne_none_iff_exists'.mp
    intro hnone
    have hle := List.getElem?_eq_none_iff.mp hnone
    omega
  rcases hstop with ⟨stop, hstop⟩
  have htable : path.tables[path.rest.length + 1]? = some stop.table := by
    unfold tables
    rw [List.getElem?_map, hstop]
    rfl
  have hdrop : path.hops.drop (path.rest.length + 1) = [] := by
    simp [hops]
  have hdescend : path.descend? filters path.rest.length
      (idsAt filters (path.rest.length + 1) stop (path.hops.drop (path.rest.length + 1))) =
        some (idsAt filters 1 path.first.stop path.rest) :=
    descend?_idsAt hstop
  rw [hdrop, idsAt] at hdescend
  have hfirst : path.projectAt? 0 (idsAt filters 1 path.first.stop path.rest) =
      some (path.first.project path.root (idsAt filters 1 path.first.stop path.rest)) :=
    projectAt?_idsAt rfl rfl
  have hhead : path.relations.head? = some (path.first.relation path.root) := rfl
  have hlast : path.stops.length - 1 = path.rest.length + 1 := by
    rw [hlength]
    rfl
  unfold compileAt? compile
  simp only [hlast, Nat.add_sub_cancel, htable, hdescend, hhead, hfirst, Option.bind_eq_bind,
    Option.bind_some]
  unfold Hop.relation
  cases path.first.link with
  | bridge leftKey rightKey table => rfl
  | leftKey column => rfl
  | rightKey column => rfl

end

/-!
# Reading exactly
-/

/-- What a path holds of its tokens, in their order. -/
structure MadeOf (naming : Naming) (path : Path) (tokens : List PathToken) : Prop where
  domains : path.domains = tokens.map fun token => naming.column token.entity
  tables : path.tables = path.domains.map naming.domainTable
  length : path.relations.length + 1 = tokens.length
  relations : ∀ {index : Nat} {token : PathToken} {left right : String},
    tokens[index]? = some token -> path.domains[index]? = some left ->
      path.domains[index + 1]? = some right ->
        path.relations[index]? = some (token.relation naming left right)

theorem MadeOf.exists_neighbours
    {naming : Naming} {path : Path} {tokens : List PathToken} {index : Nat} {relation : Relation}
    (h : MadeOf naming path tokens)
    (hrelation : path.relations[index]? = some relation) :
    ∃ left right, tokens[index]? = some left ∧ tokens[index + 1]? = some right ∧
      relation = left.relation naming (naming.column left.entity) (naming.column right.entity) := by
  rcases List.getElem?_eq_some_iff.mp hrelation with ⟨hlt, _⟩
  have hlength := h.length
  have hleft := List.getElem?_eq_getElem (l := tokens) (i := index) (by omega)
  have hright := List.getElem?_eq_getElem (l := tokens) (i := index + 1) (by omega)
  refine ⟨_, _, hleft, hright, ?_⟩
  have hfound := h.relations hleft
    (by rw [h.domains, List.getElem?_map, hleft]; rfl)
    (by rw [h.domains, List.getElem?_map, hright]; rfl)
  rw [hrelation] at hfound
  exact Option.some.inj hfound

theorem madeOf_of_hops
    {naming : Naming} {path : Path} {token : PathToken} {tokens : List PathToken}
    (hroot : path.root = Stop.ofToken naming token)
    (hhops : path.hops = hopsOf naming token tokens) :
    MadeOf naming path (token :: tokens) := by
  have hstops : path.stops = (token :: tokens).map (Stop.ofToken naming) := by
    rw [stops, hhops, map_stop_hopsOf, hroot, List.map_cons]
  have hdomains : path.domains =
      (token :: tokens).map fun token => naming.column token.entity := by
    rw [domains, hstops, List.map_map]
    rfl
  constructor
  case domains => exact hdomains
  case tables =>
    rw [tables, domains, hstops, List.map_map, List.map_map, List.map_map]
    rfl
  case length =>
    have hlength := congrArg List.length (map_stop_hopsOf naming token tokens)
    rw [List.length_map, List.length_map] at hlength
    rw [relations, length_relationsFrom, hhops, hlength, List.length_cons]
  case relations =>
    intro index before left right hbefore hleft hright
    rw [hdomains, List.getElem?_map, hbefore] at hleft
    rw [hdomains, List.getElem?_map] at hright
    rcases Option.map_eq_some_iff.mp hright with ⟨next, hnext, rfl⟩
    cases hleft
    rw [relations, hroot, hhops]
    exact relation_hopsOf hbefore hnext

theorem of_parse_eq_ok
    {naming : Naming} {raw : String} {path : Path}
    (h : parse naming raw = .ok path) :
    path.raw = raw ∧ ∃ tokens, Spelled raw tokens ∧ MadeOf naming path tokens := by
  have hcomma : ',' ∈ raw.toList := by
    by_cases hin : ',' ∈ raw.toList
    · exact hin
    · rw [parse_of_no_comma naming hin] at h
      cases h
  rcases (parse_eq_ok_iff hcomma).mp h with ⟨token, tokens, hspelled, hraw, hroot, hhops⟩
  exact ⟨hraw, token :: tokens, hspelled, madeOf_of_hops hroot hhops⟩

/-- A path is too short exactly without a comma.  With one, it is read exactly if each of its pieces
spells a token and the last one has no key, and it is made of these tokens. -/
theorem parse_exact
    (naming : Naming) (raw : String) :
    (parse naming raw = .error (.shortPath raw) ↔ ',' ∉ raw.toList) ∧
      (',' ∈ raw.toList -> ∀ fault, parse naming raw = .error fault ->
        ∃ reason, fault = .path raw reason) ∧
        (',' ∈ raw.toList ->
          ((∃ path, parse naming raw = .ok path) ↔ ∃ tokens, Spelled raw tokens)) ∧
          ∀ path, parse naming raw = .ok path ->
            path.raw = raw ∧ (∃ tokens, Spelled raw tokens ∧ MadeOf naming path tokens) ∧
              ∀ filters, path.compileAt? filters = some (path.compile filters) := by
  refine ⟨⟨?_, parse_of_no_comma naming⟩, ?_, ?_, ?_⟩
  · intro hshort hcomma
    rcases reason_of_comma hcomma hshort with ⟨reason, hreason⟩
    cases hreason
  · intro hcomma fault hfault
    exact reason_of_comma hcomma hfault
  · exact exists_parse_iff naming
  · intro path hpath
    rcases of_parse_eq_ok hpath with ⟨hraw, hmade⟩
    exact ⟨hraw, hmade, compileAt?_eq path⟩

/-- What stands before an arrow is no entity if it ends in a blank, and the path is read anyway. -/
theorem parse_ok_blank_before_arrow :
    let raw := "menu -> parent_id,menu"
    (∃ path, parse {} raw = .ok path) ∧
      ¬∀ piece ∈ pieces raw,
        PathToken.EntityName piece ∨
          (∃ before after, FirstCut PathToken.rightArrow piece before after ∧
            PathToken.EntityName before ∧ trimChars after ≠ []) ∨
          (∀ front rest, piece ≠ front ++ PathToken.rightArrow ++ rest) ∧
            ∃ before after, FirstCut PathToken.leftArrow piece before after ∧
              trimChars before ≠ [] ∧ PathToken.EntityName after := by
  intro raw
  let menu : Stop := ⟨"menu", "t_menu"⟩
  refine ⟨⟨⟨raw, menu, ⟨.leftKey "parent_id", menu⟩, []⟩, by decide +kernel⟩, ?_⟩
  intro hall
  have hblank : ∀ {name : List Char}, ' ' ∈ name -> ¬PathToken.EntityName name := by
    intro name hin hname
    cases hname.chars ' ' hin
  rcases hall "menu -> parent_id".toList (by decide +kernel) with
    hname | ⟨before, after, hcut, hname, _⟩ | ⟨hno, _⟩
  · exact hblank (by decide +kernel) hname
  · have hmenu : cutFirst? PathToken.rightArrow "menu -> parent_id".toList =
        some ("menu ".toList, " parent_id".toList) := by
      decide +kernel
    rw [cutFirst?_eq_some_iff.mpr hcut] at hmenu
    cases hmenu
    exact hblank (by decide +kernel) hname
  · exact hno "menu ".toList " parent_id".toList rfl

end Path
end Criteria
