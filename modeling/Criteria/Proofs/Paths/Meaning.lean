import Mathlib.Data.List.Nodup
import Mathlib.Data.Option.Basic
import Criteria.Proofs.Paths.Condition

/-!
# What a compiled path means

The condition of a path is true of a root record exactly if a chain of identities leads from the
record to the target: neighbours are related by their hop, the last identity is that of a record of
the target's table that passes the target's filter, and where a stop on the way has a filter, its
identity is that of a record that passes it.

The condition is built hop by hop from the end, so the chain is first described by recursion on the
hops, and then read off by position.
-/

namespace Criteria

variable {κ : Type}

/-!
# Chains of identities
-/

def Database.Identifies (db : Database κ) (table : String) (filter? : Option (RowFilter κ))
    (x : κ) : Prop :=
  ∃ record ∈ db.records table,
    record identityColumn = some x ∧ ∀ filter ∈ filter?, filter.truth record = some true

structure Database.Keyed (db : Database κ) (table : String) : Prop where
  identified : ∀ record ∈ db.records table, ∃ x, record identityColumn = some x
  unique : ∀ record ∈ db.records table, ∀ other ∈ db.records table,
    record identityColumn = other identityColumn -> record = other

/-- A record of the bridge table has both identities; or the left record refers to the right one;
or the right record refers to the left one. -/
def Link.Relates (db : Database κ) (left right : Stop) (x y : κ) : Link -> Prop
  | .bridge leftColumn rightColumn table =>
      ∃ record ∈ db.records table, record leftColumn = some x ∧ record rightColumn = some y
  | .leftKey column =>
      ∃ record ∈ db.records left.table, record identityColumn = some x ∧ record column = some y
  | .rightKey column =>
      ∃ record ∈ db.records right.table, record identityColumn = some y ∧ record column = some x

/-- The identities of the stops of a path, from the root to the target. -/
structure Path.Chain (db : Database κ) (path : Path) (filters : RowFilters κ) (ids : Nat -> κ) :
    Prop where
  related : ∀ (index : Nat) (left right : Stop) (hop : Hop),
    path.stops[index]? = some left -> path.stops[index + 1]? = some right ->
      path.hops[index]? = some hop ->
        hop.link.Relates db left right (ids index) (ids (index + 1))
  reaches : db.Identifies path.target.table (filters.at? path.length) (ids path.length)
  passes : ∀ (index : Nat) (stop : Stop), 0 < index -> index < path.length ->
    path.stops[index]? = some stop ->
      ∀ filter ∈ filters.at? index, db.Identifies stop.table (some filter) (ids index)

/-!
# Chains by recursion
-/

def Hop.Reach (db : Database κ) (filters : RowFilters κ) : Nat -> Stop -> List Hop -> κ -> Prop
  | index, stop, [], x => db.Identifies stop.table (filters.at? index) x
  | index, stop, hop :: hops, x =>
      (∃ y, hop.link.Relates db stop hop.stop x y ∧
        Hop.Reach db filters (index + 1) hop.stop hops y) ∧
      ∀ filter ∈ filters.at? index, db.Identifies stop.table (some filter) x

theorem Path.table_of_identitiesAt
    {filters : RowFilters κ} {index : Nat} {stop : Stop} {hops : List Hop}
    {table : String} {filter? : Option (RowFilter κ)}
    (h : identitiesAt filters index stop hops = .records table filter?) :
    table = stop.table := by
  cases hops with
  | nil =>
      cases h
      rfl
  | cons hop hops => cases h

section

variable [DecidableEq κ] {db : Database κ}

theorem Selection.mem_ofTable
    {column table : String} {filter? : Option (RowFilter κ)} {value : Option κ} :
    value ∈ (Selection.ofTable column table filter?).values db ↔
      ∃ record ∈ db.records table,
        (∀ filter ∈ filter?, filter.truth record = some true) ∧ record column = value := by
  cases filter? with
  | none => simp [Selection.ofTable, Selection.mem_all]
  | some filter => simp [Selection.ofTable, Selection.mem_matching, Condition.truth]

theorem Database.mem_identities_iff
    {table : String} {filter? : Option (RowFilter κ)} {x : κ} :
    some x ∈ (Selection.ofTable identityColumn table filter?).values db ↔
      db.Identifies table filter? x := by
  rw [Selection.mem_ofTable]
  constructor
  · intro h
    rcases h with ⟨record, hrecord, hfilter, hid⟩
    exact ⟨record, hrecord, hid, hfilter⟩
  · intro h
    rcases h with ⟨record, hrecord, hid, hfilter⟩
    exact ⟨record, hrecord, hfilter, hid⟩

theorem Hop.mem_unfolded
    {hop : Hop} {left : Stop} {inner : Selection κ} {x : κ} :
    some x ∈ (hop.unfolded left inner).values db ↔
      ∃ y, hop.link.Relates db left hop.stop x y ∧ some y ∈ inner.values db := by
  unfold Hop.unfolded
  rw [Selection.mem_matching]
  simp only [Condition.isIn_eq_true_iff, Hop.relation]
  cases hop.link with
  | bridge leftKey rightKey table =>
      constructor
      · intro h
        rcases h with ⟨record, hrecord, ⟨y, hright, hy⟩, hleft⟩
        exact ⟨y, ⟨record, hrecord, hleft, hright⟩, hy⟩
      · intro h
        rcases h with ⟨y, ⟨record, hrecord, hleft, hright⟩, hy⟩
        exact ⟨record, hrecord, ⟨y, hright, hy⟩, hleft⟩
  | leftKey column =>
      constructor
      · intro h
        rcases h with ⟨record, hrecord, ⟨y, hkey, hy⟩, hid⟩
        exact ⟨y, ⟨record, hrecord, hid, hkey⟩, hy⟩
      · intro h
        rcases h with ⟨y, ⟨record, hrecord, hid, hkey⟩, hy⟩
        exact ⟨record, hrecord, ⟨y, hkey, hy⟩, hid⟩
  | rightKey column =>
      constructor
      · intro h
        rcases h with ⟨record, hrecord, ⟨y, hid, hy⟩, hkey⟩
        exact ⟨y, ⟨record, hrecord, hid, hkey⟩, hy⟩
      · intro h
        rcases h with ⟨y, ⟨record, hrecord, hid, hkey⟩, hy⟩
        exact ⟨record, hrecord, ⟨y, hid, hy⟩, hkey⟩

/-- In a keyed table the key of a filtered record can be read at once, without a test of its
identity. -/
theorem Database.Keyed.mem_folded_iff
    {table : String}
    (h : db.Keyed table)
    (column : String) (filter? : Option (RowFilter κ)) (value : Option κ) :
    value ∈ (Selection.ofTable column table filter?).values db ↔
      value ∈ (Selection.matching column table
        (.isIn identityColumn (.ofTable identityColumn table filter?))).values db := by
  rw [Selection.mem_ofTable, Selection.mem_matching]
  simp only [Condition.isIn_eq_true_iff, Database.mem_identities_iff]
  constructor
  · intro hfolded
    rcases hfolded with ⟨record, hrecord, hfilter, hvalue⟩
    rcases h.identified record hrecord with ⟨x, hx⟩
    exact ⟨record, hrecord, ⟨x, hx, record, hrecord, hx, hfilter⟩, hvalue⟩
  · intro hunfolded
    rcases hunfolded with ⟨record, hrecord, ⟨x, hx, other, hother, hid, hfilter⟩, hvalue⟩
    have hsame : record = other := h.unique record hrecord other hother (hx.trans hid.symm)
    rw [← hsame] at hfilter
    exact ⟨record, hrecord, hfilter, hvalue⟩

theorem Hop.mem_leftOf
    {hop : Hop} {left : Stop} {inner : Identities κ} {x : κ}
    (htable : ∀ {table : String} {filter? : Option (RowFilter κ)},
      inner = .records table filter? -> table = hop.stop.table)
    (hkeyed : db.Keyed hop.stop.table) :
    some x ∈ (hop.leftOf left inner).values db ↔
      ∃ y, hop.link.Relates db left hop.stop x y ∧ some y ∈ inner.toSelection.values db := by
  rw [← Hop.mem_unfolded]
  unfold leftOf
  split
  next column table filter? hlink =>
    have hunfolded : hop.unfolded left (Identities.records table filter?).toSelection =
        .matching column hop.stop.table
          (.isIn identityColumn (.ofTable identityColumn table filter?)) := by
      simp only [Hop.unfolded, Hop.relation, hlink]
      rfl
    rw [hunfolded, htable rfl]
    exact hkeyed.mem_folded_iff column filter? (some x)
  next => rfl

theorem Path.mem_identitiesAt
    {filters : RowFilters κ} {hops : List Hop}
    (hkeyed : ∀ hop ∈ hops, db.Keyed hop.stop.table)
    {index : Nat} {stop : Stop} {x : κ} :
    some x ∈ (identitiesAt filters index stop hops).toSelection.values db ↔
      Hop.Reach db filters index stop hops x := by
  induction hops generalizing index stop x with
  | nil => exact Database.mem_identities_iff
  | cons hop hops ih =>
      have hselected :
          some x ∈ (hop.leftOf stop (identitiesAt filters (index + 1) hop.stop hops)).values db ↔
            ∃ y, hop.link.Relates db stop hop.stop x y ∧
              some y ∈ (identitiesAt filters (index + 1) hop.stop hops).toSelection.values db :=
        Hop.mem_leftOf table_of_identitiesAt (hkeyed hop List.mem_cons_self)
      simp only [ih fun other hother => hkeyed other (List.mem_cons_of_mem hop hother)]
        at hselected
      unfold identitiesAt Hop.Reach Identities.toSelection Stop.narrow
      cases hat : filters.at? index with
      | none => simpa using hselected
      | some filter =>
          simp only [Selection.mem_intersect, Database.mem_identities_iff, hselected]
          simp

end

/-!
# Chains by position
-/

structure Hop.Chain (db : Database κ) (filters : RowFilters κ) (start : Nat) (stop : Stop)
    (hops : List Hop) (ids : Nat -> κ) : Prop where
  related : ∀ (index : Nat) (left right : Stop) (hop : Hop),
    (stop :: hops.map Hop.stop)[index]? = some left ->
      (stop :: hops.map Hop.stop)[index + 1]? = some right ->
        hops[index]? = some hop ->
          hop.link.Relates db left right (ids index) (ids (index + 1))
  reaches : ∀ target : Stop, (stop :: hops.map Hop.stop)[hops.length]? = some target ->
    db.Identifies target.table (filters.at? (start + hops.length)) (ids hops.length)
  passes : ∀ (index : Nat) (other : Stop), 0 < index -> index < hops.length ->
    (stop :: hops.map Hop.stop)[index]? = some other ->
      ∀ filter ∈ filters.at? (start + index), db.Identifies other.table (some filter) (ids index)

def follow (x : κ) (ids : Nat -> κ) : Nat -> κ
  | 0 => x
  | index + 1 => ids index

section

variable {db : Database κ} {filters : RowFilters κ}

theorem Hop.chain_nil
    {start : Nat} {stop : Stop} {ids : Nat -> κ} :
    Hop.Chain db filters start stop [] ids ↔
      db.Identifies stop.table (filters.at? start) (ids 0) := by
  constructor
  · intro h
    exact h.reaches stop rfl
  · intro h
    refine ⟨?_, ?_, ?_⟩
    · intro index left right hop _ _ hhop
      cases hhop
    · intro target htarget
      cases htarget
      exact h
    · intro index other _ hindex
      cases hindex

theorem Hop.chain_cons
    {start : Nat} {stop : Stop} {hop : Hop} {hops : List Hop} {ids : Nat -> κ} :
    Hop.Chain db filters start stop (hop :: hops) ids ↔
      hop.link.Relates db stop hop.stop (ids 0) (ids 1) ∧
        (hops ≠ [] -> ∀ filter ∈ filters.at? (start + 1),
          db.Identifies hop.stop.table (some filter) (ids 1)) ∧
        Hop.Chain db filters (start + 1) hop.stop hops (fun index => ids (index + 1)) := by
  constructor
  · intro h
    refine ⟨h.related 0 stop hop.stop hop rfl rfl rfl, ?_, ?_⟩
    · intro hne
      exact h.passes 1 hop.stop Nat.one_pos
        (Nat.succ_lt_succ (List.length_pos_iff.mpr hne)) rfl
    · refine ⟨?_, ?_, ?_⟩
      · intro index left right other hleft hright hother
        exact h.related (index + 1) left right other hleft hright hother
      · intro target htarget
        have hreaches := h.reaches target htarget
        rwa [List.length_cons, ← Nat.add_assoc, Nat.add_right_comm] at hreaches
      · intro index other hpos hindex hother filter hfilter
        rw [Nat.add_right_comm] at hfilter
        exact h.passes (index + 1) other (Nat.succ_pos index) (Nat.succ_lt_succ hindex) hother
          filter hfilter
  · intro h
    rcases h with ⟨hrelated, hpasses, hrest⟩
    refine ⟨?_, ?_, ?_⟩
    · intro index left right other hleft hright hother
      cases index with
      | zero =>
          cases hleft
          cases hright
          cases hother
          exact hrelated
      | succ index => exact hrest.related index left right other hleft hright hother
    · intro target htarget
      have hreaches := hrest.reaches target htarget
      rwa [Nat.add_right_comm] at hreaches
    · intro index other hpos hindex hother filter hfilter
      cases index with
      | zero => exact absurd hpos (Nat.lt_irrefl 0)
      | succ index =>
          cases index with
          | zero =>
              cases hother
              refine hpasses ?_ filter hfilter
              intro hnil
              rw [hnil] at hindex
              exact absurd hindex (Nat.lt_irrefl 1)
          | succ index =>
              refine hrest.passes (index + 1) other (Nat.succ_pos index)
                (Nat.lt_of_succ_lt_succ hindex) hother filter ?_
              rwa [Nat.add_right_comm]

theorem Hop.reach_iff
    {hops : List Hop} {start : Nat} {stop : Stop} {x : κ} :
    Hop.Reach db filters start stop hops x ↔
      ∃ ids : Nat -> κ, ids 0 = x ∧
        (hops ≠ [] -> ∀ filter ∈ filters.at? start, db.Identifies stop.table (some filter) x) ∧
        Hop.Chain db filters start stop hops ids := by
  induction hops generalizing start stop x with
  | nil =>
      simp only [Hop.Reach, Hop.chain_nil]
      constructor
      · intro h
        exact ⟨fun _ => x, rfl, fun hne => absurd rfl hne, h⟩
      · intro h
        rcases h with ⟨ids, hfirst, _, hreaches⟩
        rwa [← hfirst]
  | cons hop hops ih =>
      simp only [Hop.Reach, Hop.chain_cons, ih]
      constructor
      · intro h
        rcases h with ⟨⟨y, hrelates, ids, hy, hnext, hchain⟩, hpasses⟩
        refine ⟨follow x ids, rfl, fun _ => hpasses, ?_, ?_, hchain⟩
        · rwa [← hy] at hrelates
        · rwa [← hy] at hnext
      · intro h
        rcases h with ⟨ids, hx, hpasses, hrelates, hnext, hchain⟩
        rw [hx] at hrelates
        exact ⟨⟨ids 1, hrelates, _, rfl, hnext, hchain⟩, hpasses (List.cons_ne_nil hop hops)⟩

theorem Path.stops_length
    (path : Path) :
    path.stops[path.length]? = some path.target := by
  have hlast : path.hops.getLast? = path.hops[path.rest.length]? := by
    rw [List.getLast?_eq_getElem?]
    rfl
  unfold stops length target
  rw [hlast]
  show (path.hops.map Hop.stop)[path.rest.length]? = _
  rw [List.getElem?_map]
  cases hfound : path.hops[path.rest.length]? with
  | none =>
      have hlength : path.hops.length ≤ path.rest.length := List.getElem?_eq_none_iff.mp hfound
      exact absurd hlength (Nat.not_succ_le_self path.rest.length)
  | some hop => rfl

theorem Path.chain_iff
    {path : Path} {ids : Nat -> κ} :
    path.Chain db filters ids ↔ Hop.Chain db filters 0 path.root path.hops ids := by
  constructor
  · intro h
    refine ⟨h.related, ?_, ?_⟩
    · intro target htarget
      have hsame : path.target = target := by
        have hstops := path.stops_length
        rw [show path.stops[path.length]? = some target from htarget] at hstops
        exact (Option.some.inj hstops).symm
      rw [← hsame, Nat.zero_add]
      exact h.reaches
    · intro index other hpos hindex hother filter hfilter
      rw [Nat.zero_add] at hfilter
      exact h.passes index other hpos hindex hother filter hfilter
  · intro h
    refine ⟨h.related, ?_, ?_⟩
    · have hreaches := h.reaches path.target path.stops_length
      rwa [Nat.zero_add] at hreaches
    · intro index stop hpos hindex hstop filter hfilter
      exact h.passes index stop hpos hindex hstop filter (by rwa [Nat.zero_add])

end

/-!
# The condition of a path
-/

theorem Path.exists_chain_iff
    {db : Database κ} {path : Path} {filters : RowFilters κ} {x : κ} :
    (∃ ids : Nat -> κ, x = ids 0 ∧ path.Chain db filters ids) ↔
      ∃ y, path.first.link.Relates db path.root path.first.stop x y ∧
        Hop.Reach db filters 1 path.first.stop path.rest y := by
  simp only [Path.chain_iff, Path.hops, Hop.chain_cons, Hop.reach_iff]
  constructor
  · intro h
    rcases h with ⟨ids, hx, hrelates, hnext, hchain⟩
    rw [← hx] at hrelates
    exact ⟨ids 1, hrelates, _, rfl, hnext, hchain⟩
  · intro h
    rcases h with ⟨y, hrelates, ids, hy, hnext, hchain⟩
    refine ⟨follow x ids, rfl, ?_, ?_, hchain⟩
    · rwa [← hy] at hrelates
    · rwa [← hy] at hnext

theorem Path.membership_eq_true_iff
    [DecidableEq κ] {db : Database κ} {path : Path} {filters : RowFilters κ}
    (hkeyed : ∀ stop ∈ path.stops, db.Keyed stop.table)
    {record : Record κ}
    (hrecord : record ∈ db.records path.root.table) :
    (path.membership filters).truth db record = some true ↔
      ∃ ids : Nat -> κ, record identityColumn = some (ids 0) ∧ path.Chain db filters ids := by
  have hroot := hkeyed path.root List.mem_cons_self
  have hhops : ∀ hop ∈ path.hops, db.Keyed hop.stop.table := by
    intro hop hhop
    exact hkeyed hop.stop (List.mem_cons_of_mem path.root (List.mem_map_of_mem hhop))
  have hrest : ∀ {y : κ},
      some y ∈ (identitiesAt filters 1 path.first.stop path.rest).toSelection.values db ↔
        Hop.Reach db filters 1 path.first.stop path.rest y :=
    mem_identitiesAt fun hop hhop => hhops hop (List.mem_cons_of_mem path.first hhop)
  rcases hroot.identified record hrecord with ⟨x, hx⟩
  have hchains : (∃ ids : Nat -> κ, record identityColumn = some (ids 0) ∧
      path.Chain db filters ids) ↔
        ∃ y, path.first.link.Relates db path.root path.first.stop x y ∧
          Hop.Reach db filters 1 path.first.stop path.rest y := by
    rw [← Path.exists_chain_iff, hx]
    simp only [Option.some.injEq]
  have hgeneral : (Condition.isIn identityColumn (path.first.leftOf path.root
      (identitiesAt filters 1 path.first.stop path.rest))).truth db record = some true ↔
        ∃ y, path.first.link.Relates db path.root path.first.stop x y ∧
          Hop.Reach db filters 1 path.first.stop path.rest y := by
    simp only [Condition.isIn_eq_true_iff, hx, Option.some.injEq, exists_eq_left',
      Hop.mem_leftOf table_of_identitiesAt (hhops path.first List.mem_cons_self), hrest]
  rw [hchains]
  unfold membership
  cases hlink : path.first.link with
  | leftKey column =>
      simp only [Condition.isIn_eq_true_iff, hrest]
      -- the root's own record is the only one with its identity
      constructor
      · intro h
        rcases h with ⟨y, hy, hreach⟩
        exact ⟨y, ⟨record, hrecord, hx, hy⟩, hreach⟩
      · intro h
        rcases h with ⟨y, ⟨other, hother, hid, hy⟩, hreach⟩
        rw [hroot.unique other hother record hrecord (hid.trans hx.symm)] at hy
        exact ⟨y, hy, hreach⟩
  | bridge leftKey rightKey table =>
      rw [hlink] at hgeneral
      exact hgeneral
  | rightKey column =>
      rw [hlink] at hgeneral
      exact hgeneral

/-- A path compiles to the text of a condition that is true of a root record exactly if a chain of
identities leads from the record to the target.  At the end of the path the folded selection of a
key gives the same values as the unfolded one. -/
theorem Path.compile_meaning
    [DecidableEq κ] {db : Database κ} {path : Path}
    (filters : RowFilters κ)
    (hkeyed : ∀ stop ∈ path.stops, db.Keyed stop.table) :
    (path.membership filters).fragment = path.compile filters.texts ∧
      (∀ record ∈ db.records path.root.table,
        (path.membership filters).truth db record = some true ↔
          ∃ ids : Nat -> κ,
            record identityColumn = some (ids 0) ∧ path.Chain db filters ids) ∧
      ∀ (column : String) (filter? : Option (RowFilter κ)) (value : Option κ),
        value ∈ (Selection.ofTable column path.target.table filter?).values db ↔
          value ∈ (Selection.matching column path.target.table
            (.isIn identityColumn
              (.ofTable identityColumn path.target.table filter?))).values db := by
  refine ⟨path.fragment_membership filters, ?_, ?_⟩
  · intro record hrecord
    exact Path.membership_eq_true_iff hkeyed hrecord
  · have htarget : path.target ∈ path.stops :=
      List.mem_of_getElem? path.stops_length
    exact (hkeyed path.target htarget).mem_folded_iff

def Record.ofColumns (columns : List (String × κ)) : Record κ :=
  fun column => columns.lookup column

theorem Database.Keyed.of_identities
    {db : Database κ} {table : String}
    (ids : List κ)
    (hids : (db.records table).map (fun record => record identityColumn) = ids.map some)
    (hunique : ids.Nodup) :
    db.Keyed table := by
  constructor
  · intro record hrecord
    have hmem : record identityColumn ∈ ids.map some :=
      hids ▸ List.mem_map_of_mem (f := fun record : Record κ => record identityColumn) hrecord
    rcases List.mem_map.mp hmem with ⟨x, _, hx⟩
    exact ⟨x, hx.symm⟩
  · intro record hrecord other hother hsame
    have hnodup : ((db.records table).map fun record => record identityColumn).Nodup :=
      hids ▸ hunique.map (Option.some_injective κ)
    exact List.inj_on_of_nodup_map hnodup hrecord hother hsame

def teamPath : Path :=
  ⟨"user->team_id,team,role_id<-role,perm", ⟨"user", "t_user"⟩,
    ⟨.leftKey "team_id", ⟨"team", "t_team"⟩⟩,
    [⟨.bridge "team_id" "role_id" "a_team_and_role", ⟨"role", "t_role"⟩⟩,
      ⟨.rightKey "role_id", ⟨"perm", "t_perm"⟩⟩]⟩

def teamFilters : RowFilters Nat :=
  [(2, ⟨⟨"rank >= ?", [.int 5]⟩, fun record => (record "rank").map fun rank => decide (5 ≤ rank)⟩),
    (3, ⟨⟨"code = ?", [.int 9]⟩, fun record => (record "code").map fun code => code == 9⟩)]

def teamUsers : List (Record Nat) :=
  [.ofColumns [("id", 1), ("team_id", 20)], .ofColumns [("id", 2)]]

def teamDatabase : Database Nat where
  records
    | "t_user" => teamUsers
    | "t_team" => [.ofColumns [("id", 20)], .ofColumns [("id", 21)]]
    | "a_team_and_role" =>
        [.ofColumns [("team_id", 20), ("role_id", 30)],
          .ofColumns [("team_id", 20), ("role_id", 31)]]
    | "t_role" => [.ofColumns [("id", 30), ("rank", 1)], .ofColumns [("id", 31), ("rank", 7)]]
    | "t_perm" =>
        [.ofColumns [("id", 40), ("role_id", 31), ("code", 9)],
          .ofColumns [("id", 41), ("role_id", 30), ("code", 9)]]
    | _ => []

theorem Path.compile_meaning_teamPath :
    (Path.parse {} "user->team_id,team,role_id<-role,perm").toOption = some teamPath ∧
      (∀ stop ∈ teamPath.stops, teamDatabase.Keyed stop.table) ∧
      (∃ ids : Nat -> Nat, ids 0 = 1 ∧ teamPath.Chain teamDatabase teamFilters ids) ∧
      ¬ ∃ ids : Nat -> Nat, ids 0 = 2 ∧ teamPath.Chain teamDatabase teamFilters ids := by
  have hkeyed : ∀ stop ∈ teamPath.stops, teamDatabase.Keyed stop.table := by
    intro stop hstop
    have htables : stop = ⟨"user", "t_user"⟩ ∨ stop = ⟨"team", "t_team"⟩ ∨
        stop = ⟨"role", "t_role"⟩ ∨ stop = ⟨"perm", "t_perm"⟩ := by
      simpa [teamPath, Path.stops, Path.hops] using hstop
    rcases htables with h | h | h | h
    · rw [h]
      exact .of_identities [1, 2] (by decide) (by decide)
    · rw [h]
      exact .of_identities [20, 21] (by decide) (by decide)
    · rw [h]
      exact .of_identities [30, 31] (by decide) (by decide)
    · rw [h]
      exact .of_identities [40, 41] (by decide) (by decide)
  have hmeaning := (Path.compile_meaning teamFilters hkeyed).right.left
  refine ⟨by decide +kernel, hkeyed, ?_, ?_⟩
  · have htrue := (hmeaning (.ofColumns [("id", 1), ("team_id", 20)]) List.mem_cons_self).mp
      (by decide +kernel)
    rcases htrue with ⟨ids, hroot, hchain⟩
    exact ⟨ids, (Option.some.inj hroot).symm, hchain⟩
  · rintro ⟨ids, hroot, hchain⟩
    have hnot := mt (hmeaning (.ofColumns [("id", 2)])
      (List.mem_cons_of_mem _ List.mem_cons_self)).mpr
      (by decide +kernel)
    exact hnot ⟨ids, congrArg some hroot.symm, hchain⟩

end Criteria
