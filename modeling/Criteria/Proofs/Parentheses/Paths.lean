import Mathlib.Algebra.GroupWithZero.Nat
import Criteria.Proofs.Parentheses.Clauses
import Criteria.Proofs.Paths.Positions
import Criteria.Proofs.Paths.Texts

/-!
# Parentheses of a path

The condition of a path closes its parentheses if the filters do and no name has one.  Around the
filters it opens one for the test of the root and one for each hop, except for two hops that are
written shorter: a first one by a key on the left, and a last one by a key on the right.
-/

namespace Criteria

open Text

namespace Text

/-!
# Closed texts
-/

/-- No beginning of the text closes more parentheses than it opens, and the whole text closes all
that it opens. -/
structure ClosesAll (cs : List Char) : Prop where
  prefixes : ∀ before, before <+: cs -> before.count ')' ≤ before.count '('
  whole : cs.count ')' = cs.count '('

theorem forall_prefix_cons
    {p : List Char -> Prop} {c : Char} {cs : List Char} :
    (∀ before, before <+: c :: cs -> p before) ↔
      p [] ∧ ∀ before, before <+: cs -> p (c :: before) := by
  constructor
  · intro h
    constructor
    · exact h [] List.nil_prefix
    · intro before hbefore
      exact h (c :: before) (List.cons_prefix_cons.mpr ⟨rfl, hbefore⟩)
  · rintro ⟨hnil, hcons⟩ before hbefore
    rcases List.prefix_cons_iff.mp hbefore with rfl | ⟨rest, rfl, hrest⟩
    · exact hnil
    · exact hcons rest hrest

def rise (c : Char) : Int :=
  if c = '(' then 1 else if c = ')' then -1 else 0

/-- What a text opens beyond what it closes. -/
def net (cs : List Char) : Int :=
  cs.count '(' - cs.count ')'

theorem net_nil :
    net [] = 0 :=
  rfl

theorem net_cons
    (c : Char) (cs : List Char) :
    net (c :: cs) = rise c + net cs := by
  unfold net rise
  by_cases hopen : c = '('
  · rw [if_pos hopen, hopen, List.count_cons_self, List.count_cons_of_ne (by decide)]
    omega
  · rw [if_neg hopen, List.count_cons_of_ne hopen]
    by_cases hclose : c = ')'
    · rw [if_pos hclose, hclose, List.count_cons_self]
      omega
    · rw [if_neg hclose, List.count_cons_of_ne hclose, Int.zero_add]

theorem deeper?_eq_some_iff
    {depth next : Nat} {c : Char} :
    deeper? depth c = some next ↔ (next : Int) = depth + rise c := by
  unfold deeper? rise
  split
  next hopen =>
    rw [Option.some_inj]
    omega
  next hopen =>
    split
    next hclose =>
      cases depth with
      | zero =>
          constructor
          · intro h
            cases h
          · intro h
            omega
      | succ depth =>
          rw [Option.some_inj]
          omega
    next hclose =>
      rw [Option.some_inj]
      omega

theorem nesting_eq_some_iff
    {depth next : Nat} {cs : List Char} :
    nesting depth cs = some next ↔
      (∀ before, before <+: cs -> 0 ≤ depth + net before) ∧ (next : Int) = depth + net cs := by
  induction cs generalizing depth with
  | nil =>
      have hnil : nesting depth [] = some depth := rfl
      rw [hnil, Option.some_inj, net_nil]
      constructor
      · rintro rfl
        refine ⟨fun before hbefore => ?_, by omega⟩
        rw [List.prefix_nil.mp hbefore, net_nil]
        omega
      · rintro ⟨_, hnext⟩
        omega
  | cons c cs ih =>
      rw [nesting_cons, Option.bind_eq_some_iff, forall_prefix_cons]
      simp only [deeper?_eq_some_iff, ih, net_cons]
      constructor
      · rintro ⟨inner, hinner, hprefixes, hnext⟩
        refine ⟨⟨Int.natCast_nonneg depth, fun before hbefore => ?_⟩, by omega⟩
        have hopen := hprefixes before hbefore
        omega
      · rintro ⟨⟨_, hprefixes⟩, hnext⟩
        -- the first character alone is a beginning
        have hfirst := hprefixes [] List.nil_prefix
        rw [net_nil] at hfirst
        refine ⟨(depth + rise c).toNat, by omega, fun before hbefore => ?_, by omega⟩
        have hopen := hprefixes before hbefore
        omega

theorem balanced_iff_closesAll
    {cs : List Char} :
    Balanced cs ↔ ClosesAll cs := by
  unfold Balanced
  rw [nesting_eq_some_iff]
  unfold net
  constructor
  · rintro ⟨hprefixes, hwhole⟩
    constructor
    · intro before hbefore
      have hopen := hprefixes before hbefore
      omega
    · omega
  · rintro ⟨hprefixes, hwhole⟩
    constructor
    · intro before hbefore
      have hopen := hprefixes before hbefore
      omega
    · omega

end Text

/-!
# Pairs of a fragment
-/

namespace Fragment

def pairs (f : Fragment) : Nat :=
  f.sql.toList.count '('

theorem pairs_append
    (f g : Fragment) :
    (f ++ g).pairs = f.pairs + g.pairs := by
  unfold pairs
  rw [sql_append, String.toList_append, List.count_append]

theorem pairs_text_append
    (s t : String) :
    (text (s ++ t)).pairs = (text s).pairs + (text t).pairs := by
  rw [← text_append_text, pairs_append]

theorem pairs_of_isEmpty
    {f : Fragment}
    (h : f.isEmpty = true) :
    f.pairs = 0 := by
  have hsql : f.sql = "" := by simpa [isEmpty] using h
  unfold pairs
  rw [hsql]
  rfl

theorem pairs_asWhere
    (f : Fragment) :
    f.asWhere.pairs = f.pairs := by
  unfold asWhere
  split
  next hempty =>
    rw [pairs_of_isEmpty hempty]
    rfl
  next =>
    rw [pairs_append]
    exact Nat.zero_add f.pairs

end Fragment

def Unbracketed (c : Char) : Prop :=
  c ≠ '(' ∧ c ≠ ')'

instance : DecidablePred Unbracketed :=
  fun c => inferInstanceAs (Decidable (c ≠ '(' ∧ c ≠ ')'))

theorem pairs_name
    {name : String}
    (h : WrittenIn Unbracketed name) :
    (Fragment.text name).pairs = 0 :=
  List.count_eq_zero.mpr fun hin => (h '(' hin).left rfl

theorem pairs_selectFrom
    {column table : String}
    (hcolumn : WrittenIn Unbracketed column)
    (htable : WrittenIn Unbracketed table) :
    (selectFrom column table).pairs = 0 := by
  unfold selectFrom
  rw [Fragment.pairs_text_append, Fragment.pairs_text_append, Fragment.pairs_text_append,
    pairs_name hcolumn, pairs_name htable]
  rfl

/-!
# Pairs of a hop
-/

namespace Link

def isLeftKey : Link -> Bool
  | .leftKey _ => true
  | _ => false

def isRightKey : Link -> Bool
  | .rightKey _ => true
  | _ => false

end Link

namespace IdSet

def isRows : IdSet -> Bool
  | .rows _ _ => true
  | .selection _ => false

end IdSet

theorem pairs_rows
    {table : String}
    (htable : WrittenIn Unbracketed table)
    (filter : Fragment) :
    (IdSet.rows table filter).fragment.pairs = filter.pairs := by
  show (selectFrom identityColumn table ++ filter.asWhere).pairs = filter.pairs
  rw [Fragment.pairs_append, pairs_selectFrom (by decide) htable, Fragment.pairs_asWhere,
    Nat.zero_add]

namespace Hop

theorem pairs_project
    {hop : Hop} {left : Stop} {inner : IdSet}
    (hlink : hop.link.WrittenIn Unbracketed)
    (hleft : Criteria.WrittenIn Unbracketed left.table)
    (hright : Criteria.WrittenIn Unbracketed hop.stop.table)
    (hinner : ∀ table filter, inner = .rows table filter ->
      Criteria.WrittenIn Unbracketed table) :
    (hop.project left inner).pairs + (hop.link.isRightKey && inner.isRows).toNat =
      inner.fragment.pairs + 1 := by
  unfold project
  split
  next column table filter hcase =>
    have htable := hinner table filter rfl
    rw [hcase] at hlink ⊢
    rw [Fragment.pairs_append, pairs_selectFrom hlink htable, Fragment.pairs_asWhere,
      pairs_rows htable, Nat.zero_add]
    rfl
  next inner _ _ hgeneral =>
    rcases hop.writtenIn_relation hlink (by decide) hleft hright with
      ⟨hlocal, hforeign, htable⟩
    have hfolds : (hop.link.isRightKey && inner.isRows) = false := by
      cases hcase : hop.link with
      | bridge leftKey rightKey table => rfl
      | leftKey column => rfl
      | rightKey column =>
          cases inner with
          | rows table filter => exact (hgeneral column table filter hcase rfl).elim
          | selection fragment => rfl
    have hopening : (Fragment.text (" WHERE " ++ (hop.relation left).foreignKey ++ " IN (")).pairs =
        1 := by
      rw [Fragment.pairs_text_append, Fragment.pairs_text_append, pairs_name hforeign]
      rfl
    rw [hfolds, Fragment.pairs_append, Fragment.pairs_append, Fragment.pairs_append,
      pairs_selectFrom hlocal htable, hopening, Nat.zero_add, Nat.add_comm 1]
    rfl

end Hop

namespace Path

/-!
# Pairs of a path
-/

theorem pairs_narrow
    {selected filter : Fragment} {stop : Stop}
    (hstop : Criteria.WrittenIn Unbracketed stop.table) :
    (narrow selected stop filter).pairs = selected.pairs + filter.pairs := by
  unfold narrow
  split
  next hempty =>
    rw [Fragment.pairs_of_isEmpty hempty, Nat.add_zero]
  next =>
    rw [Fragment.pairs_append, Fragment.pairs_append, Fragment.pairs_append,
      pairs_selectFrom (by decide) hstop, Fragment.pairs_asWhere]
    rfl

def endsInRightKey (hops : List Hop) : Bool :=
  hops.getLast?.any fun hop => hop.link.isRightKey

def filtersFrom (filters : Filters) (index : Nat) (hops : List Hop) : List Fragment :=
  (List.range' index (hops.length + 1)).map (filterAt filters)

theorem isRows_idsAt
    (filters : Filters) (index : Nat) (stop : Stop) (hops : List Hop) :
    (idsAt filters index stop hops).isRows = hops.isEmpty := by
  cases hops <;> rfl

theorem endsInRightKey_cons
    (hop : Hop) (hops : List Hop) :
    (endsInRightKey (hop :: hops)).toNat =
      (hop.link.isRightKey && hops.isEmpty).toNat + (endsInRightKey hops).toNat := by
  cases hops with
  | nil => simp [endsInRightKey]
  | cons next hops => simp [endsInRightKey, List.getLast?_cons_cons]

theorem pairs_project_idsAt
    (filters : Filters) (index : Nat)
    {hop : Hop} {left : Stop}
    (hops : List Hop)
    (hlink : hop.link.WrittenIn Unbracketed)
    (hleft : Criteria.WrittenIn Unbracketed left.table)
    (hright : Criteria.WrittenIn Unbracketed hop.stop.table) :
    (hop.project left (idsAt filters index hop.stop hops)).pairs +
        (hop.link.isRightKey && hops.isEmpty).toNat =
      (idsAt filters index hop.stop hops).fragment.pairs + 1 := by
  rw [← isRows_idsAt filters index hop.stop hops]
  refine Hop.pairs_project hlink hleft hright ?_
  intro table filter hrows
  rw [table_of_idsAt hrows]
  exact hright

theorem pairs_idsAt
    (filters : Filters) (index : Nat) {stop : Stop} {hops : List Hop}
    (hlinks : ∀ hop ∈ hops, hop.link.WrittenIn Unbracketed)
    (htables : ∀ other ∈ stop :: hops.map Hop.stop,
      Criteria.WrittenIn Unbracketed other.table) :
    (idsAt filters index stop hops).fragment.pairs + (endsInRightKey hops).toNat =
      ((filtersFrom filters index hops).map Fragment.pairs).sum + hops.length := by
  induction hops generalizing index stop with
  | nil =>
      have hstop := htables stop List.mem_cons_self
      rw [idsAt, pairs_rows hstop]
      simp [filtersFrom, endsInRightKey]
  | cons hop hops ih =>
      rcases List.forall_mem_cons.mp hlinks with ⟨hlink, hlinks⟩
      rcases List.forall_mem_cons.mp htables with ⟨hstop, htables⟩
      have hnext := htables hop.stop List.mem_cons_self
      have hlater := ih (index + 1) hlinks htables
      have hproject := pairs_project_idsAt filters (index + 1) hops hlink hstop hnext
      have hsum : ((filtersFrom filters index (hop :: hops)).map Fragment.pairs).sum =
          (filterAt filters index).pairs +
            ((filtersFrom filters (index + 1) hops).map Fragment.pairs).sum := by
        unfold filtersFrom
        rw [List.length_cons, List.range'_succ, List.map_cons, List.map_cons, List.sum_cons]
      rw [idsAt, hsum, endsInRightKey_cons, List.length_cons]
      show (narrow _ _ _).pairs + _ = _
      rw [pairs_narrow hstop]
      omega

theorem pairs_compile
    {path : Path}
    (htables : ∀ stop ∈ path.stops, Criteria.WrittenIn Unbracketed stop.table)
    (hlinks : ∀ hop ∈ path.hops, hop.link.WrittenIn Unbracketed)
    (filters : Filters) :
    (path.compile filters).pairs + path.first.link.isLeftKey.toNat +
        (endsInRightKey path.hops).toNat =
      ((filtersFrom filters 1 path.rest).map Fragment.pairs).sum + (1 + path.length) := by
  rcases List.forall_mem_cons.mp htables with ⟨hroot, htables⟩
  rcases List.forall_mem_cons.mp hlinks with ⟨hfirst, hlinks⟩
  have hinner := pairs_idsAt filters 1 hlinks htables
  have hproject := pairs_project_idsAt filters 1 path.rest hfirst hroot
    (htables path.first.stop List.mem_cons_self)
  have hcompile : (path.compile filters).pairs = (path.selected filters).pairs + 1 := by
    have hopening : (Fragment.text (path.head ++ " IN (")).pairs = 1 := by
      rw [Fragment.pairs_text_append, pairs_name (path.writtenIn_head hfirst (by decide))]
      rfl
    rw [compile_eq_selected, Fragment.pairs_append, Fragment.pairs_append, hopening, Nat.add_comm 1]
    rfl
  have hselected : (path.selected filters).pairs + path.first.link.isLeftKey.toNat +
      (path.first.link.isRightKey && path.rest.isEmpty).toNat =
        (idsAt filters 1 path.first.stop path.rest).fragment.pairs + 1 := by
    unfold selected
    cases hlink : path.first.link with
    | leftKey column => rfl
    | bridge leftKey rightKey table =>
        rw [hlink] at hproject
        exact hproject
    | rightKey column =>
        rw [hlink] at hproject
        exact hproject
  have hlength : path.length = path.rest.length + 1 := rfl
  rw [hops, endsInRightKey_cons, hcompile, hlength]
  omega

/-- The first filter for each stop after the root. -/
def usedFilters (path : Path) (filters : Filters) : List Fragment :=
  (List.range' 1 path.length).map (filterAt filters)

/-- The condition of a path closes all its parentheses.  Beside those of the filters that are used it
has one pair for the root and one for each hop, but none for a first hop by a key on the left and
none for a last hop by a key on the right. -/
theorem parentheses_compile
    {path : Path} {filters : Filters}
    (hnames : ∀ name ∈ path.names, Criteria.WrittenIn Unbracketed name)
    (hfilters : ∀ entry ∈ filters, ClosesAll entry.2.sql.toList) :
    ClosesAll (path.compile filters).sql.toList ∧
      (path.compile filters).pairs + path.first.link.isLeftKey.toNat +
          (endsInRightKey path.hops).toNat =
        ((path.usedFilters filters).map Fragment.pairs).sum + (1 + path.length) := by
  have htables := tables_of_names hnames
  have hlinks := links_of_names hnames
  constructor
  · have hbalanced : ∀ entry ∈ filters, entry.2.Balanced :=
      fun entry hentry => balanced_iff_closesAll.mpr (hfilters entry hentry)
    have hlaws : Selects Unbracketed Fragment.Balanced :=
      selects_balanced_of_clear (fun h => h) (by decide)
    exact balanced_iff_closesAll.mp (hlaws.compile htables hlinks hbalanced)
  · exact pairs_compile htables hlinks filters

/-- A path whose first and last hops are written shorter, so that two of its four pairs are left out.
Its filters have one pair and two. -/
theorem parentheses_compile_grantPath :
    ∃ path, parse {} "post->author_id,user,role_id<-role,grant" = .ok path ∧
      let filters : Filters := [(2, .text "level IN (1, 2)"), (3, .text "(a = b OR (c))")]
      (path.compile filters).sql =
        "author_id IN (SELECT user_id FROM a_user_and_role WHERE role_id IN " ++
          "(SELECT role_id FROM t_grant WHERE (a = b OR (c)) " ++
            "INTERSECT SELECT id FROM t_role WHERE level IN (1, 2)))" ∧
        ClosesAll (path.compile filters).sql.toList ∧
          (path.compile filters).pairs + 1 + 1 = (1 + 2) + (1 + 3) := by
  let path : Path :=
    { raw := "post->author_id,user,role_id<-role,grant"
      root := ⟨"post", "t_post"⟩
      first := ⟨.leftKey "author_id", ⟨"user", "t_user"⟩⟩
      rest :=
        [⟨.bridge "user_id" "role_id" "a_user_and_role", ⟨"role", "t_role"⟩⟩,
          ⟨.rightKey "role_id", ⟨"grant", "t_grant"⟩⟩] }
  let filters : Filters := [(2, .text "level IN (1, 2)"), (3, .text "(a = b OR (c))")]
  have hfilters : ∀ entry ∈ filters, ClosesAll entry.2.sql.toList := by
    intro entry hentry
    apply balanced_iff_closesAll.mp
    rcases List.mem_pair.mp hentry with rfl | rfl
    · show nesting 0 "level IN (1, 2)".toList = some 0
      decide
    · show nesting 0 "(a = b OR (c))".toList = some 0
      decide
  have hused : ((path.usedFilters filters).map Fragment.pairs).sum = 1 + 2 := by
    decide
  have hnames : ∀ name ∈ path.names, Criteria.WrittenIn Unbracketed name := by
    decide
  rcases parentheses_compile hnames hfilters with ⟨hcloses, hpairs⟩
  rw [hused] at hpairs
  exact ⟨path, by decide +kernel, by decide +kernel, hcloses, hpairs⟩

end Path
end Criteria
