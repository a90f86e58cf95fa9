import Criteria.Path.Selection
import Criteria.Proofs.Naming.Planned

/-!
# Properties of selections along a path

The condition on a root is written from its filters and from the columns and tables of its stops
and hops.  A property of fragments that the few texts around them respect therefore holds of the
condition, if it holds of the filters.
-/

namespace Criteria

structure Selects (p : Char -> Prop) (good : Fragment -> Prop) : Prop where
  identity : WrittenIn p identityColumn
  empty : good .empty
  append {f g : Fragment} : good f -> good g -> good (f ++ g)
  whereText : good (.text " WHERE ")
  intersect : good (.text " INTERSECT ")
  selectFrom {column table : String} :
    WrittenIn p column -> WrittenIn p table -> good (selectFrom column table)
  membership {column : String} {f : Fragment} :
    WrittenIn p column -> good f -> good (.text (column ++ " IN (") ++ f ++ .text ")")

def IdSet.All (p : Char -> Prop) (good : Fragment -> Prop) : IdSet -> Prop
  | .rows table filter => WrittenIn p table ∧ good filter
  | .selection fragment => good fragment

/-!
# The form of a condition
-/

namespace Path

def head (path : Path) : String :=
  match path.first.link with
  | .leftKey column => column
  | _ => identityColumn

def selected (path : Path) (filters : Filters) : Fragment :=
  let inner := idsAt filters 1 path.first.stop path.rest
  match path.first.link with
  | .leftKey _ => inner.fragment
  | _ => path.first.project path.root inner

theorem compile_eq_selected
    (path : Path) (filters : Filters) :
    path.compile filters = .text (path.head ++ " IN (") ++ path.selected filters ++ .text ")" := by
  unfold compile head selected
  cases path.first.link <;> rfl

variable {p : Char -> Prop}

theorem writtenIn_head
    (path : Path)
    (hlink : path.first.link.WrittenIn p)
    (hidentity : Criteria.WrittenIn p identityColumn) :
    Criteria.WrittenIn p path.head := by
  unfold head
  cases hcase : path.first.link with
  | leftKey column =>
      rw [hcase] at hlink
      exact hlink
  | bridge leftKey rightKey table => exact hidentity
  | rightKey column => exact hidentity

end Path

/-!
# One hop
-/

namespace Selects

variable {p : Char -> Prop} {good : Fragment -> Prop}

theorem asWhere
    (laws : Selects p good)
    {f : Fragment}
    (h : good f) :
    good f.asWhere := by
  unfold Fragment.asWhere
  split
  · exact laws.empty
  · exact laws.append laws.whereText h

theorem filterAt
    (laws : Selects p good)
    {filters : Filters}
    (h : ∀ entry ∈ filters, good entry.2)
    (index : Nat) :
    good (Criteria.filterAt filters index) := by
  rcases filterAt_cases filters index with hnone | ⟨entry, hentry, heq⟩
  · rw [hnone]
    exact laws.empty
  · rw [heq]
    exact h entry hentry

theorem fragment
    (laws : Selects p good)
    {set : IdSet}
    (h : set.All p good) :
    good set.fragment := by
  cases set with
  | rows table filter =>
      exact laws.append (laws.selectFrom laws.identity h.left) (laws.asWhere h.right)
  | selection fragment => exact h

theorem project
    (laws : Selects p good)
    {hop : Hop} {left : Stop} {inner : IdSet}
    (hlink : hop.link.WrittenIn p)
    (hleft : WrittenIn p left.table)
    (hright : WrittenIn p hop.stop.table)
    (hinner : inner.All p good) :
    good (hop.project left inner) := by
  rcases hop.writtenIn_relation hlink laws.identity hleft hright with
    ⟨hlocal, hforeign, htable⟩
  unfold Hop.project
  split
  next column table filter hcase =>
    rw [hcase] at hlink
    exact laws.append (laws.selectFrom hlink hinner.left) (laws.asWhere hinner.right)
  next =>
    -- the keyword and the membership test are written as one text
    have htest := laws.append laws.whereText (laws.membership hforeign (laws.fragment hinner))
    simp only [← Fragment.append_assoc, Fragment.text_append_text] at htest
    simp only [Fragment.append_assoc, String.append_assoc] at htest ⊢
    exact laws.append (laws.selectFrom hlocal htable) htest

theorem narrow
    (laws : Selects p good)
    {selected filter : Fragment} {stop : Stop}
    (hstop : WrittenIn p stop.table)
    (hselected : good selected)
    (hfilter : good filter) :
    good (Path.narrow selected stop filter) := by
  unfold Path.narrow
  split
  · exact hselected
  · have hrows := laws.append (laws.append hselected laws.intersect)
      (laws.selectFrom laws.identity hstop)
    exact laws.append hrows (laws.asWhere hfilter)

/-!
# The whole path
-/

theorem idsAt
    (laws : Selects p good)
    {filters : Filters}
    (hfilters : ∀ entry ∈ filters, good entry.2)
    {hops : List Hop}
    (hlinks : ∀ hop ∈ hops, hop.link.WrittenIn p)
    {index : Nat} {stop : Stop}
    (htables : ∀ other ∈ stop :: hops.map Hop.stop, WrittenIn p other.table) :
    (Path.idsAt filters index stop hops).All p good := by
  induction hops generalizing index stop with
  | nil => exact ⟨htables stop List.mem_cons_self, laws.filterAt hfilters index⟩
  | cons hop hops ih =>
      have hstop := htables stop List.mem_cons_self
      have hrest : (Path.idsAt filters (index + 1) hop.stop hops).All p good :=
        ih (fun other hother => hlinks other (List.mem_cons_of_mem hop hother))
          (fun other hother => htables other (List.mem_cons_of_mem stop hother))
      have hselected := laws.project (hlinks hop List.mem_cons_self) hstop
        (htables hop.stop (by simp)) hrest
      exact laws.narrow hstop hselected (laws.filterAt hfilters index)

theorem selected
    (laws : Selects p good)
    {path : Path} {filters : Filters}
    (htables : ∀ stop ∈ path.stops, WrittenIn p stop.table)
    (hlinks : ∀ hop ∈ path.hops, hop.link.WrittenIn p)
    (hfilters : ∀ entry ∈ filters, good entry.2) :
    good (path.selected filters) := by
  have hinner : (Path.idsAt filters 1 path.first.stop path.rest).All p good := by
    refine laws.idsAt hfilters ?_ ?_
    · intro hop hhop
      exact hlinks hop (List.mem_cons_of_mem path.first hhop)
    · intro stop hstop
      exact htables stop (List.mem_cons_of_mem path.root hstop)
  have hproject := laws.project (hlinks path.first List.mem_cons_self)
    (htables path.root List.mem_cons_self)
    (htables path.first.stop (List.mem_cons_of_mem path.root List.mem_cons_self)) hinner
  unfold Path.selected
  cases path.first.link with
  | leftKey column => exact laws.fragment hinner
  | bridge leftKey rightKey table => exact hproject
  | rightKey column => exact hproject

theorem compile
    (laws : Selects p good)
    {path : Path} {filters : Filters}
    (htables : ∀ stop ∈ path.stops, WrittenIn p stop.table)
    (hlinks : ∀ hop ∈ path.hops, hop.link.WrittenIn p)
    (hfilters : ∀ entry ∈ filters, good entry.2) :
    good (path.compile filters) := by
  have hhead := path.writtenIn_head (hlinks path.first List.mem_cons_self) laws.identity
  rw [Path.compile_eq_selected]
  exact laws.membership hhead (laws.selected htables hlinks hfilters)

end Selects
end Criteria
