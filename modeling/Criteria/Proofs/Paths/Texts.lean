import Criteria.Proofs.Compilation.Selections

/-!
# What stands in a condition

The condition of a path is made of a few words, of names that the path holds and of the filters that
it is given.  The columns that the hops compare identities with all stand in it.
-/

namespace Criteria

/-!
# Texts of a condition
-/

def frameWords : List String :=
  ["SELECT ", " FROM ", " WHERE ", " IN (", ")", " INTERSECT "]

/-- Made of the words of a condition, good names and given filters. -/
inductive Framed (good : String -> Prop) (filters : Filters) : Fragment -> Prop where
  | empty : Framed good filters .empty
  | word {word : String} : word ∈ frameWords -> Framed good filters (.text word)
  | name {name : String} : good name -> Framed good filters (.text name)
  | filter {entry : Nat × Fragment} : entry ∈ filters -> Framed good filters entry.2
  | append {f g : Fragment} :
      Framed good filters f -> Framed good filters g -> Framed good filters (f ++ g)

section

variable {p : Char -> Prop}

/-- Without filters, only the words of a condition bring characters that no name has. -/
theorem Framed.chars
    {f : Fragment}
    (h : Framed (WrittenIn p) [] f) :
    ∀ c ∈ f.sql.toList, p c ∨ ∃ word ∈ frameWords, c ∈ word.toList := by
  induction h with
  | empty => simp [Fragment.empty]
  | word hword => exact fun c hc => Or.inr ⟨_, hword, hc⟩
  | name hname => exact fun c hc => Or.inl (hname c hc)
  | filter hentry => cases hentry
  | append hf hg ihf ihg =>
      intro c hc
      rw [Fragment.sql_append, String.toList_append] at hc
      exact (List.mem_append.mp hc).elim (ihf c) (ihg c)

theorem selects_framed
    (hidentity : WrittenIn p identityColumn)
    (filters : Filters) :
    Selects p (Framed (WrittenIn p) filters) where
  identity := hidentity
  empty := .empty
  append := .append
  whereText := .word (by decide)
  intersect := .word (by decide)
  selectFrom {column table} hcolumn htable := by
    have hselect : selectFrom column table =
        .text "SELECT " ++ .text column ++ .text " FROM " ++ .text table := rfl
    rw [hselect]
    exact .append (.append (.append (.word (by decide)) (.name hcolumn)) (.word (by decide)))
      (.name htable)
  membership {column f} hcolumn hf := by
    rw [← Fragment.text_append_text]
    exact .append (.append (.append (.name hcolumn) (.word (by decide))) hf) (.word (by decide))

end

/-!
# Columns in a condition
-/

def Fragment.Shows (f : Fragment) (text : String) : Prop :=
  text.toList <:+: f.sql.toList

namespace Fragment

variable {f g : Fragment} {text : String}

theorem shows_text
    (before text after : String) :
    (Fragment.text (before ++ text ++ after)).Shows text := by
  refine ⟨before.toList, after.toList, ?_⟩
  rw [Fragment.text, String.toList_append, String.toList_append]

theorem Shows.left
    (h : f.Shows text) :
    (f ++ g).Shows text := by
  rw [Shows, sql_append, String.toList_append]
  exact h.trans (List.prefix_append _ _).isInfix

theorem Shows.right
    (h : g.Shows text) :
    (f ++ g).Shows text := by
  rw [Shows, sql_append, String.toList_append]
  exact h.trans (List.suffix_append _ _).isInfix

end Fragment

theorem shows_selectFrom
    (column table : String) :
    (selectFrom column table).Shows column := by
  have htext := Fragment.shows_text "SELECT " column (" FROM " ++ table)
  rwa [← String.append_assoc] at htext

def Link.columns : Link -> List String
  | .bridge left right _ => [left, right]
  | .leftKey column => [column]
  | .rightKey column => [column]

namespace Hop

theorem columns_subset_relation
    (hop : Hop) (left : Stop) :
    hop.link.columns ⊆ [(hop.relation left).localKey, (hop.relation left).foreignKey] := by
  unfold relation
  cases hop.link with
  | bridge leftKey rightKey table => exact List.Subset.refl _
  | leftKey column => exact List.subset_cons_self _ _
  | rightKey column => simp [Link.columns]

theorem link_relation
    (hop : Hop) (left : Stop) :
    (hop.relation left).link = hop.link := by
  unfold relation
  split <;> rfl

variable {hop : Hop} {left : Stop} {inner : IdSet} {column : String}

theorem writtenIn_link
    {p : Char -> Prop}
    (hlocal : Criteria.WrittenIn p (hop.relation left).localKey)
    (hforeign : Criteria.WrittenIn p (hop.relation left).foreignKey)
    (htable : Criteria.WrittenIn p (hop.relation left).table) :
    hop.link.WrittenIn p := by
  unfold relation at hlocal hforeign htable
  cases hlink : hop.link with
  | bridge leftKey rightKey table =>
      rw [hlink] at hlocal hforeign htable
      exact ⟨hlocal, hforeign, htable⟩
  | leftKey column =>
      rw [hlink] at hforeign
      exact hforeign
  | rightKey column =>
      rw [hlink] at hlocal
      exact hlocal

theorem shows_project
    (h : column ∈ hop.link.columns) :
    (hop.project left inner).Shows column := by
  unfold project
  split
  next key table filter hlink =>
    rw [hlink] at h
    rw [List.mem_singleton.mp h]
    exact (shows_selectFrom key table).left
  next =>
    rcases List.mem_cons.mp (hop.columns_subset_relation left h) with hlocal | hforeign
    · rw [hlocal]
      exact (shows_selectFrom _ _).left.left.left
    · rw [List.mem_singleton.mp hforeign]
      exact (Fragment.shows_text " WHERE " _ " IN (").right.left.left

theorem shows_project_of_selection
    {fragment : Fragment}
    (h : fragment.Shows column) :
    (hop.project left (.selection fragment)).Shows column := by
  have hgeneral : (hop.project left (.selection fragment)) =
      selectFrom (hop.relation left).localKey (hop.relation left).table ++
        .text (" WHERE " ++ (hop.relation left).foreignKey ++ " IN (") ++ fragment ++
          .text ")" := by
    unfold project
    split
    next hinner => cases hinner
    next => rfl
  rw [hgeneral]
  exact h.right.left

end Hop

namespace Path

theorem shows_narrow
    {selected filter : Fragment} {stop : Stop} {column : String}
    (h : selected.Shows column) :
    (narrow selected stop filter).Shows column := by
  unfold narrow
  split
  · exact h
  · exact h.left.left.left

theorem shows_idsAt
    (filters : Filters) (index : Nat) (stop : Stop)
    {hops : List Hop} {hop : Hop} {column : String}
    (hhop : hop ∈ hops)
    (h : column ∈ hop.link.columns) :
    ∃ fragment, idsAt filters index stop hops = .selection fragment ∧ fragment.Shows column := by
  induction hops generalizing index stop with
  | nil => cases hhop
  | cons first hops ih =>
      refine ⟨_, rfl, shows_narrow ?_⟩
      rcases List.mem_cons.mp hhop with rfl | hlater
      · exact Hop.shows_project h
      · rcases ih (index + 1) first.stop hlater with ⟨fragment, heq, hshows⟩
        rw [heq]
        exact Hop.shows_project_of_selection hshows

theorem shows_compile
    {path : Path} {hop : Hop} {column : String}
    (filters : Filters)
    (hhop : hop ∈ path.hops)
    (h : column ∈ hop.link.columns) :
    (path.compile filters).Shows column := by
  rw [compile_eq_selected]
  rcases List.mem_cons.mp hhop with rfl | hlater
  · unfold head selected
    cases hlink : path.first.link with
    | leftKey key =>
        rw [hlink] at h
        rw [List.mem_singleton.mp h]
        have htext := Fragment.shows_text "" key " IN ("
        rw [String.empty_append] at htext
        exact htext.left.left
    | bridge leftKey rightKey table => exact (Hop.shows_project h).right.left
    | rightKey key => exact (Hop.shows_project h).right.left
  · rcases shows_idsAt filters 1 path.first.stop hlater h with ⟨fragment, heq, hshows⟩
    have hselected : (path.selected filters).Shows column := by
      unfold selected
      dsimp only
      rw [heq]
      cases path.first.link with
      | leftKey key => exact hshows
      | bridge leftKey rightKey table => exact Hop.shows_project_of_selection hshows
      | rightKey key => exact Hop.shows_project_of_selection hshows
    exact hselected.right.left

/-!
# Names of a path
-/

def names (path : Path) : List String :=
  path.domains ++ path.tables ++
    path.relations.flatMap fun relation =>
      [relation.localKey, relation.foreignKey, relation.table]

theorem forall_names_iff
    {path : Path} {good : String -> Prop} :
    (∀ name ∈ path.names, good name) ↔
      (∀ name ∈ path.domains ++ path.tables ++ path.relations.map Relation.table, good name) ∧
        ∀ relation ∈ path.relations, good relation.localKey ∧ good relation.foreignKey := by
  simp only [names, List.forall_mem_append, List.forall_mem_map, List.forall_mem_flatMap,
    List.forall_mem_cons]
  constructor
  · rintro ⟨hstops, hrelations⟩
    refine ⟨⟨hstops, fun relation h => (hrelations relation h).right.right.left⟩, ?_⟩
    exact fun relation h => ⟨(hrelations relation h).left, (hrelations relation h).right.left⟩
  · rintro ⟨⟨hstops, htables⟩, hkeys⟩
    refine ⟨hstops, fun relation h => ⟨(hkeys relation h).left, (hkeys relation h).right, ?_⟩⟩
    exact ⟨htables relation h, by simp⟩

theorem exists_relation_mem
    (left : Stop) {hops : List Hop} {hop : Hop}
    (h : hop ∈ hops) :
    ∃ stop, hop.relation stop ∈ relationsFrom left hops := by
  induction hops generalizing left with
  | nil => cases h
  | cons first hops ih =>
      rcases List.mem_cons.mp h with rfl | hlater
      · exact ⟨left, List.mem_cons_self⟩
      · rcases ih first.stop hlater with ⟨stop, hmem⟩
        exact ⟨stop, List.mem_cons_of_mem _ hmem⟩

theorem map_link_relationsFrom
    (left : Stop) (hops : List Hop) :
    (relationsFrom left hops).map Relation.link = hops.map Hop.link := by
  induction hops generalizing left with
  | nil => rfl
  | cons hop hops ih =>
      rw [relationsFrom, List.map_cons, List.map_cons, ih, Hop.link_relation]

section

variable {p : Char -> Prop} {path : Path}

theorem tables_of_names
    (h : ∀ name ∈ path.names, Criteria.WrittenIn p name) :
    ∀ stop ∈ path.stops, Criteria.WrittenIn p stop.table := by
  intro stop hstop
  apply (forall_names_iff.mp h).left
  exact List.mem_append_left _ (List.mem_append_right _ (List.mem_map_of_mem hstop))

theorem links_of_names
    (h : ∀ name ∈ path.names, Criteria.WrittenIn p name) :
    ∀ hop ∈ path.hops, hop.link.WrittenIn p := by
  rcases forall_names_iff.mp h with ⟨hnames, hkeys⟩
  intro hop hhop
  rcases exists_relation_mem path.root hhop with ⟨left, hmem⟩
  have htable := hnames _ (List.mem_append_right _ (List.mem_map_of_mem hmem))
  exact Hop.writtenIn_link (hkeys _ hmem).left (hkeys _ hmem).right htable

theorem framed_compile
    (hidentity : Criteria.WrittenIn p identityColumn)
    (h : ∀ name ∈ path.names, Criteria.WrittenIn p name)
    (filters : Filters) :
    Framed (Criteria.WrittenIn p) filters (path.compile filters) :=
  (selects_framed hidentity filters).compile (tables_of_names h) (links_of_names h)
    fun _ hentry => .filter hentry

end

end Path
end Criteria
