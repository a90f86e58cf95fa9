import Criteria.Path.Selection

/-!
# Filters of a path

The condition of a path depends on its filters through the first one that is given for each stop
after the root, and an empty one counts as none.
-/

namespace Criteria

def Fragment.nonempty? (fragment : Fragment) : Option Fragment :=
  if fragment.isEmpty then none else some fragment

theorem Fragment.nonempty?_bind
    (fragment : Fragment) :
    fragment.nonempty?.bind nonempty? = fragment.nonempty? := by
  unfold nonempty?
  cases hempty : fragment.isEmpty with
  | false => exact if_neg (by simp [hempty])
  | true => rfl

theorem Fragment.asWhere_nonempty?
    (fragment : Fragment) :
    (fragment.nonempty?.getD .empty).asWhere = fragment.asWhere := by
  unfold nonempty?
  cases hempty : fragment.isEmpty with
  | false => rfl
  | true =>
      unfold asWhere
      rw [hempty]
      rfl

def filterAt? (filters : Filters) (index : Nat) : Option Fragment :=
  (filters.lookup index).bind Fragment.nonempty?

section

variable {filters others : Filters} {index : Nat}

theorem asWhere_filterAt
    (filters : Filters) (index : Nat) :
    (filterAt filters index).asWhere = ((filterAt? filters index).getD .empty).asWhere := by
  unfold filterAt filterAt?
  cases filters.lookup index with
  | none => rfl
  | some filter => exact filter.asWhere_nonempty?.symm

theorem isEmpty_filterAt
    (filters : Filters) (index : Nat) :
    (filterAt filters index).isEmpty = (filterAt? filters index).isNone := by
  unfold filterAt filterAt?
  cases filters.lookup index with
  | none => rfl
  | some filter =>
      show filter.isEmpty = filter.nonempty?.isNone
      unfold Fragment.nonempty?
      cases filter.isEmpty <;> rfl

end

/-!
# Selections that are written alike
-/

inductive IdSet.Alike : IdSet -> IdSet -> Prop where
  | rows {table : String} {filter other : Fragment} :
      filter.asWhere = other.asWhere -> Alike (.rows table filter) (.rows table other)
  | selection (fragment : Fragment) : Alike (.selection fragment) (.selection fragment)

theorem IdSet.Alike.fragment_eq
    {inner other : IdSet}
    (h : inner.Alike other) :
    inner.fragment = other.fragment := by
  cases h with
  | rows hfilter => exact congrArg (selectFrom identityColumn _ ++ ·) hfilter
  | selection fragment => rfl

theorem Hop.project_eq_of_alike
    {inner other : IdSet}
    (hop : Hop) (left : Stop)
    (h : inner.Alike other) :
    hop.project left inner = hop.project left other := by
  have hfragment := h.fragment_eq
  unfold Hop.project
  cases h with
  | rows hfilter =>
      cases hop.link with
      | bridge leftKey rightKey table =>
          dsimp only
          rw [hfragment]
      | leftKey column =>
          dsimp only
          rw [hfragment]
      | rightKey column => exact congrArg (selectFrom column _ ++ ·) hfilter
  | selection fragment => rfl

namespace Path

/-!
# Conditions with the same filters
-/

variable {filters others : Filters}

theorem narrow_eq
    {index : Nat}
    (h : filterAt? filters index = filterAt? others index)
    (selected : Fragment) (stop : Stop) :
    narrow selected stop (filterAt filters index) =
      narrow selected stop (filterAt others index) := by
  unfold narrow
  rw [isEmpty_filterAt, isEmpty_filterAt, asWhere_filterAt, asWhere_filterAt, h]

theorem idsAt_alike
    {index : Nat} {hops : List Hop}
    (h : ∀ later, index ≤ later -> later ≤ index + hops.length ->
      filterAt? filters later = filterAt? others later)
    (stop : Stop) :
    (idsAt filters index stop hops).Alike (idsAt others index stop hops) := by
  have hhere := h index (Nat.le_refl index) (Nat.le_add_right index hops.length)
  induction hops generalizing index stop with
  | nil =>
      apply IdSet.Alike.rows
      rw [asWhere_filterAt, asWhere_filterAt, hhere]
  | cons hop hops ih =>
      have hrest : ∀ later, index + 1 ≤ later -> later ≤ index + 1 + hops.length ->
          filterAt? filters later = filterAt? others later := by
        intro later hlow hhigh
        apply h later (Nat.le_of_succ_le hlow)
        rw [List.length_cons]
        omega
      have hnext := hrest (index + 1) (Nat.le_refl _) (Nat.le_add_right _ _)
      have hselected := hop.project_eq_of_alike stop (ih hrest hop.stop hnext)
      simp only [idsAt]
      rw [hselected, narrow_eq hhere]
      exact .selection _

theorem compile_congr
    {path : Path}
    (h : ∀ index, 1 ≤ index -> index ≤ path.length ->
      filterAt? filters index = filterAt? others index) :
    path.compile filters = path.compile others := by
  have hstops : ∀ index, 1 ≤ index -> index ≤ 1 + path.rest.length ->
      filterAt? filters index = filterAt? others index := by
    intro index hlow hhigh
    apply h index hlow
    unfold length hops
    rw [List.length_cons]
    omega
  have halike := idsAt_alike hstops path.first.stop
  unfold compile
  dsimp only
  rw [halike.fragment_eq, path.first.project_eq_of_alike path.root halike]

end Path
end Criteria
