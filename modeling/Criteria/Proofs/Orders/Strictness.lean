import Mathlib.Data.List.Forall2
import Criteria.Proofs.Compilation.Runs
import Criteria.Proofs.Orders.Items
import Criteria.Proofs.Text.Parts

/-!
# Strict and lenient readers of orders

Both readers go through the entries of a sort text, which are what stands between its semicolons
without the blanks around it.  The lenient reader keeps the entries that can be read and reports the
others; the strict reader stops at the first one that the lenient reader would report.  So the two
give the same keys if nothing is reported, and otherwise the strict reader's fault is the first of
those that are reported.
-/

namespace Criteria

open Text

namespace RowOrder

/-!
# Entries
-/

/-- What is left of the pieces between the semicolons of a sort text without the blanks around
them, where something is left. -/
def EntriesOf (sort : String) (found : List String) : Prop :=
  ∃ pieces cores : List (List Char), Separated ';' sort.toList pieces ∧
    List.Forall₂ Trimmed pieces cores ∧
      found = (cores.filter fun core => core ≠ []).map String.ofList

theorem forall₂_trimmed_iff
    {pieces cores : List (List Char)} :
    List.Forall₂ Trimmed pieces cores ↔ pieces.map trimChars = cores := by
  rw [← List.forall₂_eq_eq_eq, List.forall₂_map_left_iff]
  simp only [trimChars_eq_iff]

theorem entriesOf_iff
    {sort : String} {found : List String} :
    EntriesOf sort found ↔ found = entries sort := by
  have hfilter : entries sort =
      (((split ';' sort.toList).map trimChars).filter fun core => core ≠ []).map
        String.ofList := by
    refine congrArg (List.map String.ofList) (List.filter_congr fun core _ => ?_)
    cases core <;> rfl
  constructor
  · rintro ⟨pieces, cores, hpieces, hcores, rfl⟩
    rw [hfilter, split_eq_iff.mpr hpieces, forall₂_trimmed_iff.mp hcores]
  · rintro rfl
    exact ⟨_, _, split_eq_iff.mp rfl, forall₂_trimmed_iff.mpr rfl, hfilter⟩

/-!
# Readable entries
-/

def Readable (entry : String) : Prop :=
  ∃ key, SortKey.parse entry = .ok key

theorem parse_cases
    (entry : String) :
    (∃ key, SortKey.parse entry = .ok key ∧ Readable entry) ∨
      SortKey.parse entry = .error (.sortKey entry) ∧ ¬Readable entry := by
  unfold Readable SortKey.parse
  cases SortKey.ofEntry? entry.toList with
  | some key => exact Or.inl ⟨key, rfl, key, rfl⟩
  | none =>
      refine Or.inr ⟨rfl, ?_⟩
      rintro ⟨key, hkey⟩
      cases hkey

instance (entry : String) : Decidable (Readable entry) :=
  match h : SortKey.parse entry with
  | .ok key => isTrue ⟨key, h⟩
  | .error _ => isFalse fun ⟨_, hkey⟩ => nomatch h.symm.trans hkey

def readable (found : List String) : List String :=
  found.filter fun entry => Readable entry

def dropped (found : List String) : List String :=
  found.filter fun entry => ¬Readable entry

/-!
# The readers
-/

theorem forall₂_sift
    (found : List String) :
    List.Forall₂ (fun entry key => SortKey.parse entry = .ok key) (readable found)
      (sift found).1 := by
  induction found with
  | nil => exact .nil
  | cons entry found ih =>
      rcases parse_cases entry with ⟨key, hkey, hreadable⟩ | ⟨hfault, hbad⟩
      · rw [readable, List.filter_cons_of_pos (by simpa using hreadable), sift, hkey]
        exact .cons hkey ih
      · rw [readable, List.filter_cons_of_neg (by simpa using hbad), sift, hfault]
        exact ih

theorem sift_snd
    (found : List String) :
    (sift found).2 = (dropped found).map Fault.sortKey := by
  induction found with
  | nil => rfl
  | cons entry found ih =>
      rcases parse_cases entry with ⟨key, hkey, hreadable⟩ | ⟨hfault, hbad⟩
      · rw [dropped, List.filter_cons_of_neg (by simpa using hreadable), sift, hkey]
        exact ih
      · rw [dropped, List.filter_cons_of_pos (by simpa using hbad), sift, hfault]
        exact congrArg (List.cons (Fault.sortKey entry)) ih

theorem parseAll_eq
    (found : List String) :
    parseAll found =
      match (sift found).2 with
      | [] => .ok (sift found).1
      | fault :: _ => .error fault := by
  induction found with
  | nil => rfl
  | cons entry found ih =>
      rw [parseAll, sift]
      rcases parse_cases entry with ⟨key, hkey, _⟩ | ⟨hfault, _⟩
      · rw [hkey, ih]
        show Except.bind _ _ = _
        cases (sift found).2 with
        | nil => rfl
        | cons fault faults => rfl
      · rw [hfault]
        rfl

theorem parse_eq_ok_iff
    {sort : String} {keys : List SortKey} :
    parse sort = .ok keys ↔ parseLenient sort = (keys, []) := by
  rw [parse, parseLenient, parseAll_eq]
  rcases sift (entries sort) with ⟨kept, faults⟩
  cases faults with
  | nil => simp
  | cons fault faults => simp

theorem parse_eq_error_iff
    {sort : String} {fault : Fault} :
    parse sort = .error fault ↔ (parseLenient sort).2.head? = some fault := by
  rw [parse, parseLenient, parseAll_eq]
  cases (sift (entries sort)).2 with
  | nil => simp
  | cons first faults => simp

/-- The lenient reader keeps the keys of the entries that can be read and reports the other entries,
both in order.  The strict reader reads the same keys if there is nothing to report, and otherwise
has the fault of the first entry that is reported. -/
theorem parse_agrees_parseLenient
    (sort : String) :
    (∀ found, EntriesOf sort found ↔ found = entries sort) ∧
      (List.Forall₂ (fun entry key => SortKey.parse entry = .ok key) (readable (entries sort))
          (parseLenient sort).1 ∧
        (parseLenient sort).2 = (dropped (entries sort)).map Fault.sortKey ∧
          ∀ (typeName : String) (fields : List Field) (page : PageRequest) (session : Session),
            (Session.after (Session.orderBy
                (.mk typeName fields (some { page with sort := some sort }))) session).log =
              session.log ++ (dropped (entries sort)).map fun entry =>
                .sortKeyDropped (.sortKey entry)) ∧
      ((∃ keys, parse sort = .ok keys) ↔ dropped (entries sort) = []) ∧
      (∀ keys, parse sort = .ok keys ↔ parseLenient sort = (keys, [])) ∧
      ∀ fault, parse sort = .error fault ↔
        ∃ entry rest, dropped (entries sort) = entry :: rest ∧ fault = .sortKey entry := by
  have hfaults : (parseLenient sort).2 = (dropped (entries sort)).map Fault.sortKey :=
    sift_snd (entries sort)
  refine ⟨fun found => entriesOf_iff, ⟨forall₂_sift (entries sort), hfaults, ?_⟩, ?_,
    fun keys => parse_eq_ok_iff, ?_⟩
  · intro typeName fields page session
    show session.log ++ (parseLenient sort).2.map Event.sortKeyDropped = _
    rw [hfaults, List.map_map]
    rfl
  · constructor
    · rintro ⟨keys, hkeys⟩
      rw [parse_eq_ok_iff.mp hkeys] at hfaults
      exact List.map_eq_nil_iff.mp hfaults.symm
    · intro hnone
      rw [hnone, List.map_nil] at hfaults
      exact ⟨(parseLenient sort).1, parse_eq_ok_iff.mpr (Prod.ext rfl hfaults)⟩
  · intro fault
    rw [parse_eq_error_iff, hfaults]
    cases dropped (entries sort) with
    | nil => simp
    | cons entry rest => simp [eq_comm]

example :
    parse "id;1=1 --;name,sideways; userName , DESC;x)" = .error (.sortKey "1=1 --") := by
  decide +kernel

end RowOrder
end Criteria
