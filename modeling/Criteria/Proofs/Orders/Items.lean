import Criteria.Proofs.Naming.Cutting
import Criteria.RowOrder

/-!
# Items of orders

An order that is made of a sort text has one item for each entry that can be read, in the order of
the entries: a column in plain characters, and a direction's keyword if the entry has a direction.
This holds of any text and any naming, since the spellings of a plain name are plain.
-/

namespace Criteria

open Text
open Text.Letter

/-!
# Plain characters
-/

def IsPlain (c : Char) : Prop :=
  ('A' ≤ c ∧ c ≤ 'Z') ∨ ('a' ≤ c ∧ c ≤ 'z') ∨ ('0' ≤ c ∧ c ≤ '9') ∨ c = '_' ∨ c = '.'

instance : DecidablePred IsPlain :=
  fun _ => inferInstanceAs (Decidable (_ ∨ _))

theorem isPlain_iff
    (c : Char) :
    IsPlain c ↔ isWordChar c = true ∨ c = '.' := by
  unfold IsPlain
  simp only [isWordChar_iff, or_assoc]

theorem ascii_of_isPlain
    {c : Char}
    (h : IsPlain c) :
    c.toNat < 0x80 := by
  rcases (isPlain_iff c).mp h with hword | rfl
  · exact ascii_of_isWordChar hword
  · decide

theorem alphabet_isPlain :
    Alphabet IsPlain :=
  alphabet_of_ascii ascii_of_isPlain (by decide) (by decide +kernel)

/-!
# Keys
-/

namespace SortKey

theorem isPlain_of_isField
    {field : List Char}
    (h : isField field = true) :
    ∀ c ∈ field, IsPlain c := by
  have hchar : ∀ {c : Char}, isFieldChar c = true -> IsPlain c := by
    intro c hc
    rw [isPlain_iff]
    simpa [isFieldChar, isWordChar] using hc
  have hstart : ∀ {c : Char}, isFieldStart c = true -> isFieldChar c = true := by
    intro c hc
    simp only [isFieldStart, isFieldChar, Char.isAlphanum, Bool.or_eq_true] at hc ⊢
    rcases hc with halpha | hmark
    · exact Or.inl (Or.inl (Or.inl halpha))
    · exact Or.inl (Or.inr hmark)
  cases field with
  | nil => cases h
  | cons c cs =>
      rcases Bool.and_eq_true_iff.mp h with ⟨hc, hcs⟩
      intro d hd
      apply hchar
      rcases List.mem_cons.mp hd with rfl | hin
      · exact hstart hc
      · exact List.all_eq_true.mp hcs d hin

theorem isField_of_ofEntry_eq_some
    {entry : List Char} {key : SortKey}
    (h : ofEntry? entry = some key) :
    isField key.field.toList = true := by
  unfold ofEntry? at h
  split at h
  next field _ =>
    split at h
    next hfield =>
      cases h
      simpa using hfield
    next => cases h
  next field token _ =>
    split at h
    next hfield =>
      rcases Option.map_eq_some_iff.mp h with ⟨direction, _, rfl⟩
      simpa using hfield
    next => cases h
  next => cases h

theorem isField_of_parse_eq_ok
    {entry : String} {key : SortKey}
    (h : parse entry = .ok key) :
    isField key.field.toList = true := by
  unfold parse at h
  split at h
  next other hother =>
    cases h
    exact isField_of_ofEntry_eq_some hother
  next => cases h

theorem writtenIn_column
    {entry : String} {key : SortKey}
    (h : parse entry = .ok key)
    (naming : Naming) :
    WrittenIn IsPlain (naming.column key.field) := by
  apply Naming.WrittenIn.column alphabet_isPlain
  exact isPlain_of_isField (isField_of_parse_eq_ok h)

end SortKey

namespace RowOrder

/-!
# Orders
-/

def accepted (sort : String) : List SortKey :=
  (entries sort).filterMap fun entry => (SortKey.parse entry).toOption

def directionText : Option Direction -> String
  | none => ""
  | some .ascending => " ASC"
  | some .descending => " DESC"

theorem sift_eq_filterMap
    (entries : List String) :
    (sift entries).1 = entries.filterMap fun entry => (SortKey.parse entry).toOption := by
  induction entries with
  | nil => rfl
  | cons entry entries ih =>
      unfold sift
      rw [List.filterMap_cons]
      cases SortKey.parse entry with
      | ok key => exact congrArg (List.cons key) ih
      | error fault => exact ih

theorem render_key
    (key : SortKey) (naming : Naming) :
    key.render naming = naming.column key.field ++ directionText key.direction := by
  cases key with
  | mk field direction =>
      cases direction with
      | none => exact (String.append_empty).symm
      | some direction =>
          cases direction with
          | ascending => exact String.append_assoc
          | descending => exact String.append_assoc

/-- Whatever the text, its order is empty or the keyword with one item for each key that is
accepted: a column in plain characters, which a direction may follow, and nothing else. -/
theorem orderBy_plain
    (sort : String) (naming : Naming) :
    orderBy sort naming =
        (if accepted sort = [] then ""
        else " ORDER BY " ++ joinWith ", " ((accepted sort).map fun key =>
          naming.column key.field ++ directionText key.direction)) ∧
      ∀ key ∈ accepted sort, WrittenIn IsPlain (naming.column key.field) := by
  constructor
  · have hkeys : (parseLenient sort).1 = accepted sort := sift_eq_filterMap (entries sort)
    have hitems : (accepted sort).map (fun key => key.render naming) =
        (accepted sort).map fun key => naming.column key.field ++ directionText key.direction :=
      List.map_congr_left fun key _ => render_key key naming
    unfold orderBy render
    rw [hkeys, hitems]
    simp only [List.isEmpty_iff]
  · intro key hkey
    rcases List.mem_filterMap.mp hkey with ⟨entry, _, hread⟩
    have hparse : SortKey.parse entry = .ok key := by
      cases hresult : SortKey.parse entry with
      | ok other =>
          rw [hresult] at hread
          cases hread
          rfl
      | error fault =>
          rw [hresult] at hread
          cases hread
    exact SortKey.writtenIn_column hparse naming

example :
    orderBy "id;1=1 --;name,sideways; userName , DESC;x)" {} = " ORDER BY id, user_name DESC" := by
  decide +kernel

end RowOrder
end Criteria
