import Criteria.Proofs.Naming.Qualifiers

/-!
# Names kept as they stand

Where columns are spelled as their fields are, entities and orders use a field's name as it stands.
A condition brings a name with capitals to snake case before the operator's word is looked for, and
spells the column as the snake case form stands.  So the two name one column exactly if the name has
no capitals.
-/

namespace Criteria
namespace FieldName

open Text
open Text.Letter

/-!
# Capitals
-/

def HasCapital (name : List Char) : Prop :=
  ∃ c ∈ name, 'A' ≤ c ∧ c ≤ 'Z'

instance : DecidablePred HasCapital :=
  fun name => decidable_of_iff (name.any (fun c => decide ('A' ≤ c ∧ c ≤ 'Z')) = true)
    (by simp [HasCapital])

theorem isCapital_iff_of_ascii
    {c : Char}
    (h : c.toNat < 0x80) :
    isCapital c = true ↔ 'A' ≤ c ∧ c ≤ 'Z' :=
  forall_ascii (p := fun c => isCapital c = true ↔ 'A' ≤ c ∧ c ≤ 'Z') (by decide +kernel) h

section

variable {name : List Char}

theorem any_isCapital_iff
    (hname : ∀ c ∈ name, isWordChar c = true) :
    name.any isCapital = true ↔ HasCapital name := by
  rw [List.any_eq_true]
  refine exists_congr fun c => and_congr_right fun hc => ?_
  exact isCapital_iff_of_ascii (ascii_of_isWordChar (hname c hc))

theorem normalize_of_hasCapital
    (hname : ∀ c ∈ name, isWordChar c = true)
    (h : HasCapital name) :
    normalize name = Spelling.snake.applyChars name :=
  if_pos ((any_isCapital_iff hname).mpr h)

theorem normalize_of_not_hasCapital
    (hname : ∀ c ∈ name, isWordChar c = true)
    (h : ¬HasCapital name) :
    normalize name = name :=
  if_neg fun hany => h ((any_isCapital_iff hname).mp hany)

theorem not_hasCapital_of_isNameChar
    (h : ∀ c ∈ name, isNameChar c = true) :
    ¬HasCapital name := by
  rintro ⟨c, hc, hcapital⟩
  have hchar := h c hc
  have hascii := ascii_of_isWordChar (isWordChar_of_isNameChar hchar)
  exact forall_ascii (p := fun c => isNameChar c = true -> ¬('A' ≤ c ∧ c ≤ 'Z'))
    (by decide +kernel) hascii hchar hcapital

end

theorem isWord_append
    {field token : String} {operator : Operator}
    (hfield : IsWord field.toList)
    (htoken : operatorOf? token.toList = some operator) :
    IsWord (field ++ "_" ++ token).toList := by
  have hword : operatorOf? token.toList ≠ none := by
    rw [htoken]
    exact Option.some_ne_none operator
  rcases word_of_operatorOf? hword with ⟨_, _, _, _, hchars⟩
  constructor
  · simp
  · intro c hc
    simp only [String.toList_append, List.mem_append] at hc
    rcases hc with (hbase | hmark) | hin
    · exact hfield.chars c hbase
    · rw [List.mem_singleton.mp hmark]
      decide
    · exact isWordChar_of_isNameChar (hchars c hin)

/-!
# Columns as they stand
-/

section

variable {naming : Naming} {field : String}

theorem column_of_verbatim
    (hspelling : naming.spelling = .verbatim)
    (name : String) :
    naming.column name = name := by
  unfold Naming.column
  rw [hspelling]
  exact String.ofList_toList

theorem not_hasCapital_column_read
    (hspelling : naming.spelling = .verbatim)
    (hfield : ∀ c ∈ field.toList, isWordChar c = true) :
    ¬HasCapital (read naming field).column.toList := by
  have hnormal := isNameChar_of_mem_normalize hfield
  apply not_hasCapital_of_isNameChar
  unfold read
  cases hcut : cutBy operatorOf? (normalize field.toList) with
  | none =>
      rw [readWith_of_cutBy_eq_none hcut, column_of_verbatim hspelling, String.toList_ofList]
      exact hnormal
  | some found =>
      rcases cutBy_eq_some_iff.mp hcut with ⟨token, hfound⟩
      rw [readWith_of_cutBy_eq_some hcut, column_of_verbatim hspelling, String.toList_ofList]
      exact hfound.chars

theorem read_ne_of_hasCapital
    (hspelling : naming.spelling = .verbatim)
    {name : String}
    (hname : ∀ c ∈ name.toList, isWordChar c = true)
    (h : HasCapital field.toList)
    (operator : Operator) :
    read naming name ≠ ⟨field, operator⟩ := by
  intro hread
  have hsmall := not_hasCapital_column_read hspelling hname
  rw [hread] at hsmall
  exact hsmall h

theorem read_append_of_not_hasCapital
    (hspelling : naming.spelling = .verbatim)
    (hfield : IsWord field.toList)
    {token : String} {operator : Operator}
    (htoken : operatorOf? token.toList = some operator)
    (hnegates : ¬Negates field token)
    (hsmall : ¬HasCapital field.toList) :
    read naming (field ++ "_" ++ token) = ⟨field, operator⟩ := by
  have hcut := cutBy_normalize_append hfield htoken hnegates
  rw [read, readWith_of_cutBy_eq_some hcut, normalize_of_not_hasCapital hfield.chars hsmall,
    column_of_verbatim hspelling, String.ofList_toList]

theorem read_of_not_hasCapital
    (hspelling : naming.spelling = .verbatim)
    (hfield : ∀ c ∈ field.toList, isWordChar c = true)
    (hsuffix : ¬EndsInOperator field.toList)
    (hsmall : ¬HasCapital field.toList) :
    read naming field = ⟨field, .eq⟩ := by
  have hnormal := normalize_of_not_hasCapital hfield hsmall
  have hnone : cutBy operatorOf? (normalize field.toList) = none := by
    rw [hnormal]
    exact cutBy_eq_none_of_not_endsInOperator hsuffix
  rw [read, readWith_of_cutBy_eq_none hnone, hnormal, column_of_verbatim hspelling,
    String.ofList_toList]

theorem read_append_of_hasCapital
    (hspelling : naming.spelling = .verbatim)
    (hfield : IsWord field.toList)
    {token : String} {operator : Operator}
    (htoken : operatorOf? token.toList = some operator)
    (hnegates : ¬Negates field token)
    (hcapital : HasCapital field.toList) :
    read naming (field ++ "_" ++ token) = ⟨Spelling.snake.apply field, operator⟩ := by
  have hcut := cutBy_normalize_append hfield htoken hnegates
  rw [read, readWith_of_cutBy_eq_some hcut, normalize_of_hasCapital hfield.chars hcapital,
    column_of_verbatim hspelling]
  rfl

theorem read_of_hasCapital
    (hspelling : naming.spelling = .verbatim)
    (hfield : IsWord field.toList)
    (hsuffix : ¬HasSuffix field)
    (hcapital : HasCapital field.toList) :
    read naming field = ⟨Spelling.snake.apply field, .eq⟩ := by
  have hnone := cutBy_eq_none_of_not_endsInOperator (not_endsInOperator_normalize hfield hsuffix)
  rw [read, readWith_of_cutBy_eq_none hnone, normalize_of_hasCapital hfield.chars hcapital,
    column_of_verbatim hspelling]
  rfl

end

/-- Entities and orders name the column as the field's name stands, whatever its capitals.
Conditions do so exactly if the name has no capitals; a name with capitals is the column of its
snake case form. -/
theorem read_verbatim_iff
    {naming : Naming} {field : String}
    (hspelling : naming.spelling = .verbatim)
    (hfield : IsWord field.toList) :
    (¬EndsInOperator field.toList ->
        (read naming field = ⟨field, .eq⟩ ↔ ¬HasCapital field.toList)) ∧
      (∀ (token : String) (operator : Operator), operatorOf? token.toList = some operator ->
        ¬Negates field token ->
          (read naming (field ++ "_" ++ token) = ⟨field, operator⟩ ↔
            ¬HasCapital field.toList)) ∧
      (HasCapital field.toList ->
        (¬HasSuffix field -> read naming field = ⟨Spelling.snake.apply field, .eq⟩) ∧
          ∀ (token : String) (operator : Operator), operatorOf? token.toList = some operator ->
            ¬Negates field token ->
              read naming (field ++ "_" ++ token) = ⟨Spelling.snake.apply field, operator⟩) ∧
      (∀ before after : List EntityField,
        Entity.fieldLeaves naming (before ++ .mk field none .column :: after) =
            Entity.fieldLeaves naming before ++
              ⟨field, false⟩ :: Entity.fieldLeaves naming after ∧
          Entity.fieldLeaves naming (before ++ .mk field none .identity :: after) =
            Entity.fieldLeaves naming before ++
              ⟨field, true⟩ :: Entity.fieldLeaves naming after) ∧
      ∀ direction : Option Direction, (SortKey.mk field direction).render naming =
        field ++ direction.elim "" fun given => " " ++ given.keyword := by
  have hcolumn := column_of_verbatim hspelling field
  refine ⟨?_, ?_, ?_, ?_, ?_⟩
  · intro hsuffix
    constructor
    · intro hread hcapital
      exact read_ne_of_hasCapital hspelling hfield.chars hcapital .eq hread
    · exact read_of_not_hasCapital hspelling hfield.chars hsuffix
  · intro token operator htoken hnegates
    constructor
    · intro hread hcapital
      have hname := isWord_append hfield htoken
      exact read_ne_of_hasCapital hspelling hname.chars hcapital operator hread
    · exact read_append_of_not_hasCapital hspelling hfield htoken hnegates
  · intro hcapital
    refine ⟨fun hsuffix => read_of_hasCapital hspelling hfield hsuffix hcapital, ?_⟩
    intro token operator htoken hnegates
    exact read_append_of_hasCapital hspelling hfield htoken hnegates hcapital
  · intro before after
    have hleaf := @fieldLeaves_own naming field before after
    rw [hcolumn] at hleaf
    exact ⟨hleaf rfl, hleaf rfl⟩
  · intro direction
    rw [render_sortKey, hcolumn]

theorem read_verbatim_iff_createdAt :
    let naming : Naming := { spelling := .verbatim }
    naming.spelling = .verbatim ∧
      (IsWord "x2_createdAt".toList ∧ ¬EndsInOperator "x2_createdAt".toList ∧
        operatorOf? "not_in".toList = some .notIn ∧ ¬Negates "x2_createdAt" "not_in" ∧
          read naming "x2_createdAt" ≠ ⟨"x2_createdAt", .eq⟩ ∧
            read naming "x2_createdAt_not_in" = ⟨"x_2_created_at", .notIn⟩) ∧
      IsWord "x2_created_at".toList ∧ ¬EndsInOperator "x2_created_at".toList ∧
        ¬Negates "x2_created_at" "not_in" ∧
          read naming "x2_created_at" = ⟨"x2_created_at", .eq⟩ ∧
            read naming "x2_created_at_not_in" = ⟨"x2_created_at", .notIn⟩ := by
  intro naming
  have hword : ∀ name : String, name.toList ≠ [] -> name.toList.all isWordChar = true ->
      IsWord name.toList :=
    fun _ hne hall => ⟨hne, List.all_eq_true.mp hall⟩
  have hlarge : IsWord "x2_createdAt".toList := hword _ (by decide) (by decide +kernel)
  have hsmall : IsWord "x2_created_at".toList := hword _ (by decide) (by decide +kernel)
  have hlargeSuffix : ¬EndsInOperator "x2_createdAt".toList := by
    decide +kernel
  have hsmallSuffix : ¬EndsInOperator "x2_created_at".toList := by
    decide +kernel
  have hlargeNegates : ¬Negates "x2_createdAt" "not_in" := by
    decide +kernel
  have hsmallNegates : ¬Negates "x2_created_at" "not_in" := by
    decide +kernel
  have hcapital : HasCapital "x2_createdAt".toList := by
    decide +kernel
  have hno : ¬HasCapital "x2_created_at".toList := by
    decide +kernel
  have hsnake : Spelling.snake.apply "x2_createdAt" = "x_2_created_at" := by
    decide +kernel
  have hspelling : naming.spelling = .verbatim := rfl
  rcases read_verbatim_iff hspelling hlarge with ⟨hbare, _, hcapitals, _⟩
  rcases read_verbatim_iff hspelling hsmall with ⟨hplain, happended, _⟩
  have hread := (hcapitals hcapital).right "not_in" .notIn rfl hlargeNegates
  rw [hsnake] at hread
  exact ⟨hspelling,
    ⟨hlarge, hlargeSuffix, rfl, hlargeNegates,
      fun hsame => (hbare hlargeSuffix).mp hsame hcapital, hread⟩,
    hsmall, hsmallSuffix, hsmallNegates, (hplain hsmallSuffix).mpr hno,
    (happended "not_in" .notIn rfl hsmallNegates).mpr hno⟩

/-- A condition is put on another column than the one that entities and orders have for the
name. -/
theorem read_ne_column_createTime :
    let naming : Naming := { spelling := .verbatim }
    IsWord "createTime".toList ∧ ¬HasSuffix "createTime" ∧ ¬Negates "createTime" "ge" ∧
      naming.column "createTime" = "createTime" ∧
        read naming "createTime_ge" = ⟨"create_time", .ge⟩ ∧
          read naming "createTime_ge" ≠ ⟨"createTime", .ge⟩ ∧
            read naming "createTime" ≠ ⟨"createTime", .eq⟩ := by
  refine ⟨⟨by decide, List.all_eq_true.mp (by decide +kernel)⟩, ?_⟩
  decide +kernel

end FieldName
end Criteria
