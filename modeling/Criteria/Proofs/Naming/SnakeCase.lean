import Mathlib.Data.List.Chain
import Criteria.Proofs.Naming.Verbatim

/-!
# Names in snake case

A name in snake case is cut into words once more before it is spelled.  Beside its underscores it is
cut where a letter and a digit meet, and nowhere else.  So its column is the name with an underscore
at each such place, and it is the name itself exactly if there is none.
-/

namespace Criteria

open Text
open Text.Letter

namespace Words

/-!
# Where letters meet digits
-/

def isSmall (c : Char) : Bool :=
  'a' ≤ c && c ≤ 'z'

def Meet (c d : Char) : Prop :=
  (isSmall c = true ∧ isDigit d = true) ∨ (isDigit c = true ∧ isSmall d = true)

instance (c d : Char) : Decidable (Meet c d) :=
  inferInstanceAs (Decidable (_ ∨ _))

def Unmixed (name : List Char) : Prop :=
  name.IsChain fun c d => ¬Meet c d

instance : DecidablePred Unmixed :=
  fun name => inferInstanceAs (Decidable (name.IsChain _))

/-- The name with an underscore wherever a letter meets a digit. -/
def spaced : List Char -> List Char
  | [] => []
  | [c] => [c]
  | c :: d :: cs => if Meet c d then c :: '_' :: spaced (d :: cs) else c :: spaced (d :: cs)

theorem spaced_eq_self_iff
    (name : List Char) :
    spaced name = name ↔ Unmixed name := by
  unfold Unmixed
  fun_induction spaced name with
  | case1 => simp
  | case2 c => simp
  | case3 c d cs hmeet ih =>
      have hmark : '_' ≠ d := by
        rintro rfl
        revert hmeet
        simp [Meet, isSmall, isDigit]
      simp [hmeet, hmark]
  | case4 c d cs hmeet ih =>
      rw [List.cons_eq_cons, ih, List.isChain_cons_cons]
      simp [hmeet]

/-!
# Letters and digits of names
-/

theorem isSmall_iff_isLower
    {c : Char}
    (h : c.toNat < 0x80) :
    isSmall c = isLower c :=
  forall_ascii (p := fun c => isSmall c = isLower c) (by decide +kernel) h

section

variable {c d : Char}

theorem ascii_of_isNameChar
    (h : FieldName.isNameChar c = true) :
    c.toNat < 0x80 :=
  ascii_of_isWordChar (FieldName.isWordChar_of_isNameChar h)

theorem lower_of_isNameChar
    (h : FieldName.isNameChar c = true) :
    lower c = [c] :=
  forall_ascii (p := fun c => FieldName.isNameChar c = true -> lower c = [c]) (by decide +kernel)
    (ascii_of_isNameChar h) h

theorem isSeparator_of_isNameChar
    (h : FieldName.isNameChar c = true) :
    isSeparator c = (c == '_') :=
  isSeparator_of_isWordChar (FieldName.isWordChar_of_isNameChar h)

theorem not_isUpper_of_isNameChar
    (h : FieldName.isNameChar c = true) :
    isUpper c = false :=
  forall_ascii (p := fun c => FieldName.isNameChar c = true -> isUpper c = false)
    (by decide +kernel) (ascii_of_isNameChar h) h

theorem isSeam_iff_meet
    (hc : FieldName.isNameChar c = true)
    (hd : FieldName.isNameChar d = true)
    (next : Option Char) :
    isSeam c d next = true ↔ Meet c d := by
  simp [isSeam, Meet, not_isUpper_of_isNameChar hc, not_isUpper_of_isNameChar hd,
    isSmall_iff_isLower (ascii_of_isNameChar hc), isSmall_iff_isLower (ascii_of_isNameChar hd)]

end

/-!
# Words one character at a time
-/

theorem prepend_append
    (c : Char)
    {words : List (List Char)}
    (h : words ≠ [])
    (more : List (List Char)) :
    prepend c (words ++ more) = prepend c words ++ more := by
  cases words with
  | nil => exact absurd rfl h
  | cons word words => rfl

theorem ofName_cons_cons
    {c d : Char}
    (hc : isSeparator c = false)
    (hd : isSeparator d = false)
    (cs : List Char) :
    ∃ next, ofName (c :: d :: cs) =
      if isSeam c d next then [c] :: ofName (d :: cs) else prepend c (ofName (d :: cs)) := by
  have hfirst : ∃ piece pieces, splitWhere isSeparator (d :: cs) = (d :: piece) :: pieces := by
    rw [splitWhere, if_neg (by simp [hd])]
    cases splitWhere isSeparator cs with
    | nil => exact ⟨[], [], rfl⟩
    | cons piece pieces => exact ⟨piece, pieces, rfl⟩
  rcases hfirst with ⟨piece, pieces, hpieces⟩
  refine ⟨piece.head?, ?_⟩
  rcases exists_cutAtSeams_cons d piece with ⟨word, words, hwords⟩
  have hwhole : splitWhere isSeparator (c :: d :: cs) = (c :: d :: piece) :: pieces := by
    rw [splitWhere, if_neg (by simp [hc]), hpieces]
  unfold ofName
  rw [hwhole, hpieces, List.flatMap_cons, List.flatMap_cons, cutAtSeams]
  split
  · rfl
  · rw [prepend_append]
    rw [hwords]
    exact List.cons_ne_nil _ _

theorem lowerAll_of_isNameChar
    {word : List Char}
    (h : ∀ c ∈ word, FieldName.isNameChar c = true) :
    lowerAll word = word := by
  have hsame : ∀ c ∈ word, c.toLower = id c := by
    intro c hc
    have hlower := lower_of_isNameChar (h c hc)
    rw [lower_of_ascii (ascii_of_isNameChar (h c hc))] at hlower
    exact List.singleton_inj.mp hlower
  rw [lowerAll_of_ascii fun c hc => ascii_of_isNameChar (h c hc), List.map_congr_left hsame,
    List.map_id]

theorem snake_cons
    {c : Char}
    (hc : FieldName.isNameChar c = true)
    {words : List (List Char)}
    (h : words ≠ []) :
    snake ([c] :: words) = c :: '_' :: snake words := by
  have hword : lowerAll [c] = [c] := lowerAll_of_isNameChar (by simpa using hc)
  cases words with
  | nil => exact absurd rfl h
  | cons word words =>
      unfold snake
      rw [List.map_cons, List.map_cons, joinChars, hword]
      rfl

theorem snake_prepend
    {c : Char}
    (hc : FieldName.isNameChar c = true)
    {words : List (List Char)}
    (hwords : ∀ word ∈ words, ∀ d ∈ word, FieldName.isNameChar d = true) :
    snake (prepend c words) = c :: snake words := by
  have hword : ∀ word : List Char, (∀ d ∈ word, FieldName.isNameChar d = true) ->
      lowerAll (c :: word) = c :: lowerAll word := by
    intro word hchars
    rw [lowerAll_of_isNameChar (List.forall_mem_cons.mpr ⟨hc, hchars⟩),
      lowerAll_of_isNameChar hchars]
  unfold snake
  cases words with
  | nil => exact hword [] (List.forall_mem_nil _)
  | cons word words =>
      rw [prepend, List.map_cons, hword word (hwords word List.mem_cons_self)]
      cases words <;> rfl

theorem snake_singleton
    {c : Char}
    (h : FieldName.isNameChar c = true) :
    Spelling.snake.applyChars [c] = [c] :=
  forall_ascii
    (p := fun c => FieldName.isNameChar c = true -> Spelling.snake.applyChars [c] = [c])
    (by decide +kernel) (ascii_of_isNameChar h) h

theorem not_meet_mark
    (c : Char) :
    ¬Meet '_' c ∧ ¬Meet c '_' := by
  simp [Meet, isSmall, isDigit]

theorem snake_cons_cons
    {c d : Char} {cs : List Char}
    (hc : FieldName.isNameChar c = true)
    (hrest : ∀ e ∈ d :: cs, FieldName.isNameChar e = true) :
    Spelling.snake.applyChars (c :: d :: cs) =
      if Meet c d then c :: '_' :: Spelling.snake.applyChars (d :: cs)
      else c :: Spelling.snake.applyChars (d :: cs) := by
  have hd := hrest d List.mem_cons_self
  by_cases hcmark : c = '_'
  · rw [hcmark, if_neg (not_meet_mark d).left]
    exact snake_append [] (d :: cs)
  · by_cases hdmark : d = '_'
    · rw [hdmark, if_neg (not_meet_mark c).right]
      have happend := snake_append [c] cs
      have hmark := snake_append [] cs
      rw [snake_singleton hc] at happend
      exact happend.trans (congrArg (List.cons c) hmark.symm)
    · have hcclear : isSeparator c = false := by
        simp [isSeparator_of_isNameChar hc, hcmark]
      have hdclear : isSeparator d = false := by
        simp [isSeparator_of_isNameChar hd, hdmark]
      rcases ofName_cons_cons hcclear hdclear cs with ⟨next, hwords⟩
      simp only [Spelling.applyChars]
      rw [hwords]
      by_cases hmeet : Meet c d
      · rw [if_pos hmeet, if_pos ((isSeam_iff_meet hc hd next).mpr hmeet)]
        exact snake_cons hc (ofName_ne_nil _)
      · rw [if_neg hmeet, if_neg fun hseam => hmeet ((isSeam_iff_meet hc hd next).mp hseam)]
        exact snake_prepend hc fun word hword e he => hrest e (mem_of_mem_ofName hword he)

theorem applyChars_snake_of_isNameChar
    {name : List Char}
    (h : ∀ c ∈ name, FieldName.isNameChar c = true) :
    Spelling.snake.applyChars name = spaced name := by
  induction name with
  | nil => rfl
  | cons c cs ih =>
      have hrest : ∀ d ∈ cs, FieldName.isNameChar d = true :=
        fun d hd => h d (List.mem_cons_of_mem c hd)
      cases cs with
      | nil => exact snake_singleton (h c List.mem_cons_self)
      | cons d cs =>
          rw [snake_cons_cons (h c List.mem_cons_self) hrest, ih hrest]
          rfl

end Words

namespace FieldName

theorem snake_eq_self_iff
    {name : List Char}
    (hname : ∀ c ∈ name, isWordChar c = true) :
    Spelling.snake.applyChars name = name ↔ ¬HasCapital name ∧ Words.Unmixed name := by
  constructor
  · intro hself
    have hchars := isNameChar_of_mem_snake hname
    rw [hself] at hchars
    rw [Words.applyChars_snake_of_isNameChar hchars] at hself
    exact ⟨not_hasCapital_of_isNameChar hchars, (Words.spaced_eq_self_iff name).mp hself⟩
  · rintro ⟨hsmall, hunmixed⟩
    have hchars := isNameChar_of_mem_normalize hname
    rw [normalize_of_not_hasCapital hname hsmall] at hchars
    rw [Words.applyChars_snake_of_isNameChar hchars, Words.spaced_eq_self_iff]
    exact hunmixed

/-!
# Columns of names in snake case
-/

section

variable {naming : Naming} {name : String}

theorem column_of_isNameChar
    (hspelling : naming.spelling = .snake)
    (hname : ∀ c ∈ name.toList, isNameChar c = true) :
    naming.column name = String.ofList (Words.spaced name.toList) := by
  unfold Naming.column Spelling.apply
  rw [hspelling, Words.applyChars_snake_of_isNameChar hname]

theorem read_append_of_isNameChar
    (naming : Naming)
    (hne : name.toList ≠ [])
    (hname : ∀ c ∈ name.toList, isNameChar c = true)
    {token : String} {operator : Operator}
    (htoken : operatorOf? token.toList = some operator)
    (hnot : "_not".toList <:+ name.toList -> operatorOf? ("not_".toList ++ token.toList) = none) :
    read naming (name ++ "_" ++ token) = ⟨naming.column name, operator⟩ := by
  have hword : ∀ c ∈ name.toList, isWordChar c = true :=
    fun c hc => isWordChar_of_isNameChar (hname c hc)
  have hcut : cutBy operatorOf? (normalize (name ++ "_" ++ token).toList) =
      some (name.toList, operator) := by
    have hwhole : (name ++ "_" ++ token).toList = name.toList ++ '_' :: token.toList := by
      simp
    rw [hwhole, normalize_append htoken,
      normalize_of_not_hasCapital hword (not_hasCapital_of_isNameChar hname)]
    exact cutBy_append_of_not_negated hne hname htoken hnot
  rw [read, readWith_of_cutBy_eq_some hcut, String.ofList_toList]

theorem read_of_isNameChar
    (naming : Naming)
    (hname : ∀ c ∈ name.toList, isNameChar c = true)
    (hsuffix : ¬EndsInOperator name.toList) :
    read naming name = ⟨naming.column name, .eq⟩ := by
  have hword : ∀ c ∈ name.toList, isWordChar c = true :=
    fun c hc => isWordChar_of_isNameChar (hname c hc)
  have hnormal := normalize_of_not_hasCapital hword (not_hasCapital_of_isNameChar hname)
  have hnone := cutBy_eq_none_of_not_endsInOperator hsuffix
  rw [← hnormal] at hnone
  rw [read, readWith_of_cutBy_eq_none hnone, hnormal, String.ofList_toList]

end

/-- Conditions, entities and orders use one column for a name in snake case: the name with an
underscore wherever a letter meets a digit.  It is the name itself exactly if they meet nowhere. -/
theorem column_own_iff
    {naming : Naming} {name : String}
    (hspelling : naming.spelling = .snake)
    (hne : name.toList ≠ [])
    (hname : ∀ c ∈ name.toList, isNameChar c = true) :
    let column := String.ofList (Words.spaced name.toList)
    (column = name ↔ Words.Unmixed name.toList) ∧
      naming.column name = column ∧
      (∀ before after : List EntityField,
        Entity.fieldLeaves naming (before ++ .mk name none .column :: after) =
            Entity.fieldLeaves naming before ++
              ⟨column, false⟩ :: Entity.fieldLeaves naming after ∧
          Entity.fieldLeaves naming (before ++ .mk name none .identity :: after) =
            Entity.fieldLeaves naming before ++
              ⟨column, true⟩ :: Entity.fieldLeaves naming after) ∧
      (∀ direction : Option Direction, (SortKey.mk name direction).render naming =
        column ++ direction.elim "" fun given => " " ++ given.keyword) ∧
      (¬EndsInOperator name.toList -> read naming name = ⟨column, .eq⟩) ∧
      ∀ (token : String) (operator : Operator), operatorOf? token.toList = some operator ->
        ("_not".toList <:+ name.toList -> operatorOf? ("not_".toList ++ token.toList) = none) ->
          read naming (name ++ "_" ++ token) = ⟨column, operator⟩ := by
  intro column
  have hcolumn : naming.column name = column := column_of_isNameChar hspelling hname
  refine ⟨?_, hcolumn, ?_, ?_, ?_, ?_⟩
  · rw [← Words.spaced_eq_self_iff, ← String.toList_inj, String.toList_ofList]
  · intro before after
    rw [← hcolumn]
    exact ⟨fieldLeaves_own naming name before after rfl, fieldLeaves_own naming name before after rfl⟩
  · intro direction
    rw [render_sortKey, hcolumn]
  · intro hsuffix
    rw [read_of_isNameChar naming hname hsuffix, hcolumn]
  · intro token operator htoken hnot
    rw [read_append_of_isNameChar naming hne hname htoken hnot, hcolumn]

theorem column_own_iff_lineOfAddress :
    let naming : Naming := {}
    (Words.Unmixed "created_at_2".toList ∧ naming.column "created_at_2" = "created_at_2" ∧
        read naming "created_at_2_not_in" = ⟨"created_at_2", .notIn⟩) ∧
      ¬Words.Unmixed "line2_of_address".toList ∧
        naming.column "line2_of_address" = "line_2_of_address" ∧
          read naming "line2_of_address_not_in" = ⟨"line_2_of_address", .notIn⟩ := by
  intro naming
  have hchars : ∀ name : String, name.toList.all isNameChar = true ->
      ∀ c ∈ name.toList, isNameChar c = true :=
    fun _ hall => List.all_eq_true.mp hall
  have hnot : ∀ name : String, ¬"_not".toList <:+ name.toList ->
      ("_not".toList <:+ name.toList -> operatorOf? ("not_".toList ++ "not_in".toList) = none) :=
    fun _ hnever hends => absurd hends hnever
  have hspelling : naming.spelling = .snake := rfl
  have hlast := hchars "created_at_2" (by decide +kernel)
  have hinner := hchars "line2_of_address" (by decide +kernel)
  have hunmixed : Words.Unmixed "created_at_2".toList := by
    decide +kernel
  have hmixed : ¬Words.Unmixed "line2_of_address".toList := by
    decide +kernel
  rcases column_own_iff hspelling (by decide) hlast with ⟨hown, hcolumn, _, _, _, hread⟩
  rcases column_own_iff hspelling (by decide) hinner with
    ⟨_, hspaced, _, _, _, hspacedRead⟩
  have hsame := hown.mpr hunmixed
  have hother : String.ofList (Words.spaced "line2_of_address".toList) = "line_2_of_address" := by
    decide +kernel
  rw [hsame] at hcolumn hread
  rw [hother] at hspaced hspacedRead
  exact ⟨⟨hunmixed, hcolumn, hread "not_in" .notIn rfl (hnot _ (by decide +kernel))⟩, hmixed,
    hspaced, hspacedRead "not_in" .notIn rfl (hnot _ (by decide +kernel))⟩

/-- A digit after a letter is taken for a word of its own, and the column is another one. -/
theorem column_ne_address1 :
    let naming : Naming := {}
    (∀ c ∈ "address1".toList, isNameChar c = true) ∧
      naming.column "address1" = "address_1" ∧
        (SortKey.mk "address1" none).render naming = "address_1" ∧
          read naming "address1_in" = ⟨"address_1", .isIn⟩ ∧
            read naming "address1_in" ≠ ⟨"address1", .isIn⟩ := by
  refine ⟨List.all_eq_true.mp (by decide +kernel), ?_⟩
  decide +kernel

end FieldName
end Criteria
