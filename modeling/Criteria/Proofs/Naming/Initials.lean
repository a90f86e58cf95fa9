import Mathlib.Data.List.Basic
import Criteria.Proofs.Naming.Verbatim
import Criteria.Proofs.Orders.Spellings

/-!
# Initials of columns

A column in snake case begins as the name of its field does, and so an identifier stays one.  In
camel case a column is, apart from case, the name without its underscores.  It is an identifier
exactly if the first character of the name that is no underscore is a letter; a name of underscores
alone leaves no column, and a name without letters leaves a number.
-/

namespace Criteria

open Text
open Text.Letter

/-!
# Characters apart from their case
-/

namespace Text
namespace Letter

theorem isDigit_eq_false_iff
    {c : Char}
    (h : isWordChar c = true)
    (hmark : c ≠ '_') :
    isDigit c = false ↔ isLetter c = true := by
  rcases class_of_isWordChar h with hsame | hdigit | hletter
  · exact absurd hsame hmark
  · rcases not_isLetter_of_isDigit hdigit with ⟨hlower, hupper⟩
    simp [isLetter, hlower, hupper, hdigit]
  · refine iff_of_true ?_ hletter
    cases hdigit : isDigit c with
    | false => rfl
    | true =>
        rcases not_isLetter_of_isDigit hdigit with ⟨hlower, hupper⟩
        simp [isLetter, hlower, hupper] at hletter

end Letter
end Text

namespace Words

theorem map_toLower_lowerAll
    {word : List Char}
    (h : ∀ c ∈ word, c.toNat < 0x80) :
    (lowerAll word).map Char.toLower = word.map Char.toLower := by
  have hlower : ∀ c ∈ word, c.toLower.toLower = c.toLower := fun c hc => toLower_toLower (h c hc)
  rw [lowerAll_of_ascii h, List.map_map]
  exact List.map_congr_left hlower

theorem map_toLower_capitalize
    {word : List Char}
    (h : ∀ c ∈ word, c.toNat < 0x80) :
    (capitalize word).map Char.toLower = word.map Char.toLower := by
  cases word with
  | nil => rfl
  | cons c cs =>
      rcases List.forall_mem_cons.mp h with ⟨hc, hcs⟩
      rw [capitalize, upper_of_ascii hc, List.map_append, map_toLower_lowerAll hcs]
      show c.toUpper.toLower :: cs.map Char.toLower = c.toLower :: cs.map Char.toLower
      rw [toLower_toUpper hc]

theorem map_toLower_flatMap_capitalize
    {words : List (List Char)}
    (h : ∀ word ∈ words, ∀ c ∈ word, c.toNat < 0x80) :
    (words.flatMap capitalize).map Char.toLower = words.flatten.map Char.toLower := by
  induction words with
  | nil => rfl
  | cons word words ih =>
      rcases List.forall_mem_cons.mp h with ⟨hword, hwords⟩
      rw [List.flatMap_cons, List.flatten_cons, List.map_append, List.map_append, ih hwords,
        map_toLower_capitalize hword]

theorem map_toLower_camel
    {words : List (List Char)}
    (h : ∀ word ∈ words, ∀ c ∈ word, c.toNat < 0x80) :
    (camel words).map Char.toLower = words.flatten.map Char.toLower := by
  cases words with
  | nil => rfl
  | cons word words =>
      rcases List.forall_mem_cons.mp h with ⟨hword, hwords⟩
      rw [camel, List.flatten_cons, List.map_append, List.map_append, map_toLower_lowerAll hword,
        map_toLower_flatMap_capitalize hwords]

end Words

namespace FieldName

/-!
# Identifiers and numbers
-/

structure IsIdentifier (name : List Char) : Prop extends IsWord name where
  initial : ∀ c ∈ name.head?, isDigit c = false

theorem isIdentifier_iff
    {name : List Char} :
    IsIdentifier name ↔ name ≠ [] ∧ name.all isWordChar = true ∧
      name.head?.any isDigit = false := by
  rw [List.all_eq_true, Option.any_eq_false]
  constructor
  · intro h
    exact ⟨h.nonempty, h.chars, fun c hc => by simpa using h.initial c hc⟩
  · rintro ⟨hne, hchars, hinitial⟩
    exact ⟨⟨hne, hchars⟩, fun c hc => by simpa using hinitial c hc⟩

instance : DecidablePred IsIdentifier :=
  fun _ => decidable_of_iff _ isIdentifier_iff.symm

def IsNumber (text : List Char) : Prop :=
  text ≠ [] ∧ ∀ c ∈ text, isDigit c = true

instance : DecidablePred IsNumber :=
  fun text => decidable_of_iff (text ≠ [] ∧ text.all isDigit = true) (by simp [IsNumber])

/-- The first character that is no underscore is a letter. -/
def LedByLetter (name : List Char) : Prop :=
  ∃ c ∈ name.find? (· != '_'), isLetter c = true

instance : DecidablePred LedByLetter :=
  fun name => decidable_of_iff ((name.find? (· != '_')).any isLetter = true)
    (Option.any_eq_true _ _)

theorem IsIdentifier.not_isNumber
    {name : List Char}
    (h : IsIdentifier name) :
    ¬IsNumber name := by
  rintro ⟨_, hdigits⟩
  rcases List.exists_cons_of_ne_nil h.nonempty with ⟨c, cs, rfl⟩
  have hinitial := h.initial c rfl
  rw [hdigits c List.mem_cons_self] at hinitial
  cases hinitial

theorem IsIdentifier.of_append
    {base rest : List Char}
    (h : IsIdentifier (base ++ rest))
    (hne : base ≠ []) :
    IsIdentifier base := by
  refine ⟨⟨hne, fun c hc => h.chars c (List.mem_append_left rest hc)⟩, ?_⟩
  intro c hc
  apply h.initial
  rwa [List.head?_append_of_ne_nil _ hne]

/-!
# Snake case
-/

section

variable {name : List Char}

theorem IsIdentifier.snake
    (h : IsIdentifier name) :
    IsIdentifier (Spelling.snake.applyChars name) := by
  refine ⟨⟨snake_ne_nil h.toIsWord, ?_⟩, ?_⟩
  · exact alphabet_isWordChar.applyChars .snake h.chars
  · intro d hd
    rw [Words.head?_snake h.chars] at hd
    rcases Option.map_eq_some_iff.mp hd with ⟨c, hc, rfl⟩
    rw [isDigit_toLower (ascii_of_isWordChar (h.chars c (List.mem_of_mem_head? hc)))]
    exact h.initial c hc

theorem IsIdentifier.normalize
    (h : IsIdentifier name) :
    IsIdentifier (normalize name) := by
  unfold FieldName.normalize
  split
  · exact h.snake
  · exact h

/-!
# Camel case
-/

theorem ascii_of_mem_camel
    (hname : ∀ c ∈ name, isWordChar c = true) :
    ∀ c ∈ Spelling.camel.applyChars name, c.toNat < 0x80 :=
  fun c hc => ascii_of_isWordChar (alphabet_isWordChar.applyChars .camel hname c hc)

theorem ascii_of_mem_unmarked
    (hname : ∀ c ∈ name, isWordChar c = true) :
    ∀ c ∈ name.filter (· != '_'), c.toNat < 0x80 :=
  fun c hc => ascii_of_isWordChar (hname c (List.mem_of_mem_filter hc))

theorem map_toLower_camel
    (hname : ∀ c ∈ name, isWordChar c = true) :
    (Spelling.camel.applyChars name).map Char.toLower =
      (name.filter (· != '_')).map Char.toLower := by
  have hwords : ∀ word ∈ Words.ofName name, ∀ c ∈ word, c.toNat < 0x80 :=
    fun word hword => Words.ascii_of_mem_ofName hname hword
  have hfilter : (name.filter fun c => !Words.isSeparator c) = name.filter (· != '_') := by
    refine List.filter_congr fun c hc => ?_
    rw [Words.isSeparator_of_isWordChar (hname c hc)]
    rfl
  rw [Spelling.applyChars, Words.map_toLower_camel hwords, Words.flatten_ofName, hfilter]

theorem camel_eq_nil_iff
    (hname : ∀ c ∈ name, isWordChar c = true) :
    Spelling.camel.applyChars name = [] ↔ ∀ c ∈ name, c = '_' := by
  rw [← List.map_eq_nil_iff (f := Char.toLower), map_toLower_camel hname, List.map_eq_nil_iff,
    List.filter_eq_nil_iff]
  simp

theorem head?_camel
    (hname : ∀ c ∈ name, isWordChar c = true) :
    (Spelling.camel.applyChars name).head?.map isDigit =
      (name.find? (· != '_')).map isDigit := by
  have hfirst := congrArg List.head? (map_toLower_camel hname)
  rw [List.head?_map, List.head?_map, List.head?_filter] at hfirst
  have hlower : ∀ first : Option Char, (∀ c ∈ first, c.toNat < 0x80) ->
      (first.map Char.toLower).map isDigit = first.map isDigit := by
    intro first hascii
    cases first with
    | none => rfl
    | some c => exact congrArg some (isDigit_toLower (hascii c rfl))
  rw [← hlower, hfirst, hlower]
  · intro c hc
    exact ascii_of_isWordChar (hname c (List.mem_of_find?_eq_some hc))
  · intro c hc
    exact ascii_of_mem_camel hname c (List.mem_of_mem_head? hc)

theorem ledByLetter_iff
    (hname : ∀ c ∈ name, isWordChar c = true) :
    LedByLetter name ↔ (name.find? (· != '_')).map isDigit = some false := by
  rw [Option.map_eq_some_iff]
  refine exists_congr fun c => and_congr_right fun hc => ?_
  have hmark : c ≠ '_' := by
    simpa using List.find?_some hc
  exact (isDigit_eq_false_iff (hname c (List.mem_of_find?_eq_some hc)) hmark).symm

theorem isIdentifier_camel_iff
    (hname : ∀ c ∈ name, isWordChar c = true) :
    IsIdentifier (Spelling.camel.applyChars name) ↔ LedByLetter name := by
  rw [ledByLetter_iff hname, ← head?_camel hname, Option.map_eq_some_iff]
  constructor
  · intro h
    rcases List.exists_cons_of_ne_nil h.nonempty with ⟨c, cs, hcamel⟩
    have hhead : (Spelling.camel.applyChars name).head? = some c := by
      rw [hcamel]
      rfl
    exact ⟨c, hhead, h.initial c hhead⟩
  · rintro ⟨c, hhead, hdigit⟩
    refine ⟨⟨?_, alphabet_isWordChar.applyChars .camel hname⟩, ?_⟩
    · intro hnil
      rw [hnil] at hhead
      cases hhead
    · intro d hd
      rw [Option.mem_def.mp hd] at hhead
      cases hhead
      exact hdigit

theorem forall_isDigit_map_toLower_iff
    {cs : List Char}
    (h : ∀ c ∈ cs, c.toNat < 0x80) :
    (∀ d ∈ cs.map Char.toLower, isDigit d = true) ↔ ∀ c ∈ cs, isDigit c = true := by
  rw [List.forall_mem_map]
  refine forall₂_congr fun c hc => ?_
  rw [isDigit_toLower (h c hc)]

theorem forall_isDigit_camel_iff
    (hname : ∀ c ∈ name, isWordChar c = true) :
    (∀ d ∈ Spelling.camel.applyChars name, isDigit d = true) ↔
      ∀ c ∈ name, isLetter c = false := by
  rw [← forall_isDigit_map_toLower_iff (ascii_of_mem_camel hname), map_toLower_camel hname,
    forall_isDigit_map_toLower_iff (ascii_of_mem_unmarked hname)]
  simp only [List.mem_filter, bne_iff_ne, and_imp]
  refine forall₂_congr fun c hc => ?_
  by_cases hmark : c = '_'
  · rw [hmark]
    decide
  · have hclass := isDigit_eq_false_iff (hname c hc) hmark
    rw [← Bool.not_eq_true, ← hclass]
    simp [hmark]

theorem isNumber_camel_iff
    (hname : ∀ c ∈ name, isWordChar c = true) :
    IsNumber (Spelling.camel.applyChars name) ↔
      (∃ c ∈ name, isDigit c = true) ∧ ∀ c ∈ name, isLetter c = false := by
  unfold IsNumber
  rw [forall_isDigit_camel_iff hname]
  refine and_congr_left fun hletters => ?_
  rw [Ne, camel_eq_nil_iff hname]
  simp only [Classical.not_forall, exists_prop]
  refine exists_congr fun c => and_congr_right fun hc => ?_
  constructor
  · intro hmark
    have hclass := isDigit_eq_false_iff (hname c hc) hmark
    rw [hletters c hc] at hclass
    simpa using hclass
  · rintro hdigit rfl
    revert hdigit
    decide

end

/-!
# Columns
-/

/-- How a name reads as a column.  It is an identifier, except in camel case where the underscores
are dropped before a digit or the end. -/
structure Renders (naming : Naming) (name column : String) : Prop where
  spelled : column = naming.column name
  chars : ∀ c ∈ column.toList, isWordChar c = true
  identifier : IsIdentifier column.toList ↔ (naming.spelling = .camel -> LedByLetter name.toList)
  empty : column = "" ↔ naming.spelling = .camel ∧ ∀ c ∈ name.toList, c = '_'
  number : IsNumber column.toList ↔
    naming.spelling = .camel ∧ (∃ c ∈ name.toList, isDigit c = true) ∧
      ∀ c ∈ name.toList, isLetter c = false

section

variable {naming : Naming} {name : String}

theorem toList_column
    (naming : Naming) (name : String) :
    (naming.column name).toList = naming.spelling.applyChars name.toList :=
  String.toList_ofList

theorem isIdentifier_column
    (hspelling : naming.spelling ≠ .camel)
    (hname : IsIdentifier name.toList) :
    IsIdentifier (naming.column name).toList := by
  rw [toList_column]
  cases hcase : naming.spelling with
  | snake => exact hname.snake
  | camel => exact absurd hcase hspelling
  | verbatim => exact hname

theorem renders_column
    (naming : Naming)
    (hname : IsIdentifier name.toList) :
    Renders naming name (naming.column name) := by
  have hchars : ∀ c ∈ (naming.column name).toList, isWordChar c = true := by
    rw [toList_column]
    exact alphabet_isWordChar.applyChars naming.spelling hname.chars
  by_cases hspelling : naming.spelling = .camel
  · have hcolumn : (naming.column name).toList = Spelling.camel.applyChars name.toList := by
      rw [toList_column, hspelling]
    constructor
    case spelled => rfl
    case chars => exact hchars
    case identifier =>
      rw [hcolumn, isIdentifier_camel_iff hname.chars]
      exact (imp_iff_right hspelling).symm
    case empty =>
      rw [← String.toList_eq_nil_iff, hcolumn, camel_eq_nil_iff hname.chars]
      exact (and_iff_right hspelling).symm
    case number =>
      rw [hcolumn, isNumber_camel_iff hname.chars]
      exact (and_iff_right hspelling).symm
  · have hcolumn := isIdentifier_column hspelling hname
    constructor
    case spelled => rfl
    case chars => exact hchars
    case identifier => exact iff_of_true hcolumn fun hcamel => absurd hcamel hspelling
    case empty =>
      refine iff_of_false ?_ fun hcamel => hspelling hcamel.left
      intro hempty
      exact hcolumn.nonempty (String.toList_eq_nil_iff.mpr hempty)
    case number => exact iff_of_false hcolumn.not_isNumber fun hcamel => hspelling hcamel.left

/-!
# Names of conditions and of orders
-/

/-- The part of a name in its normal form before an operator's word; all of it if there is no such
word. -/
def bare (operator? : List Char -> Option Operator) (name : List Char) : List Char :=
  ((cutBy operator? (normalize name)).map Prod.fst).getD (normalize name)

variable {operator? : List Char -> Option Operator}

theorem column_readWith
    (operator? : List Char -> Option Operator)
    (naming : Naming) (name : String) :
    (readWith operator? naming name).column =
      naming.column (String.ofList (bare operator? name.toList)) := by
  unfold bare
  cases hcut : cutBy operator? (normalize name.toList) with
  | none =>
      rw [readWith_of_cutBy_eq_none hcut]
      rfl
  | some found =>
      rw [readWith_of_cutBy_eq_some hcut]
      rfl

theorem IsIdentifier.bare
    {name : List Char}
    (h : IsIdentifier name) :
    IsIdentifier (bare operator? name) := by
  unfold FieldName.bare
  cases hcut : cutBy operator? (FieldName.normalize name) with
  | none => exact h.normalize
  | some found =>
      rcases cutBy_eq_some_iff.mp hcut with ⟨token, hbase⟩
      have hnormal := h.normalize
      rw [hbase.cut] at hnormal
      exact hnormal.of_append hbase.nonempty

end

theorem not_isDigit_of_isInitial
    {c : Char}
    (h : SortKey.IsInitial c) :
    isDigit c = false := by
  have h9 : '9'.val.toNat = 57 := rfl
  have hA : 'A'.val.toNat = 65 := rfl
  have ha : 'a'.val.toNat = 97 := rfl
  simp only [SortKey.IsInitial, Char.le_def, UInt32.le_iff_toNat_le] at h
  simp only [isDigit, Bool.and_eq_false_iff, decide_eq_false_iff_not, Char.le_def,
    UInt32.le_iff_toNat_le]
  rcases h with hupper | hlower | rfl
  · omega
  · omega
  · decide

theorem isIdentifier_of_fieldName
    {field : List Char}
    (h : SortKey.FieldName field)
    (hdot : '.' ∉ field) :
    IsIdentifier field := by
  refine ⟨⟨h.ne_nil, ?_⟩, ?_⟩
  · intro c hc
    rcases (isPlain_iff c).mp (h.isPlain c hc) with hword | rfl
    · exact hword
    · exact absurd hc hdot
  · intro c hc
    cases h with
    | mk hinitial _ =>
        cases hc
        exact not_isDigit_of_isInitial hinitial

/-- An identifier stays one in every spelling but camel case, and there exactly if it is led by a
letter; so do the columns of entities, those of the accepted keys without dots, and those that
are read of a field's name, whether or not an operator's word is taken off. -/
theorem identifiers_stay_iff
    (naming : Naming) :
    (∀ name : String, IsIdentifier name.toList ->
        Renders naming name (naming.column name) ∧
          ∀ before after : List EntityField,
            Entity.fieldLeaves naming (before ++ .mk name none .column :: after) =
                Entity.fieldLeaves naming before ++
                  ⟨naming.column name, false⟩ :: Entity.fieldLeaves naming after ∧
              Entity.fieldLeaves naming (before ++ .mk name none .identity :: after) =
                Entity.fieldLeaves naming before ++
                  ⟨naming.column name, true⟩ :: Entity.fieldLeaves naming after) ∧
      (∀ (entry : String) (key : SortKey), SortKey.parse entry = .ok key ->
        '.' ∉ key.field.toList ->
          Renders naming key.field (naming.column key.field) ∧
            key.render naming =
              naming.column key.field ++ RowOrder.directionText key.direction) ∧
      ∀ (operator? : List Char -> Option Operator) (name : String), IsIdentifier name.toList ->
        Renders naming (String.ofList (bare operator? name.toList))
          (readWith operator? naming name).column := by
  refine ⟨?_, ?_, ?_⟩
  · intro name hname
    refine ⟨renders_column naming hname, fun before after => ?_⟩
    exact ⟨fieldLeaves_own naming name before after rfl,
      fieldLeaves_own naming name before after rfl⟩
  · intro entry key hentry hdot
    have hname := SortKey.isField_iff.mp (SortKey.isField_of_parse_eq_ok hentry)
    have hfield := isIdentifier_of_fieldName hname hdot
    exact ⟨renders_column naming hfield, RowOrder.render_key key naming⟩
  · intro operator? name hname
    rw [column_readWith]
    apply renders_column
    rw [String.toList_ofList]
    exact hname.bare

theorem identifiers_stay_iff_secondChoice :
    let naming : Naming := { spelling := .camel }
    (IsIdentifier "__choice2".toList ∧ LedByLetter "__choice2".toList ∧
        naming.column "__choice2" = "Choice2" ∧ IsIdentifier "Choice2".toList) ∧
      (IsIdentifier "_2nd_choice".toList ∧ ¬LedByLetter "_2nd_choice".toList ∧
        naming.column "_2nd_choice" = "2NdChoice" ∧ ¬IsIdentifier "2NdChoice".toList) ∧
      (SortKey.parse "\t_1_2 , DESC" = .ok ⟨"_1_2", some .descending⟩ ∧
        (SortKey.mk "_1_2" (some .descending)).render naming = "12 DESC" ∧
          IsNumber "12".toList) ∧
      IsIdentifier "___not_in_list".toList ∧
        (readQualified naming "___not_in_list").column = "" := by
  intro naming
  have hidentifiers : IsIdentifier "__choice2".toList ∧ IsIdentifier "_2nd_choice".toList ∧
      IsIdentifier "___not_in_list".toList := by
    decide +kernel
  have hled : LedByLetter "__choice2".toList ∧ ¬LedByLetter "_2nd_choice".toList := by
    decide +kernel
  have hcolumns : naming.column "__choice2" = "Choice2" ∧
      naming.column "_2nd_choice" = "2NdChoice" ∧ naming.column "_1_2" = "12" := by
    decide +kernel
  have hkey : SortKey.parse "\t_1_2 , DESC" = .ok ⟨"_1_2", some .descending⟩ := by
    decide +kernel
  have hletters : "_1_2".toList.any isLetter = false := by
    decide +kernel
  have hmarks : (bare qualifiedOperatorOf? "___not_in_list".toList).all (· == '_') = true := by
    decide +kernel
  rcases hidentifiers with ⟨hfirst, hsecond, hbase⟩
  rcases hcolumns with ⟨hchoice, hnd, htwelve⟩
  rcases identifiers_stay_iff naming with ⟨hnames, hkeys, hreadings⟩
  have hstays := (hnames "__choice2" hfirst).left.identifier
  have hlost := (hnames "_2nd_choice" hsecond).left.identifier
  rcases hkeys _ _ hkey (by decide) with ⟨hrenders, hitem⟩
  have hcounts := hrenders.number
  have hread := (hreadings qualifiedOperatorOf? "___not_in_list" hbase).empty
  rw [hchoice] at hstays
  rw [hnd] at hlost
  rw [htwelve] at hcounts hitem
  rw [String.toList_ofList] at hread
  have hnumber : IsNumber "12".toList := by
    refine hcounts.mpr ⟨rfl, ⟨'1', by decide, by decide⟩, fun c hc => ?_⟩
    simpa using List.any_eq_false.mp hletters c hc
  have hempty : (readQualified naming "___not_in_list").column = "" :=
    hread.mpr ⟨rfl, fun c hc => beq_iff_eq.mp (List.all_eq_true.mp hmarks c hc)⟩
  exact ⟨⟨hfirst, hled.left, hchoice, hstays.mpr fun _ => hled.left⟩,
    ⟨hsecond, hled.right, hnd, fun hidentifier => hled.right (hlost.mp hidentifier rfl)⟩,
    ⟨hkey, hitem, hnumber⟩, hbase, hempty⟩

/-- The underscore that makes an identifier of a digit is dropped, and rows are sorted by the first
column, whatever it is. -/
theorem orderBy_number_of_identifier :
    let naming : Naming := { spelling := .camel }
    IsIdentifier "_1".toList ∧ SortKey.parse "_1" = .ok ⟨"_1", none⟩ ∧
      naming.column "_1" = "1" ∧ ¬IsIdentifier (naming.column "_1").toList ∧
        RowOrder.orderBy "_1" naming = " ORDER BY 1" ∧
          RowOrder.orderBy "_" naming = " ORDER BY " ∧ read naming "__gt" = ⟨"", .gt⟩ := by
  decide +kernel

end FieldName
end Criteria
