import Criteria.Entity
import Criteria.FieldName
import Criteria.Proofs.Naming.Cutting
import Criteria.RowOrder

/-!
# Suffixes of names

The name of a column with an operator's word after it is read as this column and this operator,
however the column's name is spelled.  The column is the one that entities and orders use for the
name.
-/

namespace Criteria
namespace FieldName

open Text
open Text.Letter

/-!
# The first cut that fits
-/

def cutBy (operator? : List Char -> Option Operator) (name : List Char) :
    Option (List Char × Operator) :=
  (cuts name).findSome? fun parts => (operator? parts.2).map fun operator => (parts.1, operator)

section

variable {operator? : List Char -> Option Operator}

theorem readWith_of_cutBy_eq_some
    {naming : Naming} {name : String} {base : List Char} {operator : Operator}
    (h : cutBy operator? (normalize name.toList) = some (base, operator)) :
    readWith operator? naming name = ⟨naming.column (String.ofList base), operator⟩ := by
  unfold cutBy at h
  simp only [readWith, h]

theorem readWith_of_cutBy_eq_none
    {naming : Naming} {name : String}
    (h : cutBy operator? (normalize name.toList) = none) :
    readWith operator? naming name =
      ⟨naming.column (String.ofList (normalize name.toList)), .eq⟩ := by
  unfold cutBy at h
  simp only [readWith, h]

def cutHere (operator? : List Char -> Option Operator) (c : Char) :
    List Char -> Option (List Char × Operator)
  | '_' :: rest => (operator? rest).map fun operator => ([c], operator)
  | _ => none

theorem findSome?_map_cons
    (c : Char) (parts : List (List Char × List Char)) :
    (parts.map fun cut => (c :: cut.1, cut.2)).findSome?
        (fun cut => (operator? cut.2).map fun operator => (cut.1, operator)) =
      (parts.findSome? fun cut => (operator? cut.2).map fun operator => (cut.1, operator)).map
        (Prod.map (List.cons c) id) := by
  induction parts with
  | nil => rfl
  | cons cut parts ih =>
      rw [List.map_cons, List.findSome?_cons, List.findSome?_cons, ih]
      cases operator? cut.2 <;> rfl

theorem cutBy_cons
    {c : Char}
    (hc : isNameChar c = true)
    (cs : List Char) :
    cutBy operator? (c :: cs) =
      (cutHere operator? c cs).or ((cutBy operator? cs).map (Prod.map (List.cons c) id)) := by
  have hcuts : cuts (c :: cs) =
      (match cs with
        | '_' :: rest => [([c], rest)]
        | _ => []) ++ (cuts cs).map fun cut => (c :: cut.1, cut.2) := by
    rw [cuts.eq_def]
    exact if_pos hc
  unfold cutBy
  rw [hcuts, List.findSome?_append, findSome?_map_cons]
  unfold cutHere
  split
  next rest =>
    simp only [List.findSome?_cons]
    cases operator? rest <;> rfl
  next => rfl

theorem cutBy_append
    {base token : List Char} {operator : Operator}
    (hne : base ≠ [])
    (hbase : ∀ c ∈ base, isNameChar c = true)
    (htoken : operator? token = some operator)
    (hfirst : ∀ before between, base = before ++ '_' :: between -> before ≠ [] ->
      operator? (between ++ '_' :: token) = none) :
    cutBy operator? (base ++ '_' :: token) = some (base, operator) := by
  induction base with
  | nil => exact absurd rfl hne
  | cons c base ih =>
      rw [List.cons_append, cutBy_cons (hbase c List.mem_cons_self)]
      cases base with
      | nil => simp [cutHere, htoken]
      | cons d base =>
          have hhere : cutHere operator? c ((d :: base) ++ '_' :: token) = none := by
            unfold cutHere
            split
            next rest hrest =>
              cases hrest
              have hnone := hfirst [c] base rfl (List.cons_ne_nil c [])
              exact Option.map_eq_none_iff.mpr hnone
            next => rfl
          have hlater : cutBy operator? ((d :: base) ++ '_' :: token) =
              some (d :: base, operator) := by
            refine ih (List.cons_ne_nil d base) ?_ ?_
            · exact fun e he => hbase e (List.mem_cons_of_mem c he)
            · intro before between hcut _
              refine hfirst (c :: before) between ?_ (List.cons_ne_nil c before)
              rw [hcut]
              rfl
          rw [hhere, hlater]
          rfl

theorem cutBy_eq_none
    {name : List Char}
    (h : ∀ base token, name = base ++ '_' :: token -> base ≠ [] -> operator? token = none) :
    cutBy operator? name = none := by
  induction name with
  | nil => rfl
  | cons c cs ih =>
      by_cases hc : isNameChar c = true
      · have hhere : cutHere operator? c cs = none := by
          unfold cutHere
          split
          next rest =>
            rw [h [c] rest rfl (List.cons_ne_nil c [])]
            rfl
          next => rfl
        have hlater : cutBy operator? cs = none := by
          apply ih
          intro base token hcut _
          refine h (c :: base) token ?_ (List.cons_ne_nil c base)
          rw [hcut]
          rfl
        rw [cutBy_cons hc, hhere, hlater]
        rfl
      · have hcuts : cuts (c :: cs) = [] := by
          rw [cuts.eq_def]
          exact if_neg hc
        unfold cutBy
        rw [hcuts]
        rfl

end

/-!
# Words of operators
-/

theorem mem_suffixes_of_operatorOf?
    {word : List Char} {operator : Operator}
    (h : operatorOf? word = some operator) :
    (word, operator) ∈ suffixes := by
  rcases List.lookup_eq_some_iff.mp h with ⟨before, after, heq, _⟩
  rw [heq]
  exact List.mem_append_right before List.mem_cons_self

theorem snake_of_operatorOf?
    {word : List Char} {operator : Operator}
    (h : operatorOf? word = some operator) :
    Spelling.snake.applyChars word = word := by
  have hall : ∀ entry ∈ suffixes, Spelling.snake.applyChars entry.1 = entry.1 := by
    decide +kernel
  exact hall (word, operator) (mem_suffixes_of_operatorOf? h)

theorem not_isCapital_of_operatorOf?
    {word : List Char} {operator : Operator}
    (h : operatorOf? word = some operator) :
    word.any isCapital = false := by
  have hall : ∀ entry ∈ suffixes, entry.1.any isCapital = false := by
    decide +kernel
  exact hall (word, operator) (mem_suffixes_of_operatorOf? h)

theorem eq_not_of_operatorOf?
    {between word : List Char} {operator negated : Operator}
    (hword : operatorOf? word = some operator)
    (hnegated : operatorOf? (between ++ '_' :: word) = some negated) :
    between = "not".toList := by
  have hall : ∀ entry ∈ suffixes, ∀ other ∈ suffixes,
      ∀ rest ∈ dropEnd? ('_' :: other.1) entry.1, rest = "not".toList := by
    decide +kernel
  exact hall _ (mem_suffixes_of_operatorOf? hnegated) _ (mem_suffixes_of_operatorOf? hword)
    between (dropEnd?_eq_some_iff.mpr rfl)

/-!
# Normal forms
-/

structure IsWord (name : List Char) : Prop where
  nonempty : name ≠ []
  chars : ∀ c ∈ name, isWordChar c = true

theorem isWordChar_of_isNameChar
    {c : Char}
    (h : isNameChar c = true) :
    isWordChar c = true := by
  simp only [isNameChar, Bool.or_eq_true, Bool.and_eq_true, decide_eq_true_eq, beq_iff_eq] at h
  rw [isWordChar_iff]
  rcases h with (hlower | hdigit) | hmark
  · exact Or.inr (Or.inl hlower)
  · exact Or.inr (Or.inr (Or.inl hdigit))
  · exact Or.inr (Or.inr (Or.inr hmark))

theorem isNameChar_of_mem_snake
    {name : List Char}
    (hname : ∀ c ∈ name, isWordChar c = true) :
    ∀ c ∈ Spelling.snake.applyChars name, isNameChar c = true := by
  intro c hc
  rcases mem_joinChars hc with hseparator | ⟨piece, hpiece, hin⟩
  · rw [List.mem_singleton.mp hseparator]
    decide
  · rcases List.mem_map.mp hpiece with ⟨word, hword, rfl⟩
    have hascii := Words.ascii_of_mem_ofName hname hword
    rcases (mem_lowerAll_iff hascii).mp hin with ⟨d, hd, rfl⟩
    exact forall_ascii (p := fun d => isWordChar d = true -> isNameChar d.toLower = true)
      (by decide +kernel) (hascii d hd) (hname d (Words.mem_of_mem_ofName hword hd))

theorem snake_ne_nil
    {name : List Char}
    (h : IsWord name) :
    Spelling.snake.applyChars name ≠ [] := by
  intro hnil
  have hhead := Words.head?_snake h.chars
  rw [hnil] at hhead
  exact h.nonempty (List.head?_eq_none_iff.mp (Option.map_eq_none_iff.mp hhead.symm))

section

variable {name : List Char}

theorem isNameChar_of_mem_normalize
    (hname : ∀ c ∈ name, isWordChar c = true) :
    ∀ c ∈ normalize name, isNameChar c = true := by
  unfold normalize
  split
  next => exact isNameChar_of_mem_snake hname
  next hcapital =>
    intro c hc
    have hsmall : ¬isCapital c = true :=
      fun hlarge => hcapital (List.any_eq_true.mpr ⟨c, hc, hlarge⟩)
    exact forall_ascii
      (p := fun c => isWordChar c = true -> ¬isCapital c = true -> isNameChar c = true)
      (by decide +kernel) (ascii_of_isWordChar (hname c hc)) (hname c hc) hsmall

theorem normalize_ne_nil
    (h : IsWord name) :
    normalize name ≠ [] := by
  unfold normalize
  split
  · exact snake_ne_nil h
  · exact h.nonempty

theorem applyChars_normalize
    {spelling : Spelling}
    (hspelling : spelling ≠ .verbatim)
    (hname : ∀ c ∈ name, isWordChar c = true) :
    spelling.applyChars (normalize name) = spelling.applyChars name := by
  unfold normalize
  split
  · exact Spelling.applyChars_snake hspelling hname
  · rfl

theorem snake_normalize
    (hname : ∀ c ∈ name, isWordChar c = true) :
    Spelling.snake.applyChars (normalize name) = Spelling.snake.applyChars name :=
  applyChars_normalize (by decide) hname

theorem normalize_append
    {token : List Char} {operator : Operator}
    (htoken : operatorOf? token = some operator) :
    normalize (name ++ '_' :: token) = normalize name ++ '_' :: token := by
  have hmark : isCapital '_' = false := by
    decide +kernel
  have hany : (name ++ '_' :: token).any isCapital = name.any isCapital := by
    rw [List.any_append, List.any_cons, hmark, not_isCapital_of_operatorOf? htoken, Bool.or_false,
      Bool.or_false]
  unfold normalize
  rw [hany]
  split
  · rw [Words.snake_append, snake_of_operatorOf? htoken]
  · rfl

end

theorem column_normalize
    {naming : Naming} {field : String}
    (hspelling : naming.spelling ≠ .verbatim)
    (hfield : IsWord field.toList) :
    naming.column (String.ofList (normalize field.toList)) = naming.column field := by
  unfold Naming.column Spelling.apply
  rw [String.toList_ofList, applyChars_normalize hspelling hfield.chars]

/-!
# Reading columns with operators
-/

section

variable {naming : Naming} {field token : String}

/-- The snake case form of the field ends in `not`, and this belongs to an operator's word with the
token after it. -/
def Negates (field token : String) : Prop :=
  "_not".toList <:+ Spelling.snake.applyChars field.toList ∧
    operatorOf? ("not_".toList ++ token.toList) ≠ none

theorem cutBy_append_of_not_negated
    {base word : List Char} {operator : Operator}
    (hne : base ≠ [])
    (hbase : ∀ c ∈ base, isNameChar c = true)
    (hword : operatorOf? word = some operator)
    (hnot : "_not".toList <:+ base -> operatorOf? ("not_".toList ++ word) = none) :
    cutBy operatorOf? (base ++ '_' :: word) = some (base, operator) := by
  refine cutBy_append hne hbase hword ?_
  intro before between hcut _
  -- an earlier cut would leave a longer word, and only `not` makes one of the word
  cases hnegated : operatorOf? (between ++ '_' :: word) with
  | none => rfl
  | some negated =>
      have hbetween := eq_not_of_operatorOf? hword hnegated
      rw [hbetween] at hcut hnegated
      have hnone := hnot ⟨before, hcut.symm⟩
      exact hnegated.symm.trans hnone

theorem cutBy_normalize_append
    (hfield : IsWord field.toList)
    {operator : Operator}
    (htoken : operatorOf? token.toList = some operator)
    (hnegates : ¬Negates field token) :
    cutBy operatorOf? (normalize (field ++ "_" ++ token).toList) =
      some (normalize field.toList, operator) := by
  have hname : (field ++ "_" ++ token).toList = field.toList ++ '_' :: token.toList := by
    simp
  rw [hname, normalize_append htoken]
  refine cutBy_append_of_not_negated (normalize_ne_nil hfield)
    (isNameChar_of_mem_normalize hfield.chars) htoken ?_
  rintro ⟨before, hnormal⟩
  refine Decidable.byContradiction fun hoperator => hnegates ⟨?_, hoperator⟩
  have hsnake : Spelling.snake.applyChars field.toList =
      Spelling.snake.applyChars before ++ "_not".toList := by
    rw [← snake_normalize hfield.chars, ← hnormal]
    exact Words.snake_append before "not".toList
  rw [hsnake]
  exact List.suffix_append _ _

theorem read_append
    (hspelling : naming.spelling ≠ .verbatim)
    (hfield : IsWord field.toList)
    {operator : Operator}
    (htoken : operatorOf? token.toList = some operator)
    (hnegates : ¬Negates field token) :
    read naming (field ++ "_" ++ token) = ⟨naming.column field, operator⟩ := by
  have hcut := cutBy_normalize_append hfield htoken hnegates
  rw [read, readWith_of_cutBy_eq_some hcut, column_normalize hspelling hfield]

def EndsInOperator (name : List Char) : Prop :=
  ∃ base token, name = base ++ '_' :: token ∧ base ≠ [] ∧ operatorOf? token ≠ none

/-- The snake case form has a base, an underscore and the word of an operator. -/
def HasSuffix (field : String) : Prop :=
  ∃ base token, Spelling.snake.applyChars field.toList = base ++ '_' :: token ∧ base ≠ [] ∧
    operatorOf? token ≠ none

theorem cutBy_eq_none_of_not_endsInOperator
    {name : List Char}
    (h : ¬EndsInOperator name) :
    cutBy operatorOf? name = none := by
  refine cutBy_eq_none ?_
  intro base token hname hne
  cases hoperator : operatorOf? token with
  | none => rfl
  | some operator =>
      refine absurd ⟨base, token, hname, hne, ?_⟩ h
      rw [hoperator]
      exact Option.some_ne_none operator

theorem not_endsInOperator_normalize
    (hfield : IsWord field.toList)
    (hsuffix : ¬HasSuffix field) :
    ¬EndsInOperator (normalize field.toList) := by
  rintro ⟨base, token, hnormal, hne, hoperator⟩
  rcases Option.ne_none_iff_exists'.mp hoperator with ⟨operator, hsome⟩
  have hbase : IsWord base := by
    refine ⟨hne, fun c hc => isWordChar_of_isNameChar ?_⟩
    apply isNameChar_of_mem_normalize hfield.chars
    rw [hnormal]
    exact List.mem_append_left _ hc
  refine absurd ⟨Spelling.snake.applyChars base, token, ?_, snake_ne_nil hbase, hoperator⟩ hsuffix
  rw [← snake_normalize hfield.chars, hnormal, Words.snake_append, snake_of_operatorOf? hsome]

theorem read_eq_of_not_hasSuffix
    (hspelling : naming.spelling ≠ .verbatim)
    (hfield : IsWord field.toList)
    (hsuffix : ¬HasSuffix field) :
    read naming field = ⟨naming.column field, .eq⟩ := by
  have hnone := cutBy_eq_none_of_not_endsInOperator (not_endsInOperator_normalize hfield hsuffix)
  rw [read, readWith_of_cutBy_eq_none hnone, column_normalize hspelling hfield]

end

theorem operatorOf?_of_mem_suffixes
    {entry : List Char × Operator}
    (h : entry ∈ suffixes) :
    operatorOf? entry.1 = some entry.2 := by
  have hall : ∀ entry ∈ suffixes, operatorOf? entry.1 = some entry.2 := by
    decide +kernel
  exact hall entry h

theorem endsInOperator_iff
    {name : List Char} :
    EndsInOperator name ↔
      ∃ entry ∈ suffixes, ∃ base ∈ dropEnd? ('_' :: entry.1) name, base ≠ [] := by
  constructor
  · rintro ⟨base, token, hname, hne, hoperator⟩
    rcases Option.ne_none_iff_exists'.mp hoperator with ⟨operator, hsome⟩
    exact ⟨(token, operator), mem_suffixes_of_operatorOf? hsome, base,
      dropEnd?_eq_some_iff.mpr hname, hne⟩
  · rintro ⟨entry, hentry, base, hbase, hne⟩
    refine ⟨base, entry.1, dropEnd?_eq_some_iff.mp hbase, hne, ?_⟩
    rw [operatorOf?_of_mem_suffixes hentry]
    exact Option.some_ne_none entry.2

instance : DecidablePred EndsInOperator :=
  fun _ => decidable_of_iff _ endsInOperator_iff.symm

instance : DecidablePred HasSuffix :=
  fun field => inferInstanceAs (Decidable (EndsInOperator (Spelling.snake.applyChars field.toList)))

instance (field token : String) : Decidable (Negates field token) :=
  inferInstanceAs (Decidable (_ ∧ _))

/-!
# Columns of entities and orders
-/

theorem fieldLeaves_append
    (naming : Naming) (before after : List EntityField) :
    Entity.fieldLeaves naming (before ++ after) =
      Entity.fieldLeaves naming before ++ Entity.fieldLeaves naming after := by
  induction before with
  | nil => rfl
  | cons field before ih =>
      cases field
      rw [List.cons_append, Entity.fieldLeaves, Entity.fieldLeaves, ih, List.append_assoc]

theorem fieldLeaves_own
    (naming : Naming) (field : String) (before after : List EntityField)
    {role : Role} {isIdentity : Bool}
    (hrole : Entity.roleLeaves naming (naming.column field) role =
      [⟨naming.column field, isIdentity⟩]) :
    Entity.fieldLeaves naming (before ++ .mk field none role :: after) =
      Entity.fieldLeaves naming before ++
        ⟨naming.column field, isIdentity⟩ :: Entity.fieldLeaves naming after := by
  rw [fieldLeaves_append, Entity.fieldLeaves]
  show _ ++ (Entity.roleLeaves naming (naming.column field) role ++ _) = _
  rw [hrole]
  rfl

theorem render_sortKey
    (naming : Naming) (field : String) (direction : Option Direction) :
    (SortKey.mk field direction).render naming =
      naming.column field ++ direction.elim "" fun given => " " ++ given.keyword := by
  cases direction with
  | none => exact (String.append_empty).symm
  | some given => exact String.append_assoc

/-- Conditions, entities and orders name one column. -/
theorem names_one_column
    {naming : Naming} {field : String}
    (hspelling : naming.spelling ≠ .verbatim)
    (hfield : IsWord field.toList) :
    (∀ (token : String) (operator : Operator), operatorOf? token.toList = some operator ->
        ¬Negates field token ->
          read naming (field ++ "_" ++ token) = ⟨naming.column field, operator⟩) ∧
      (¬HasSuffix field -> read naming field = ⟨naming.column field, .eq⟩) ∧
        (∀ before after : List EntityField,
          Entity.fieldLeaves naming (before ++ .mk field none .column :: after) =
              Entity.fieldLeaves naming before ++
                ⟨naming.column field, false⟩ :: Entity.fieldLeaves naming after ∧
            Entity.fieldLeaves naming (before ++ .mk field none .identity :: after) =
              Entity.fieldLeaves naming before ++
                ⟨naming.column field, true⟩ :: Entity.fieldLeaves naming after) ∧
          ∀ direction : Option Direction, (SortKey.mk field direction).render naming =
            naming.column field ++ direction.elim "" fun given => " " ++ given.keyword := by
  refine ⟨?_, read_eq_of_not_hasSuffix hspelling hfield, ?_, render_sortKey naming field⟩
  · intro token operator htoken hnegates
    exact read_append hspelling hfield htoken hnegates
  · intro before after
    exact ⟨fieldLeaves_own naming field before after rfl,
      fieldLeaves_own naming field before after rfl⟩

theorem names_one_column_acronym :
    let naming : Naming := { spelling := .camel }
    naming.spelling ≠ .verbatim ∧ IsWord "_HTTPServer2__notId".toList ∧
      operatorOf? "not_in".toList = some .notIn ∧
        ¬Negates "_HTTPServer2__notId" "not_in" ∧ ¬HasSuffix "_HTTPServer2__notId" ∧
          read naming "_HTTPServer2__notId_not_in" = ⟨"HttpServer2NotId", .notIn⟩ ∧
            read naming "_HTTPServer2__notId" = ⟨"HttpServer2NotId", .eq⟩ := by
  intro naming
  have hspelling : naming.spelling ≠ .verbatim := by
    decide
  have hfield : IsWord "_HTTPServer2__notId".toList := by
    constructor
    · exact List.cons_ne_nil _ _
    · exact List.all_eq_true.mp (by decide +kernel)
  have hnegates : ¬Negates "_HTTPServer2__notId" "not_in" := by
    decide +kernel
  have hsuffix : ¬HasSuffix "_HTTPServer2__notId" := by
    decide +kernel
  have hcolumn : naming.column "_HTTPServer2__notId" = "HttpServer2NotId" := by
    decide +kernel
  have h := names_one_column hspelling hfield
  rw [hcolumn] at h
  exact ⟨hspelling, hfield, rfl, hnegates, hsuffix, h.left "not_in" .notIn rfl hnegates,
    h.right.left hsuffix⟩

end FieldName
end Criteria
