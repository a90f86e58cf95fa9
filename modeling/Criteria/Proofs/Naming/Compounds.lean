import Criteria.Proofs.Naming.SnakeCase

/-!
# Compound names

A compound name is made of words of small letters and written in one of three ways: with underscores
between the words, with a capital at each word after the first, or with a capital at each word.  Each
way has one normal form, the first of them, so conditions read all three alike.
-/

namespace Criteria

open Text
open Text.Letter

namespace Words

/-!
# Words of small letters
-/

/-- At least two small letters: a capital alone would be taken for part of an acronym. -/
structure IsSmallWord (word : List Char) : Prop where
  long : 2 ≤ word.length
  small : ∀ c ∈ word, isSmall c = true

instance : DecidablePred IsSmallWord :=
  fun word => decidable_of_iff (2 ≤ word.length ∧ word.all isSmall = true)
    ⟨fun h => ⟨h.left, List.all_eq_true.mp h.right⟩,
      fun h => ⟨h.long, List.all_eq_true.mpr h.small⟩⟩

/-!
# Three ways to write words as a name
-/

def withUnderscores (words : List (List Char)) : List Char :=
  joinChars ['_'] words

def withCapital : List Char -> List Char
  | [] => []
  | c :: cs => c.toUpper :: cs

def withCapitals (words : List (List Char)) : List Char :=
  words.flatMap withCapital

def withInnerCapitals : List (List Char) -> List Char
  | [] => []
  | word :: words => word ++ withCapitals words

/-!
# Small letters and their capitals
-/

theorem isNameChar_of_isSmall
    {c : Char}
    (h : isSmall c = true) :
    FieldName.isNameChar c = true := by
  simp [FieldName.isNameChar, ← isSmall.eq_def, h]

theorem isLower_of_isSmall
    {c : Char}
    (h : isSmall c = true) :
    isLower c = true := by
  rwa [← isSmall_iff_isLower (ascii_of_isNameChar (isNameChar_of_isSmall h))]

structure IsCapitalOf (c capital : Char) : Prop where
  upper : isUpper capital = true
  lower : lower capital = [c]
  clear : isSeparator capital = false
  range : 'A' ≤ capital ∧ capital ≤ 'Z'

theorem isCapitalOf_toUpper
    {c : Char}
    (h : isSmall c = true) :
    IsCapitalOf c c.toUpper := by
  have hall := forall_ascii
    (p := fun c => isSmall c = true ->
      isUpper c.toUpper = true ∧ lower c.toUpper = [c] ∧ isSeparator c.toUpper = false ∧
        'A' ≤ c.toUpper ∧ c.toUpper ≤ 'Z')
    (by decide +kernel) (ascii_of_isNameChar (isNameChar_of_isSmall h)) h
  rcases hall with ⟨hupper, hlower, hclear, hrange⟩
  exact ⟨hupper, hlower, hclear, hrange⟩

theorem IsSmallWord.exists_cons
    {word : List Char}
    (h : IsSmallWord word) :
    ∃ c run, word = c :: run ∧ isSmall c = true ∧ run ≠ [] ∧ ∀ d ∈ run, isSmall d = true := by
  cases word with
  | nil => exact absurd h.long (by simp)
  | cons c run =>
      rcases List.forall_mem_cons.mp h.small with ⟨hc, hrun⟩
      refine ⟨c, run, rfl, hc, ?_, hrun⟩
      rintro rfl
      exact absurd h.long (by simp)

/-!
# Cutting at capitals
-/

theorem cutAtSeams_run
    {run : List Char} {capital : Char}
    (hne : run ≠ [])
    (hrun : ∀ c ∈ run, isLower c = true)
    (hcapital : isUpper capital = true)
    (rest : List Char) :
    cutAtSeams (run ++ capital :: rest) = run :: cutAtSeams (capital :: rest) := by
  induction run with
  | nil => exact absurd rfl hne
  | cons c run ih =>
      rcases List.forall_mem_cons.mp hrun with ⟨hc, hlater⟩
      cases run with
      | nil =>
          have hseam : isSeam c capital rest.head? = true := by
            simp [isSeam, hc, hcapital]
          rw [List.singleton_append, cutAtSeams, if_pos hseam]
      | cons d run =>
          have hseam := not_isSeam_of_plain (Or.inr ⟨hc, hlater d List.mem_cons_self⟩)
          have hwhole := ih (List.cons_ne_nil d run) hlater
          rw [List.cons_append] at hwhole
          rw [List.cons_append, List.cons_append, cutAtSeams, if_neg (hseam _), hwhole]
          rfl

section

variable {c : Char}

theorem not_isLower_of_isUpper
    (h : isUpper c = true) :
    isLower c = false := by
  refine Bool.eq_false_iff.mpr fun hlower => ?_
  rw [not_isUpper_of_isLower hlower] at h
  cases h

theorem not_isDigit_of_isUpper
    (h : isUpper c = true) :
    isDigit c = false := by
  refine Bool.eq_false_iff.mpr fun hdigit => ?_
  rw [(not_isLetter_of_isDigit hdigit).right] at h
  cases h

end

theorem cutAtSeams_capital
    {capital d : Char}
    (hcapital : isUpper capital = true)
    (hd : isLower d = true)
    (rest : List Char) :
    cutAtSeams (capital :: d :: rest) = prepend capital (cutAtSeams (d :: rest)) := by
  have hseam : isSeam capital d rest.head? = false := by
    simp [isSeam, not_isLower_of_isUpper hcapital, not_isDigit_of_isUpper hcapital,
      not_isUpper_of_isLower hd, not_isDigit_of_isLower hd]
  rw [cutAtSeams, if_neg (Bool.eq_false_iff.mp hseam)]

theorem cutAtSeams_run_withCapitals
    {run : List Char} {words : List (List Char)}
    (hne : run ≠ [])
    (hrun : ∀ c ∈ run, isSmall c = true)
    (hwords : ∀ word ∈ words, IsSmallWord word) :
    cutAtSeams (run ++ withCapitals words) = run :: words.map withCapital := by
  have hlower : ∀ {cs : List Char}, (∀ c ∈ cs, isSmall c = true) -> ∀ c ∈ cs, isLower c = true :=
    fun hcs c hc => isLower_of_isSmall (hcs c hc)
  induction words generalizing run with
  | nil =>
      rw [withCapitals, List.flatMap_nil, List.append_nil]
      exact cutAtSeams_of_plain (Or.inr (hlower hrun))
  | cons word words ih =>
      rcases List.forall_mem_cons.mp hwords with ⟨hword, hlater⟩
      rcases hword.exists_cons with ⟨c, tail, rfl, hc, htail, hsmall⟩
      have hcapital := isCapitalOf_toUpper hc
      have hwhole : withCapitals ((c :: tail) :: words) =
          c.toUpper :: (tail ++ withCapitals words) := rfl
      have hrest := ih htail hsmall hlater
      rw [hwhole, cutAtSeams_run hne (hlower hrun) hcapital.upper]
      rcases List.exists_cons_of_ne_nil htail with ⟨d, tail, rfl⟩
      rw [List.cons_append] at hrest ⊢
      rw [cutAtSeams_capital hcapital.upper (hlower hsmall d List.mem_cons_self), hrest]
      rfl

theorem cutAtSeams_withCapitals
    {word : List Char} {words : List (List Char)}
    (hword : IsSmallWord word)
    (hwords : ∀ other ∈ words, IsSmallWord other) :
    cutAtSeams (withCapitals (word :: words)) = (word :: words).map withCapital := by
  rcases hword.exists_cons with ⟨c, run, rfl, hc, hne, hrun⟩
  have hrest := cutAtSeams_run_withCapitals hne hrun hwords
  have hwhole : withCapitals ((c :: run) :: words) = c.toUpper :: (run ++ withCapitals words) := rfl
  rcases List.exists_cons_of_ne_nil hne with ⟨d, run, rfl⟩
  rw [List.cons_append] at hrest hwhole
  rw [hwhole, cutAtSeams_capital (isCapitalOf_toUpper hc).upper
    (isLower_of_isSmall (hrun d List.mem_cons_self)), hrest]
  rfl

/-!
# Words back from their capitals
-/

theorem lowerAll_of_isSmall
    {word : List Char}
    (h : ∀ c ∈ word, isSmall c = true) :
    lowerAll word = word :=
  lowerAll_of_isNameChar fun c hc => isNameChar_of_isSmall (h c hc)

theorem lowerAll_withCapital
    {word : List Char}
    (h : IsSmallWord word) :
    lowerAll (withCapital word) = word := by
  rcases h.exists_cons with ⟨c, run, rfl, hc, _, hrun⟩
  have hcapital := isCapitalOf_toUpper hc
  have hfirst : c.toUpper.toNat < 0x80 :=
    ascii_of_isWordChar ((isWordChar_iff _).mpr (Or.inl hcapital.range))
  have hascii : ∀ d ∈ c.toUpper :: run, d.toNat < 0x80 :=
    List.forall_mem_cons.mpr
      ⟨hfirst, fun d hd => ascii_of_isNameChar (isNameChar_of_isSmall (hrun d hd))⟩
  have hlower := hcapital.lower
  rw [lower_of_ascii hfirst] at hlower
  rw [withCapital, lowerAll_cons_of_ascii hascii, lowerAll_of_isSmall hrun,
    List.singleton_inj.mp hlower]

theorem map_lowerAll_withCapital
    {words : List (List Char)}
    (h : ∀ word ∈ words, IsSmallWord word) :
    (words.map withCapital).map lowerAll = words := by
  rw [List.map_map]
  conv_rhs => rw [← List.map_id words]
  exact List.map_congr_left fun word hword => lowerAll_withCapital (h word hword)

structure IsWordLetter (c : Char) : Prop where
  word : isWordChar c = true
  clear : isSeparator c = false

theorem isWordLetter_of_isSmall
    {c : Char}
    (h : isSmall c = true) :
    IsWordLetter c := by
  have hchar := isNameChar_of_isSmall h
  constructor
  case word => exact FieldName.isWordChar_of_isNameChar hchar
  case clear =>
    rw [isSeparator_of_isNameChar hchar, beq_eq_false_iff_ne]
    rintro rfl
    cases h

theorem isWordLetter_withCapitals
    {words : List (List Char)}
    (h : ∀ word ∈ words, IsSmallWord word) :
    ∀ c ∈ withCapitals words, IsWordLetter c := by
  intro d hd
  rcases List.mem_flatMap.mp hd with ⟨word, hword, hin⟩
  rcases (h word hword).exists_cons with ⟨c, run, rfl, hc, _, hrun⟩
  rcases List.mem_cons.mp hin with rfl | hlater
  · have hcapital := isCapitalOf_toUpper hc
    exact ⟨(isWordChar_iff _).mpr (Or.inl hcapital.range), hcapital.clear⟩
  · exact isWordLetter_of_isSmall (hrun d hlater)

theorem isWordLetter_withInnerCapitals
    {words : List (List Char)}
    (h : ∀ word ∈ words, IsSmallWord word) :
    ∀ c ∈ withInnerCapitals words, IsWordLetter c := by
  cases words with
  | nil => exact nofun
  | cons word words =>
      rcases List.forall_mem_cons.mp h with ⟨hword, hlater⟩
      exact List.forall_mem_append.mpr
        ⟨fun c hc => isWordLetter_of_isSmall (hword.small c hc), isWordLetter_withCapitals hlater⟩

theorem snake_of_cutAtSeams
    {name : List Char} {pieces words : List (List Char)}
    (hname : ∀ c ∈ name, IsWordLetter c)
    (hcut : cutAtSeams name = pieces)
    (hlower : pieces.map lowerAll = words) :
    Spelling.snake.applyChars name = withUnderscores words := by
  have hclear := splitWhere_of_clear fun c hc => (hname c hc).clear
  simp only [Spelling.applyChars, ofName, snake, withUnderscores]
  rw [hclear, List.flatMap_singleton, hcut, hlower]

end Words

namespace FieldName

open Words

/-!
# One normal form
-/

section

variable {words : List (List Char)}

theorem isNameChar_withUnderscores
    (h : ∀ word ∈ words, IsSmallWord word) :
    ∀ c ∈ withUnderscores words, isNameChar c = true := by
  intro c hc
  rcases mem_joinChars hc with hmark | ⟨word, hword, hin⟩
  · rw [List.mem_singleton.mp hmark]
    decide
  · exact isNameChar_of_isSmall ((h word hword).small c hin)

theorem normalize_withUnderscores
    (h : ∀ word ∈ words, IsSmallWord word) :
    normalize (withUnderscores words) = withUnderscores words := by
  have hchars := isNameChar_withUnderscores h
  exact normalize_of_not_hasCapital (fun c hc => isWordChar_of_isNameChar (hchars c hc))
    (not_hasCapital_of_isNameChar hchars)

theorem hasCapital_withCapitals
    (hne : words ≠ [])
    (h : ∀ word ∈ words, IsSmallWord word) :
    HasCapital (withCapitals words) := by
  rcases List.exists_cons_of_ne_nil hne with ⟨word, words, rfl⟩
  rcases (h word List.mem_cons_self).exists_cons with ⟨c, run, rfl, hc, _, _⟩
  exact ⟨c.toUpper, List.mem_cons_self, (isCapitalOf_toUpper hc).range⟩

theorem normalize_withCapitals
    (hne : words ≠ [])
    (h : ∀ word ∈ words, IsSmallWord word) :
    normalize (withCapitals words) = withUnderscores words := by
  have hletters := isWordLetter_withCapitals h
  rw [normalize_of_hasCapital (fun c hc => (hletters c hc).word) (hasCapital_withCapitals hne h)]
  rcases List.exists_cons_of_ne_nil hne with ⟨word, words, rfl⟩
  rcases List.forall_mem_cons.mp h with ⟨hword, hlater⟩
  exact snake_of_cutAtSeams hletters (cutAtSeams_withCapitals hword hlater)
    (map_lowerAll_withCapital h)

theorem normalize_withInnerCapitals
    (h : ∀ word ∈ words, IsSmallWord word) :
    normalize (withInnerCapitals words) = withUnderscores words := by
  have hletters := isWordLetter_withInnerCapitals h
  match words, h, hletters with
  | [], _, _ => rfl
  | [word], h, _ =>
      -- a single word has no capital and is its own normal form
      have hself := normalize_withUnderscores h
      have hsame : withInnerCapitals [word] = withUnderscores [word] := List.append_nil word
      rw [hsame, hself]
  | word :: next :: words, h, hletters =>
      rcases List.forall_mem_cons.mp h with ⟨hword, hlater⟩
      have hcapital : HasCapital (withInnerCapitals (word :: next :: words)) := by
        rcases hasCapital_withCapitals (List.cons_ne_nil next words) hlater with ⟨c, hc, hrange⟩
        exact ⟨c, List.mem_append_right word hc, hrange⟩
      rw [normalize_of_hasCapital (fun c hc => (hletters c hc).word) hcapital]
      have hne : word ≠ [] := by
        rintro rfl
        exact absurd hword.long (by simp)
      refine snake_of_cutAtSeams hletters (cutAtSeams_run_withCapitals hne hword.small hlater) ?_
      rw [List.map_cons, lowerAll_of_isSmall hword.small, map_lowerAll_withCapital hlater]

def spellings (words : List (List Char)) : List String :=
  [withUnderscores words, withInnerCapitals words, withCapitals words].map String.ofList

theorem normalize_of_mem_spellings
    (hne : words ≠ [])
    (h : ∀ word ∈ words, IsSmallWord word)
    {name : String}
    (hname : name ∈ spellings words) :
    normalize name.toList = withUnderscores words := by
  simp only [spellings, List.map_cons, List.map_nil, List.mem_cons, List.not_mem_nil,
    or_false] at hname
  rcases hname with rfl | rfl | rfl
  · rw [String.toList_ofList]
    exact normalize_withUnderscores h
  · rw [String.toList_ofList]
    exact normalize_withInnerCapitals h
  · rw [String.toList_ofList]
    exact normalize_withCapitals hne h

end

theorem readWith_of_normalize_eq
    {name other : String}
    (h : normalize name.toList = normalize other.toList)
    (operator? : List Char -> Option Operator) (naming : Naming) :
    readWith operator? naming name = readWith operator? naming other := by
  unfold readWith
  rw [h]

theorem cutBy_withUnderscores
    {base suffix : List (List Char)} {operator : Operator}
    (hne : base ≠ [])
    (hbase : ∀ word ∈ base, IsSmallWord word)
    (hsuffix : operatorOf? (withUnderscores suffix) = some operator)
    (hnot : "_not".toList <:+ withUnderscores base ->
      operatorOf? ("not_".toList ++ withUnderscores suffix) = none) :
    cutBy operatorOf? (withUnderscores (base ++ suffix)) =
      some (withUnderscores base, operator) := by
  have hnonempty : suffix ≠ [] := by
    rintro rfl
    cases hsuffix
  have hbaseNe : withUnderscores base ≠ [] := by
    rcases List.exists_cons_of_ne_nil hne with ⟨word, words, rfl⟩
    rcases (hbase word List.mem_cons_self).exists_cons with ⟨c, run, rfl, _, _, _⟩
    cases words <;> exact List.cons_ne_nil _ _
  have hcut := cutBy_append_of_not_negated hbaseNe (isNameChar_withUnderscores hbase) hsuffix hnot
  unfold withUnderscores at hcut ⊢
  rw [joinChars_append ['_'] hne hnonempty, List.append_assoc]
  exact hcut

/-- However words of small letters are written as a name, plain and qualified readers find the same
column and operator; where the last words are an operator's, the words before them are the column. -/
theorem spellings_read_alike
    {words : List (List Char)}
    (hne : words ≠ [])
    (hwords : ∀ word ∈ words, IsSmallWord word)
    (naming : Naming) :
    (∀ name ∈ spellings words, ∀ other ∈ spellings words,
        read naming name = read naming other ∧
          readQualified naming name = readQualified naming other) ∧
      ∀ (base suffix : List (List Char)) (operator : Operator), words = base ++ suffix ->
        base ≠ [] -> operatorOf? (withUnderscores suffix) = some operator ->
          ("_not".toList <:+ withUnderscores base ->
              operatorOf? ("not_".toList ++ withUnderscores suffix) = none) ->
            ∀ name ∈ spellings words,
              read naming name =
                ⟨naming.column (String.ofList (withUnderscores base)), operator⟩ := by
  constructor
  · intro name hname other hother
    have hsame : normalize name.toList = normalize other.toList := by
      rw [normalize_of_mem_spellings hne hwords hname, normalize_of_mem_spellings hne hwords hother]
    exact ⟨readWith_of_normalize_eq hsame _ naming, readWith_of_normalize_eq hsame _ naming⟩
  · rintro base suffix operator rfl hbase hsuffix hnot name hname
    have hbaseWords := (List.forall_mem_append.mp hwords).left
    have hcut := cutBy_withUnderscores hbase hbaseWords hsuffix hnot
    rw [← normalize_of_mem_spellings hne hwords hname] at hcut
    exact readWith_of_cutBy_eq_some hcut

theorem spellings_read_alike_userName :
    let words := ["user", "name", "not", "contain"].map String.toList
    let naming : Naming := { spelling := .camel }
    spellings words = ["user_name_not_contain", "userNameNotContain", "UserNameNotContain"] ∧
      read naming "UserNameNotContain" = read naming "userNameNotContain" ∧
        readQualified naming "UserNameNotContain" =
            readQualified naming "user_name_not_contain" ∧
          read naming "UserNameNotContain" = ⟨"userName", .notContain⟩ := by
  intro words naming
  have hnames : spellings words =
      ["user_name_not_contain", "userNameNotContain", "UserNameNotContain"] := by
    decide +kernel
  have hwords : ∀ word ∈ words, IsSmallWord word := by
    decide +kernel
  have hcolumn : naming.column
      (String.ofList (withUnderscores (["user", "name"].map String.toList))) = "userName" := by
    decide +kernel
  have hnot : ¬"_not".toList <:+ withUnderscores (["user", "name"].map String.toList) := by
    decide +kernel
  rcases spellings_read_alike (by decide) hwords naming with ⟨halike, hread⟩
  rw [hnames] at halike hread
  have hpascal := hread (["user", "name"].map String.toList)
    (["not", "contain"].map String.toList) .notContain rfl (by decide) rfl
    (fun hends => absurd hends hnot) "UserNameNotContain" (by simp)
  rw [hcolumn] at hpascal
  exact ⟨hnames, (halike _ (by simp) _ (by simp)).left, (halike _ (by simp) _ (by simp)).right,
    hpascal⟩

end FieldName
end Criteria
