import Criteria.Proofs.Naming.Alphabet
import Criteria.Proofs.Text.Splitting

/-!
# Cutting spelled names

The words of an ASCII name hold digits alone or letters alone, and so they are no longer cut once
they are in lower case.  The snake case form of a name therefore has the words of the name, and it
is spelled as the name is in either case.
-/

namespace Criteria

open Text

namespace Text
namespace Letter

/-!
# Digits and letters
-/

theorem forall_ascii
    {p : Char -> Prop}
    (h : ∀ code < 0x80, p (Char.ofNat code))
    {c : Char}
    (hc : c.toNat < 0x80) :
    p c := by
  have hcode := h c.toNat hc
  rwa [Char.ofNat_toNat] at hcode

def isWordChar (c : Char) : Bool :=
  c.isAlphanum || c == '_'

def isLetter (c : Char) : Bool :=
  isLower c || isUpper c

theorem ascii_of_isDigit
    {c : Char}
    (h : isDigit c = true) :
    c.toNat < 0x80 := by
  have hcode : c.toNat = c.val.toNat := rfl
  have h9 : '9'.val.toNat = 57 := rfl
  simp only [isDigit, Bool.and_eq_true, decide_eq_true_eq, Char.le_def, UInt32.le_iff_toNat_le] at h
  omega

theorem isWordChar_iff
    (c : Char) :
    isWordChar c = true ↔
      ('A' ≤ c ∧ c ≤ 'Z') ∨ ('a' ≤ c ∧ c ≤ 'z') ∨ ('0' ≤ c ∧ c ≤ '9') ∨ c = '_' := by
  have hranges : isWordChar c =
      (decide ('A' ≤ c ∧ c ≤ 'Z') || ('a' ≤ c && c ≤ 'z') || ('0' ≤ c && c ≤ '9') ||
        c == '_') := rfl
  simp only [hranges, Bool.or_eq_true, Bool.and_eq_true, decide_eq_true_eq, beq_iff_eq, or_assoc]

theorem ascii_of_isWordChar
    {c : Char}
    (h : isWordChar c = true) :
    c.toNat < 0x80 := by
  have hcode : c.toNat = c.val.toNat := rfl
  have hZ : 'Z'.val.toNat = 90 := rfl
  have hz : 'z'.val.toNat = 122 := rfl
  have h9 : '9'.val.toNat = 57 := rfl
  simp only [isWordChar_iff, Char.le_def, UInt32.le_iff_toNat_le] at h
  rcases h with h | h | h | rfl
  · omega
  · omega
  · omega
  · decide

theorem class_of_isWordChar
    {c : Char}
    (h : isWordChar c = true) :
    c = '_' ∨ isDigit c = true ∨ isLetter c = true :=
  forall_ascii
    (p := fun c => isWordChar c = true -> c = '_' ∨ isDigit c = true ∨ isLetter c = true)
    (by decide +kernel) (ascii_of_isWordChar h) h

theorem not_isBlank_of_isWordChar
    {c : Char}
    (h : isWordChar c = true) :
    isBlank c = false :=
  forall_ascii (p := fun c => isWordChar c = true -> isBlank c = false) (by decide +kernel)
    (ascii_of_isWordChar h) h

theorem not_isLetter_of_isDigit
    {c : Char}
    (h : isDigit c = true) :
    isLower c = false ∧ isUpper c = false :=
  forall_ascii
    (p := fun c => isDigit c = true -> isLower c = false ∧ isUpper c = false)
    (by decide +kernel) (ascii_of_isDigit h) h

theorem toLower_of_isDigit
    {c : Char}
    (h : isDigit c = true) :
    c.toLower = c :=
  forall_ascii (p := fun c => isDigit c = true -> c.toLower = c)
    (by decide +kernel) (ascii_of_isDigit h) h

theorem images_of_ascii
    {c : Char}
    (h : c.toNat < 0x80) :
    c.toLower.toLower = c.toLower ∧ c.toUpper.toLower = c.toLower ∧ upper c.toLower = upper c ∧
      isDigit c.toLower = isDigit c ∧ Words.isSeparator c.toLower = Words.isSeparator c ∧
        (isLetter c = true -> isLower c.toLower = true) ∧ c.toLower.toNat < 0x80 :=
  forall_ascii
    (p := fun c => c.toLower.toLower = c.toLower ∧ c.toUpper.toLower = c.toLower ∧
      upper c.toLower = upper c ∧ isDigit c.toLower = isDigit c ∧
        Words.isSeparator c.toLower = Words.isSeparator c ∧
          (isLetter c = true -> isLower c.toLower = true) ∧ c.toLower.toNat < 0x80)
    (by decide +kernel) h

section

variable {c : Char}

theorem toLower_toLower
    (h : c.toNat < 0x80) :
    c.toLower.toLower = c.toLower :=
  (images_of_ascii h).left

theorem toLower_toUpper
    (h : c.toNat < 0x80) :
    c.toUpper.toLower = c.toLower :=
  (images_of_ascii h).right.left

theorem upper_toLower
    (h : c.toNat < 0x80) :
    upper c.toLower = upper c :=
  (images_of_ascii h).right.right.left

theorem isDigit_toLower
    (h : c.toNat < 0x80) :
    isDigit c.toLower = isDigit c :=
  (images_of_ascii h).right.right.right.left

theorem isSeparator_toLower
    (h : c.toNat < 0x80) :
    Words.isSeparator c.toLower = Words.isSeparator c :=
  (images_of_ascii h).right.right.right.right.left

theorem isLower_toLower
    (hascii : c.toNat < 0x80)
    (h : isLetter c = true) :
    isLower c.toLower = true :=
  (images_of_ascii hascii).right.right.right.right.right.left h

theorem ascii_toLower
    (h : c.toNat < 0x80) :
    c.toLower.toNat < 0x80 :=
  (images_of_ascii h).right.right.right.right.right.right

end

theorem not_isUpper_of_isLower
    {c : Char}
    (h : isLower c = true) :
    isUpper c = false := by
  simp only [isLower, Bool.and_eq_true, bne_iff_ne, beq_iff_eq] at h
  cases hupper : isUpper c with
  | false => rfl
  | true =>
      simp only [isUpper, Bool.and_eq_true, bne_iff_ne, beq_iff_eq] at hupper
      exact absurd (h.right.trans hupper.right.symm) h.left

theorem not_isDigit_of_isLower
    {c : Char}
    (h : isLower c = true) :
    isDigit c = false := by
  cases hdigit : isDigit c with
  | false => rfl
  | true =>
      rw [(not_isLetter_of_isDigit hdigit).left] at h
      cases h

/-!
# Lower case texts
-/

theorem sigma_not_mem_of_ascii
    {cs : List Char}
    (h : ∀ c ∈ cs, c.toNat < 0x80) :
    'Σ' ∉ cs :=
  fun hsigma => absurd (h 'Σ' hsigma) (by decide)

theorem lowerAll_of_ascii
    {cs : List Char}
    (h : ∀ c ∈ cs, c.toNat < 0x80) :
    lowerAll cs = cs.map Char.toLower := by
  rw [lowerAll_eq_flatMap (sigma_not_mem_of_ascii h)]
  induction cs with
  | nil => rfl
  | cons c cs ih =>
      rcases List.forall_mem_cons.mp h with ⟨hc, hcs⟩
      rw [List.flatMap_cons, lower_of_ascii hc, ih hcs]
      rfl

theorem lowerAll_cons_of_ascii
    {c : Char} {cs : List Char}
    (h : ∀ d ∈ c :: cs, d.toNat < 0x80) :
    lowerAll (c :: cs) = c.toLower :: lowerAll cs := by
  rw [lowerAll_of_ascii h, lowerAll_of_ascii (List.forall_mem_cons.mp h).right, List.map_cons]

theorem mem_lowerAll_iff
    {cs : List Char} {d : Char}
    (h : ∀ c ∈ cs, c.toNat < 0x80) :
    d ∈ lowerAll cs ↔ ∃ c ∈ cs, c.toLower = d := by
  rw [lowerAll_of_ascii h, List.mem_map]

theorem ascii_of_mem_lowerAll
    {cs : List Char}
    (h : ∀ c ∈ cs, c.toNat < 0x80) :
    ∀ d ∈ lowerAll cs, d.toNat < 0x80 := by
  intro d hd
  rcases (mem_lowerAll_iff h).mp hd with ⟨c, hc, rfl⟩
  exact ascii_toLower (h c hc)

theorem lowerAll_lowerAll
    {cs : List Char}
    (h : ∀ c ∈ cs, c.toNat < 0x80) :
    lowerAll (lowerAll cs) = lowerAll cs := by
  have hlower : ∀ c ∈ cs, c.toLower.toLower = c.toLower := fun c hc => toLower_toLower (h c hc)
  rw [lowerAll_of_ascii (ascii_of_mem_lowerAll h), lowerAll_of_ascii h, List.map_map]
  exact List.map_congr_left hlower

end Letter
end Text

open Text.Letter in
theorem alphabet_of_ascii
    {p : Char -> Prop}
    (hascii : ∀ {c : Char}, p c -> c.toNat < 0x80)
    (hseparator : p '_')
    (hcases : ∀ code < 0x80, p (Char.ofNat code) ->
      p (Char.ofNat code).toLower ∧ p (Char.ofNat code).toUpper) :
    Alphabet p := by
  have hboth : ∀ {c : Char}, p c -> p c.toLower ∧ p c.toUpper := fun {c} hc =>
    forall_ascii (p := fun c => p c -> p c.toLower ∧ p c.toUpper) hcases (hascii hc) hc
  constructor
  case separator => exact hseparator
  case lower =>
    intro c d hc hd
    rw [lower_of_ascii (hascii hc), List.mem_singleton] at hd
    rw [hd]
    exact (hboth hc).left
  case sigma =>
    intro hsigma
    exact absurd (hascii hsigma) (by decide)
  case upper =>
    intro c d hc hd
    rw [upper_of_ascii (hascii hc), List.mem_singleton] at hd
    rw [hd]
    exact (hboth hc).right

open Text.Letter in
theorem alphabet_isWordChar :
    Alphabet fun c => isWordChar c = true :=
  alphabet_of_ascii ascii_of_isWordChar (by decide) (by decide +kernel)

namespace Words

open Text.Letter

/-!
# Words of one kind
-/

/-- The word holds digits alone, or letters alone. -/
def OneKind (word : List Char) : Prop :=
  (∀ c ∈ word, isDigit c = true) ∨ ∀ c ∈ word, isLetter c = true

theorem oneKind_singleton
    {c : Char}
    (h : isDigit c = true ∨ isLetter c = true) :
    OneKind [c] := by
  rcases h with hdigit | hletter
  · exact Or.inl (by simpa using hdigit)
  · exact Or.inr (by simpa using hletter)

theorem isSeam_of_digit_letter
    {c d : Char}
    (hc : isDigit c = true)
    (hd : isLetter d = true)
    (next : Option Char) :
    isSeam c d next = true := by
  unfold isLetter at hd
  simp [isSeam, hc, hd]

theorem isSeam_of_letter_digit
    {c d : Char}
    (hc : isLetter c = true)
    (hd : isDigit d = true)
    (next : Option Char) :
    isSeam c d next = true := by
  rcases Bool.or_eq_true_iff.mp hc with hlower | hupper
  · simp [isSeam, hlower, hd]
  · simp [isSeam, hupper, hd]

theorem OneKind.cons
    {c d : Char} {next : Option Char} {word : List Char}
    (hseam : ¬isSeam c d next = true)
    (hc : isDigit c = true ∨ isLetter c = true)
    (h : OneKind (d :: word)) :
    OneKind (c :: d :: word) := by
  rcases hc with hdigit | hletter
  · rcases h with hdigits | hletters
    · exact Or.inl (List.forall_mem_cons.mpr ⟨hdigit, hdigits⟩)
    · exact absurd (isSeam_of_digit_letter hdigit (hletters d List.mem_cons_self) next) hseam
  · rcases h with hdigits | hletters
    · exact absurd (isSeam_of_letter_digit hletter (hdigits d List.mem_cons_self) next) hseam
    · exact Or.inr (List.forall_mem_cons.mpr ⟨hletter, hletters⟩)

theorem exists_cutAtSeams_cons
    (c : Char) (cs : List Char) :
    ∃ word words, cutAtSeams (c :: cs) = (c :: word) :: words := by
  cases cs with
  | nil => exact ⟨[], [], rfl⟩
  | cons d cs =>
      rw [cutAtSeams]
      split
      · exact ⟨[], _, rfl⟩
      · cases cutAtSeams (d :: cs) with
        | nil => exact ⟨[], [], rfl⟩
        | cons word words => exact ⟨word, words, rfl⟩

theorem oneKind_of_mem_cutAtSeams
    {cs word : List Char}
    (h : ∀ c ∈ cs, isDigit c = true ∨ isLetter c = true)
    (hword : word ∈ cutAtSeams cs) :
    OneKind word := by
  fun_induction cutAtSeams cs generalizing word with
  | case1 =>
      rw [List.mem_singleton.mp hword]
      exact Or.inl fun c hc => absurd hc List.not_mem_nil
  | case2 c =>
      rw [List.mem_singleton.mp hword]
      exact oneKind_singleton (h c List.mem_cons_self)
  | case3 c d cs hseam ih =>
      rcases List.mem_cons.mp hword with hfirst | hrest
      · rw [hfirst]
        exact oneKind_singleton (h c List.mem_cons_self)
      · exact ih (fun e he => h e (List.mem_cons_of_mem c he)) hrest
  | case4 c d cs hseam ih =>
      have hrest : ∀ {other : List Char}, other ∈ cutAtSeams (d :: cs) -> OneKind other :=
        ih fun e he => h e (List.mem_cons_of_mem c he)
      rcases exists_cutAtSeams_cons d cs with ⟨first, words, hwords⟩
      rw [hwords] at hword hrest
      rcases List.mem_cons.mp hword with hfirst | hlater
      · rw [hfirst]
        exact (hrest List.mem_cons_self).cons hseam (h c List.mem_cons_self)
      · exact hrest (List.mem_cons_of_mem _ hlater)

/-!
# Words in lower case
-/

theorem not_isSeam_of_plain
    {c d : Char}
    (h : (isDigit c = true ∧ isDigit d = true) ∨ (isLower c = true ∧ isLower d = true))
    (next : Option Char) :
    ¬isSeam c d next = true := by
  rcases h with ⟨hc, hd⟩ | ⟨hc, hd⟩
  · simp [isSeam, not_isLetter_of_isDigit hc, not_isLetter_of_isDigit hd]
  · simp [isSeam, not_isUpper_of_isLower hc, not_isDigit_of_isLower hc,
      not_isUpper_of_isLower hd, not_isDigit_of_isLower hd]

theorem cutAtSeams_of_plain
    {word : List Char}
    (h : (∀ c ∈ word, isDigit c = true) ∨ ∀ c ∈ word, isLower c = true) :
    cutAtSeams word = [word] := by
  fun_induction cutAtSeams word with
  | case1 => rfl
  | case2 c => rfl
  | case3 c d cs hseam ih =>
      refine absurd hseam (not_isSeam_of_plain ?_ cs.head?)
      rcases h with hdigits | hlowers
      · exact Or.inl ⟨hdigits c (by simp), hdigits d (by simp)⟩
      · exact Or.inr ⟨hlowers c (by simp), hlowers d (by simp)⟩
  | case4 c d cs hseam ih =>
      have hrest : cutAtSeams (d :: cs) = [d :: cs] := by
        apply ih
        rcases h with hdigits | hlowers
        · exact Or.inl fun e he => hdigits e (List.mem_cons_of_mem c he)
        · exact Or.inr fun e he => hlowers e (List.mem_cons_of_mem c he)
      rw [hrest]
      rfl

theorem cutAtSeams_lowerAll
    {word : List Char}
    (hascii : ∀ c ∈ word, c.toNat < 0x80)
    (h : OneKind word) :
    cutAtSeams (lowerAll word) = [lowerAll word] := by
  apply cutAtSeams_of_plain
  rcases h with hdigits | hletters
  · refine Or.inl fun d hd => ?_
    rcases (mem_lowerAll_iff hascii).mp hd with ⟨c, hc, rfl⟩
    rw [toLower_of_isDigit (hdigits c hc)]
    exact hdigits c hc
  · refine Or.inr fun d hd => ?_
    rcases (mem_lowerAll_iff hascii).mp hd with ⟨c, hc, rfl⟩
    exact isLower_toLower (hascii c hc) (hletters c hc)

/-!
# Words of names
-/

theorem isSeparator_underscore :
    isSeparator '_' = true := by
  decide

theorem isSeparator_of_isWordChar
    {c : Char}
    (h : isWordChar c = true) :
    isSeparator c = (c == '_') := by
  have hhyphen : c ≠ '-' := by
    rintro rfl
    revert h
    decide
  have hspace : c ≠ ' ' := by
    rintro rfl
    revert h
    decide
  rw [isSeparator, beq_eq_false_iff_ne.mpr hhyphen, beq_eq_false_iff_ne.mpr hspace, Bool.or_false,
    Bool.or_false]

theorem ofName_append
    (before after : List Char) :
    ofName (before ++ '_' :: after) = ofName before ++ ofName after := by
  unfold ofName
  rw [splitWhere_append isSeparator_underscore, List.flatMap_append]

theorem ofName_ne_nil
    (name : List Char) :
    ofName name ≠ [] := by
  unfold ofName
  cases hpieces : splitWhere isSeparator name with
  | nil => exact absurd hpieces (splitWhere_ne_nil isSeparator name)
  | cons piece pieces =>
      cases piece with
      | nil => exact List.cons_ne_nil _ _
      | cons c cs =>
          rcases exists_cutAtSeams_cons c cs with ⟨word, words, hwords⟩
          rw [List.flatMap_cons, hwords]
          exact List.cons_ne_nil _ _

theorem exists_ofName_cons
    {c : Char}
    (hc : isSeparator c = false)
    (cs : List Char) :
    ∃ word words, ofName (c :: cs) = (c :: word) :: words := by
  have hcut : ∀ piece pieces, ∃ word words,
      ((c :: piece) :: pieces).flatMap cutAtSeams = (c :: word) :: words := by
    intro piece pieces
    rcases exists_cutAtSeams_cons c piece with ⟨word, words, hwords⟩
    refine ⟨word, words ++ pieces.flatMap cutAtSeams, ?_⟩
    rw [List.flatMap_cons, hwords]
    rfl
  unfold ofName splitWhere
  rw [if_neg (by simp [hc])]
  cases splitWhere isSeparator cs with
  | nil => exact hcut [] []
  | cons piece pieces => exact hcut piece pieces

theorem snake_append
    (before after : List Char) :
    Spelling.snake.applyChars (before ++ '_' :: after) =
      Spelling.snake.applyChars before ++ '_' :: Spelling.snake.applyChars after := by
  have hbefore : (ofName before).map lowerAll ≠ [] := by
    simpa using ofName_ne_nil before
  have hafter : (ofName after).map lowerAll ≠ [] := by
    simpa using ofName_ne_nil after
  simp only [Spelling.applyChars, snake]
  rw [ofName_append, List.map_append, joinChars_append ['_'] hbefore hafter, List.append_assoc]
  rfl

theorem camel_append
    {words : List (List Char)}
    (hne : words ≠ [])
    (more : List (List Char)) :
    camel (words ++ more) = camel words ++ more.flatMap capitalize := by
  cases words with
  | nil => exact absurd rfl hne
  | cons word words =>
      rw [List.cons_append, camel, camel, List.flatMap_append, List.append_assoc]

theorem flatMap_cutAtSeams_of_whole
    {words : List (List Char)}
    (h : ∀ word ∈ words, cutAtSeams word = [word]) :
    words.flatMap cutAtSeams = words := by
  induction words with
  | nil => rfl
  | cons word words ih =>
      rw [List.flatMap_cons, h word List.mem_cons_self,
        ih fun other hother => h other (List.mem_cons_of_mem word hother)]
      rfl

section

variable {name : List Char}

theorem class_of_mem_piece
    (hname : ∀ c ∈ name, isWordChar c = true)
    {piece : List Char} {c : Char}
    (hpiece : piece ∈ splitWhere isSeparator name)
    (hc : c ∈ piece) :
    isDigit c = true ∨ isLetter c = true := by
  rcases class_of_isWordChar (hname c (mem_of_mem_splitWhere hpiece hc)) with hmark | hclass
  · have hclear := clear_of_mem_splitWhere hpiece hc
    rw [hmark, isSeparator_underscore] at hclear
    cases hclear
  · exact hclass

theorem oneKind_of_mem_ofName
    (hname : ∀ c ∈ name, isWordChar c = true)
    {word : List Char}
    (hword : word ∈ ofName name) :
    OneKind word := by
  rcases List.mem_flatMap.mp hword with ⟨piece, hpiece, hcut⟩
  exact oneKind_of_mem_cutAtSeams (fun c hc => class_of_mem_piece hname hpiece hc) hcut

theorem ascii_of_mem_ofName
    (hname : ∀ c ∈ name, isWordChar c = true)
    {word : List Char}
    (hword : word ∈ ofName name) :
    ∀ c ∈ word, c.toNat < 0x80 :=
  fun c hc => ascii_of_isWordChar (hname c (mem_of_mem_ofName hword hc))

theorem head?_snake
    (hname : ∀ c ∈ name, isWordChar c = true) :
    (Spelling.snake.applyChars name).head? = name.head?.map Char.toLower := by
  cases name with
  | nil => rfl
  | cons c cs =>
      have hc := hname c List.mem_cons_self
      by_cases hmark : c = '_'
      · rw [hmark]
        exact congrArg List.head? (snake_append [] cs)
      · have hclear : isSeparator c = false := by
          simpa [isSeparator_of_isWordChar hc] using hmark
        rcases exists_ofName_cons hclear cs with ⟨word, words, hwords⟩
        have hascii : ∀ d ∈ c :: word, d.toNat < 0x80 :=
          ascii_of_mem_ofName hname (hwords ▸ List.mem_cons_self)
        rw [Spelling.applyChars, hwords, snake, List.map_cons, lowerAll_cons_of_ascii hascii]
        cases words <;> rfl

theorem clear_lowerAll_of_mem_ofName
    (hname : ∀ c ∈ name, isWordChar c = true)
    {word : List Char}
    (hword : word ∈ ofName name) :
    ∀ d ∈ lowerAll word, isSeparator d = false := by
  intro d hd
  rcases (mem_lowerAll_iff (ascii_of_mem_ofName hname hword)).mp hd with ⟨c, hc, rfl⟩
  rw [isSeparator_toLower (ascii_of_mem_ofName hname hword c hc)]
  exact (of_mem_ofName hword hc).right

theorem ofName_snake
    (hname : ∀ c ∈ name, isWordChar c = true) :
    ofName (snake (ofName name)) = (ofName name).map lowerAll := by
  have hne : (ofName name).map lowerAll ≠ [] := by
    simpa using ofName_ne_nil name
  have hclear : ∀ word ∈ (ofName name).map lowerAll, ∀ c ∈ word, isSeparator c = false := by
    intro word hword
    rcases List.mem_map.mp hword with ⟨own, hown, rfl⟩
    exact clear_lowerAll_of_mem_ofName hname hown
  have hwhole : ∀ word ∈ (ofName name).map lowerAll, cutAtSeams word = [word] := by
    intro word hword
    rcases List.mem_map.mp hword with ⟨own, hown, rfl⟩
    exact cutAtSeams_lowerAll (ascii_of_mem_ofName hname hown) (oneKind_of_mem_ofName hname hown)
  unfold snake
  rw [ofName, splitWhere_joinChars isSeparator_underscore hne hclear]
  exact flatMap_cutAtSeams_of_whole hwhole

end

/-!
# Spelling once more
-/

theorem snake_lowerAll
    {words : List (List Char)}
    (h : ∀ word ∈ words, ∀ c ∈ word, c.toNat < 0x80) :
    snake (words.map lowerAll) = snake words := by
  unfold snake
  rw [List.map_map]
  exact congrArg _ (List.map_congr_left fun word hword => lowerAll_lowerAll (h word hword))

theorem capitalize_lowerAll
    {word : List Char}
    (h : ∀ c ∈ word, c.toNat < 0x80) :
    capitalize (lowerAll word) = capitalize word := by
  cases word with
  | nil => rfl
  | cons c cs =>
      have hc := h c List.mem_cons_self
      have hcs : ∀ d ∈ cs, d.toNat < 0x80 := fun d hd => h d (List.mem_cons_of_mem c hd)
      rw [lowerAll_cons_of_ascii h, capitalize, capitalize, upper_toLower hc,
        lowerAll_lowerAll hcs]

theorem camel_lowerAll
    {words : List (List Char)}
    (h : ∀ word ∈ words, ∀ c ∈ word, c.toNat < 0x80) :
    camel (words.map lowerAll) = camel words := by
  cases words with
  | nil => rfl
  | cons word words =>
      have hrest : (words.map lowerAll).flatMap capitalize = words.flatMap capitalize := by
        induction words with
        | nil => rfl
        | cons next words ih =>
            have hnext := capitalize_lowerAll (h next (by simp))
            rw [List.map_cons, List.flatMap_cons, List.flatMap_cons, hnext, ih]
            intro other hother
            rcases List.mem_cons.mp hother with hself | hlater
            · exact h other (by simp [hself])
            · exact h other (by simp [hlater])
      rw [List.map_cons, camel, camel, hrest, lowerAll_lowerAll (h word List.mem_cons_self)]

end Words

theorem Spelling.applyChars_snake
    {spelling : Spelling} {name : List Char}
    (hspelling : spelling ≠ .verbatim)
    (hname : ∀ c ∈ name, Letter.isWordChar c = true) :
    spelling.applyChars (Spelling.snake.applyChars name) = spelling.applyChars name := by
  have hascii : ∀ word ∈ Words.ofName name, ∀ c ∈ word, c.toNat < 0x80 :=
    fun word hword => Words.ascii_of_mem_ofName hname hword
  cases spelling with
  | verbatim => exact absurd rfl hspelling
  | snake =>
      show Words.snake (Words.ofName (Words.snake (Words.ofName name))) = _
      rw [Words.ofName_snake hname, Words.snake_lowerAll hascii]
      rfl
  | camel =>
      show Words.camel (Words.ofName (Words.snake (Words.ofName name))) = _
      rw [Words.ofName_snake hname, Words.camel_lowerAll hascii]
      rfl

end Criteria
