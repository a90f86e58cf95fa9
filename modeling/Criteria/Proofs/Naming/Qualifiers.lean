import Criteria.Proofs.Naming.Planned
import Criteria.Proofs.Naming.Suffixes

/-!
# Qualifiers of names

A qualified name may have more words after an operator's word.  Where a plain reader finds an
operator's word at the end of a name, a qualified reader finds the same column and operator if no
operator's word stands earlier in the name; otherwise it takes the earliest such word for the
operator and what follows for the qualifier.
-/

namespace Criteria
namespace FieldName

open Text
open Text.Letter

/-!
# Shortest bases
-/

/-- A name is cut at an underscore into a base of name characters and a text that asks for an
operator, and no cut before it leaves such a text. -/
structure IsCut (operator? : List Char -> Option Operator)
    (name base token : List Char) (operator : Operator) : Prop where
  cut : name = base ++ '_' :: token
  nonempty : base ≠ []
  chars : ∀ c ∈ base, isNameChar c = true
  found : operator? token = some operator
  first : ∀ before between, base = before ++ '_' :: between -> before ≠ [] ->
    operator? (between ++ '_' :: token) = none

section

variable {operator? : List Char -> Option Operator}

theorem IsCut.cutBy_eq_some
    {name base token : List Char} {operator : Operator}
    (h : IsCut operator? name base token operator) :
    cutBy operator? name = some (base, operator) := by
  rw [h.cut]
  exact cutBy_append h.nonempty h.chars h.found h.first

theorem exists_isCut_append
    {front token : List Char}
    (hne : front ≠ [])
    (hchars : ∀ c ∈ front, isNameChar c = true)
    (hfound : operator? token ≠ none) :
    ∃ base rest operator, IsCut operator? (front ++ '_' :: token) base rest operator ∧
      base.length ≤ front.length := by
  by_cases hfirst : ∀ before between, front = before ++ '_' :: between -> before ≠ [] ->
      operator? (between ++ '_' :: token) = none
  · rcases Option.ne_none_iff_exists'.mp hfound with ⟨operator, hoperator⟩
    exact ⟨front, token, operator, ⟨rfl, hne, hchars, hoperator, hfirst⟩, Nat.le_refl _⟩
  · simp only [Classical.not_forall] at hfirst
    rcases hfirst with ⟨before, between, hfront, hbefore, hearlier⟩
    have hlength : before.length < front.length := by
      simp [hfront]
    have hchars' : ∀ c ∈ before, isNameChar c = true := by
      intro c hc
      apply hchars
      rw [hfront]
      exact List.mem_append_left _ hc
    rcases exists_isCut_append hbefore hchars' hearlier with ⟨base, rest, operator, hcut, hle⟩
    refine ⟨base, rest, operator, ?_, Nat.le_trans hle (Nat.le_of_lt hlength)⟩
    rw [hfront, List.append_assoc]
    exact hcut
termination_by front.length

theorem cutBy_eq_some_iff
    {name base : List Char} {operator : Operator} :
    cutBy operator? name = some (base, operator) ↔
      ∃ token, IsCut operator? name base token operator := by
  constructor
  · intro h
    rcases List.exists_of_findSome?_eq_some h with ⟨parts, hparts, hfound⟩
    rcases of_mem_cuts hparts with ⟨hname, hne, hchars⟩
    have hsome : operator? parts.2 ≠ none := by
      intro hnone
      rw [hnone] at hfound
      cases hfound
    -- the first cut is the one that is found
    rcases exists_isCut_append hne hchars hsome with ⟨first, token, other, hcut, _⟩
    rw [← hname] at hcut
    have hsame := hcut.cutBy_eq_some.symm.trans h
    cases hsame
    exact ⟨token, hcut⟩
  · rintro ⟨token, hcut⟩
    exact hcut.cutBy_eq_some

end

/-!
# Words of operators in a name
-/

/-- After its first character, the text holds an operator's word between underscores or between an
underscore and the end. -/
def HoldsOperator (base : List Char) : Prop :=
  ∃ front word, front ≠ [] ∧ operatorOf? word ≠ none ∧
    (base = front ++ '_' :: word ∨ ∃ rest, base = front ++ '_' :: word ++ '_' :: rest)

theorem qualifiedOperatorOf?_of_operatorOf?
    {token : List Char} {operator : Operator}
    (h : operatorOf? token = some operator) :
    qualifiedOperatorOf? token = some operator := by
  have hall : ∀ entry ∈ suffixes, qualifiedOperatorOf? entry.1 = some entry.2 := by
    decide +kernel
  exact hall (token, operator) (mem_suffixes_of_operatorOf? h)

theorem qualifiedOperatorOf?_ne_none_iff
    {text : List Char} :
    qualifiedOperatorOf? text ≠ none ↔
      ∃ word, operatorOf? word ≠ none ∧
        (text = word ∨
          ∃ rest, rest ≠ [] ∧ (∀ c ∈ rest, isNameChar c = true) ∧ text = word ++ '_' :: rest) := by
  constructor
  · intro h
    rcases Option.ne_none_iff_exists'.mp h with ⟨operator, hsome⟩
    rcases List.exists_of_findSome?_eq_some hsome with ⟨entry, hentry, hfound⟩
    have hword : operatorOf? entry.1 ≠ none := by
      rw [operatorOf?_of_mem_suffixes hentry]
      exact Option.some_ne_none entry.2
    refine ⟨entry.1, hword, ?_⟩
    split at hfound
    next hdrop =>
      apply Or.inl
      simpa using dropStart?_eq_some_iff.mp hdrop
    next c cs hdrop =>
      split at hfound
      next hall =>
        apply Or.inr
        exact ⟨c :: cs, List.cons_ne_nil c cs, List.all_eq_true.mp hall,
          dropStart?_eq_some_iff.mp hdrop⟩
      next => cases hfound
    next => cases hfound
  · rintro ⟨word, hword, htext⟩ hnone
    rcases Option.ne_none_iff_exists'.mp hword with ⟨operator, hoperator⟩
    have hentry := List.findSome?_eq_none_iff.mp hnone _ (mem_suffixes_of_operatorOf? hoperator)
    rcases htext with hbare | ⟨rest, hne, hchars, hqualified⟩
    · have hdrop : dropStart? word text = some [] := by
        rw [dropStart?_eq_some_iff, hbare, List.append_nil]
      rw [hdrop] at hentry
      cases hentry
    · have hdrop : dropStart? word text = some ('_' :: rest) :=
        dropStart?_eq_some_iff.mpr hqualified
      rw [hdrop] at hentry
      cases rest with
      | nil => exact hne rfl
      | cons c cs => simp [List.all_eq_true.mpr hchars] at hentry

theorem not_overlapping
    {between middle rest : List Char}
    (hword : operatorOf? (between ++ '_' :: middle) ≠ none)
    (htoken : operatorOf? (middle ++ '_' :: rest) ≠ none) :
    False := by
  have hall : ∀ entry ∈ suffixes, ∀ place < entry.1.length, entry.1[place]? = some '_' ->
      ∀ other ∈ suffixes, (entry.1.drop (place + 1) ++ ['_']).isPrefixOf other.1 = false := by
    decide +kernel
  rcases Option.ne_none_iff_exists'.mp hword with ⟨operator, hoperator⟩
  rcases Option.ne_none_iff_exists'.mp htoken with ⟨other, hother⟩
  have hprefix := hall _ (mem_suffixes_of_operatorOf? hoperator) between.length (by simp) (by simp)
    _ (mem_suffixes_of_operatorOf? hother)
  rw [Bool.eq_false_iff, ne_eq, List.isPrefixOf_iff_prefix] at hprefix
  apply hprefix
  exact ⟨rest, by simp⟩

theorem stands_before
    {word rest between token : List Char}
    (hword : operatorOf? word ≠ none)
    (htoken : operatorOf? token ≠ none)
    (h : between ++ '_' :: token = word ++ '_' :: rest) :
    between = word ∨ ∃ more, between = word ++ '_' :: more := by
  rcases List.append_eq_append_iff.mp h with ⟨more, hmore, hrest⟩ | ⟨more, hmore, hrest⟩
  · cases more with
    | nil =>
        apply Or.inl
        rw [hmore, List.append_nil]
    | cons c more =>
        rw [List.cons_append, List.cons_eq_cons] at hrest
        rw [← hrest.left] at hmore
        rw [hmore] at hword
        rw [hrest.right] at htoken
        exact (not_overlapping hword htoken).elim
  · cases more with
    | nil =>
        apply Or.inl
        rw [hmore, List.append_nil]
    | cons c more =>
        rw [List.cons_append, List.cons_eq_cons] at hrest
        rw [← hrest.left] at hmore
        exact Or.inr ⟨more, hmore⟩

theorem IsCut.qualified
    {name base token : List Char} {operator : Operator}
    (h : IsCut operatorOf? name base token operator)
    (hholds : ¬HoldsOperator base) :
    IsCut qualifiedOperatorOf? name base token operator := by
  constructor
  case cut => exact h.cut
  case nonempty => exact h.nonempty
  case chars => exact h.chars
  case found => exact qualifiedOperatorOf?_of_operatorOf? h.found
  case first =>
    intro before between hbase hbefore
    cases hsome : qualifiedOperatorOf? (between ++ '_' :: token) with
    | none => rfl
    | some earlier =>
        have hne : qualifiedOperatorOf? (between ++ '_' :: token) ≠ none := by
          rw [hsome]
          exact Option.some_ne_none earlier
        have htoken : operatorOf? token ≠ none := by
          rw [h.found]
          exact Option.some_ne_none operator
        rcases qualifiedOperatorOf?_ne_none_iff.mp hne with ⟨word, hword, hbare | hqualified⟩
        · -- the plain reader would have cut there
          rw [← hbare, h.first before between hbase hbefore] at hword
          exact absurd rfl hword
        · rcases hqualified with ⟨rest, _, _, hrest⟩
          refine absurd ⟨before, word, hbefore, hword, ?_⟩ hholds
          rcases stands_before hword htoken hrest with hsame | ⟨more, hmore⟩
          · rw [hbase, hsame]
            exact Or.inl rfl
          · rw [hbase, hmore]
            exact Or.inr ⟨more, by simp⟩

theorem word_of_operatorOf?
    {word : List Char}
    (h : operatorOf? word ≠ none) :
    ∃ c cs, word = c :: cs ∧ c ≠ '_' ∧ ∀ d ∈ word, isNameChar d = true := by
  have hwords : (suffixes.all fun entry =>
      entry.1.all isNameChar && entry.1.head?.any fun c => c != '_') = true := by
    decide +kernel
  rcases Option.ne_none_iff_exists'.mp h with ⟨operator, hoperator⟩
  have hentry := List.all_eq_true.mp hwords _ (mem_suffixes_of_operatorOf? hoperator)
  rcases Bool.and_eq_true_iff.mp hentry with ⟨hchars, hhead⟩
  cases word with
  | nil => cases hhead
  | cons c cs => exact ⟨c, cs, rfl, by simpa using hhead, List.all_eq_true.mp hchars⟩

theorem IsCut.exists_qualified
    {name base token : List Char} {operator : Operator}
    (h : IsCut operatorOf? name base token operator)
    (hholds : HoldsOperator base) :
    ∃ front rest other, IsCut qualifiedOperatorOf? name front rest other ∧
      front.length < base.length := by
  have hfound : operatorOf? token ≠ none := by
    rw [h.found]
    exact Option.some_ne_none operator
  rcases word_of_operatorOf? hfound with ⟨c, cs, hcons, _, htokenChars⟩
  have htoken : token ≠ [] := by
    rw [hcons]
    exact List.cons_ne_nil c cs
  rcases hholds with ⟨front, word, hne, hword, hplace⟩
  -- all that follows the word, the token included, is its qualifier
  have hqualifier : ∃ rest, rest ≠ [] ∧ (∀ c ∈ rest, isNameChar c = true) ∧
      base ++ '_' :: token = front ++ '_' :: (word ++ '_' :: rest) := by
    rcases hplace with hlast | ⟨more, hmore⟩
    · refine ⟨token, htoken, htokenChars, ?_⟩
      rw [hlast]
      simp
    · refine ⟨more ++ '_' :: token, by simp, ?_, ?_⟩
      · intro c hc
        rcases List.mem_append.mp hc with hin | hlater
        · apply h.chars
          rw [hmore]
          simp [hin]
        · rcases List.mem_cons.mp hlater with rfl | hin
          · decide
          · exact htokenChars c hin
      · rw [hmore]
        simp
  have hfront : front.length < base.length ∧ ∀ c ∈ front, isNameChar c = true := by
    rcases hplace with hlast | ⟨more, hmore⟩
    · rw [hlast]
      refine ⟨by simp, fun c hc => h.chars c ?_⟩
      rw [hlast]
      exact List.mem_append_left _ hc
    · rw [hmore]
      refine ⟨by simp, fun c hc => h.chars c ?_⟩
      rw [hmore]
      simp [hc]
  rcases hqualifier with ⟨rest, hrest, hchars, hname⟩
  have hsome : qualifiedOperatorOf? (word ++ '_' :: rest) ≠ none := by
    apply qualifiedOperatorOf?_ne_none_iff.mpr
    exact ⟨word, hword, Or.inr ⟨rest, hrest, hchars, rfl⟩⟩
  rcases exists_isCut_append hne hfront.right hsome with ⟨first, text, other, hcut, hle⟩
  rw [← hname, ← h.cut] at hcut
  exact ⟨first, text, other, hcut, Nat.lt_of_le_of_lt hle hfront.left⟩

/-!
# Columns of shorter bases
-/

theorem length_lt_applyChars_append
    (spelling : Spelling) (front : List Char)
    {c : Char}
    (hc : isNameChar c = true)
    (hmark : c ≠ '_')
    (cs : List Char) :
    (spelling.applyChars front).length <
      (spelling.applyChars (front ++ '_' :: c :: cs)).length := by
  cases spelling with
  | verbatim => simp [Spelling.applyChars]
  | snake =>
      rw [Words.snake_append]
      simp
  | camel =>
      have hword := isWordChar_of_isNameChar hc
      have hascii := ascii_of_isWordChar hword
      have hclear : Words.isSeparator c = false := by
        simpa [Words.isSeparator_of_isWordChar hword] using hmark
      rcases Words.exists_ofName_cons hclear cs with ⟨word, words, hwords⟩
      show (Words.camel (Words.ofName front)).length < (Words.camel (Words.ofName _)).length
      rw [Words.ofName_append, Words.camel_append (Words.ofName_ne_nil front), hwords,
        List.flatMap_cons, Words.capitalize, upper_of_ascii hascii]
      simp

theorem later_cut
    {front rest base token : List Char}
    (h : front ++ '_' :: rest = base ++ '_' :: token)
    (hlength : front.length < base.length) :
    ∃ between, base = front ++ '_' :: between ∧ rest = between ++ '_' :: token := by
  rcases List.append_eq_append_iff.mp h with ⟨more, hmore, hrest⟩ | ⟨more, hmore, hrest⟩
  · cases more with
    | nil =>
        rw [hmore, List.append_nil] at hlength
        exact absurd hlength (Nat.lt_irrefl _)
    | cons c between =>
        rw [List.cons_append, List.cons_eq_cons] at hrest
        rw [← hrest.left] at hmore
        exact ⟨between, hmore, hrest.right⟩
  · have hle : base.length ≤ front.length := by
      rw [hmore, List.length_append]
      exact Nat.le_add_right _ _
    exact absurd hlength (Nat.not_lt.mpr hle)

theorem IsCut.column_ne
    {name base token front rest : List Char} {operator other : Operator}
    (h : IsCut operatorOf? name base token operator)
    (hfront : IsCut qualifiedOperatorOf? name front rest other)
    (hlength : front.length < base.length)
    (naming : Naming) :
    naming.column (String.ofList front) ≠ naming.column (String.ofList base) := by
  have hsome : qualifiedOperatorOf? rest ≠ none := by
    rw [hfront.found]
    exact Option.some_ne_none other
  rcases later_cut (hfront.cut.symm.trans h.cut) hlength with ⟨between, hbase, hrest⟩
  -- the rest begins with an operator's word, and so does what the longer base goes on with
  have hbetween : ∃ c cs, between = c :: cs ∧ isNameChar c = true ∧ c ≠ '_' := by
    rcases qualifiedOperatorOf?_ne_none_iff.mp hsome with ⟨word, hword, htext⟩
    rcases word_of_operatorOf? hword with ⟨c, cs, hcons, hmark, hchars⟩
    have hfirst : rest.head? = some c := by
      rcases htext with hbare | ⟨qualifier, _, _, hqualified⟩
      · rw [hbare, hcons]
        rfl
      · rw [hqualified, hcons]
        rfl
    have hchar : isNameChar c = true := by
      apply hchars
      rw [hcons]
      exact List.mem_cons_self
    rw [hrest] at hfirst
    cases between with
    | nil =>
        cases hfirst
        exact absurd rfl hmark
    | cons d ds =>
        cases hfirst
        exact ⟨c, ds, rfl, hchar, hmark⟩
  rcases hbetween with ⟨c, cs, hcs, hchar, hmark⟩
  intro hcolumn
  have hlist := congrArg (fun column => column.toList.length) hcolumn
  simp only [Naming.column, Spelling.apply, String.toList_ofList] at hlist
  have hlt := length_lt_applyChars_append naming.spelling front hchar hmark cs
  rw [← hcs, ← hbase] at hlt
  exact absurd hlist (Nat.ne_of_lt hlt)

/-!
# Reading with and without a qualifier
-/

/-- Where a plain reader finds an operator's word at the end of a name, a qualified reader finds the
same column and operator exactly if no operator's word stands in the column's part of the name. -/
theorem readQualified_eq_read_iff
    {naming : Naming} {name : String} {base : List Char} {operator : Operator}
    (h : cutBy operatorOf? (normalize name.toList) = some (base, operator)) :
    read naming name = ⟨naming.column (String.ofList base), operator⟩ ∧
      (readQualified naming name = read naming name ↔ ¬HoldsOperator base) := by
  have hread : read naming name = ⟨naming.column (String.ofList base), operator⟩ :=
    readWith_of_cutBy_eq_some h
  rcases cutBy_eq_some_iff.mp h with ⟨token, hcut⟩
  refine ⟨hread, ?_⟩
  rw [hread]
  constructor
  · intro hsame hholds
    rcases hcut.exists_qualified hholds with ⟨front, rest, other, hfront, hlength⟩
    have hqualified : readQualified naming name = ⟨naming.column (String.ofList front), other⟩ :=
      readWith_of_cutBy_eq_some hfront.cutBy_eq_some
    rw [hqualified] at hsame
    exact hcut.column_ne hfront hlength naming (congrArg Reading.column hsame)
  · intro hholds
    exact readWith_of_cutBy_eq_some (hcut.qualified hholds).cutBy_eq_some

theorem readQualified_eq_read_iff_userIds :
    cutBy operatorOf? (normalize "userLogin_id_not_in".toList) =
        some ("user_login_id".toList, .notIn) ∧
      readQualified {} "userLogin_id_not_in" = read {} "userLogin_id_not_in" ∧
        read {} "userLogin_id_not_in" = ⟨"user_login_id", .notIn⟩ ∧
          ¬HoldsOperator "user_login_id".toList := by
  have hcut : cutBy operatorOf? (normalize "userLogin_id_not_in".toList) =
      some ("user_login_id".toList, .notIn) := by
    decide +kernel
  have hsame : readQualified {} "userLogin_id_not_in" = read {} "userLogin_id_not_in" := by
    decide +kernel
  have hcolumn : Naming.column {} (String.ofList "user_login_id".toList) = "user_login_id" := by
    decide +kernel
  have h := @readQualified_eq_read_iff {} _ _ _ hcut
  rw [hcolumn] at h
  exact ⟨hcut, hsame, h.left, h.right.mp hsame⟩

/-- An operator's word inside a column's name is taken for the operator, and the operator's word at
the end for a qualifier. -/
theorem readQualified_ne_read_eventStart :
    cutBy operatorOf? (normalize "event_start_ge".toList) = some ("event_start".toList, .ge) ∧
      read {} "event_start_ge" = ⟨"event_start", .ge⟩ ∧
        readQualified {} "event_start_ge" = ⟨"event", .start⟩ ∧
          readQualified {} "event_start_ge" ≠ read {} "event_start_ge" := by
  decide +kernel

end FieldName
end Criteria
