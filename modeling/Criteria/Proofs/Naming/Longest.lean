import Criteria.Proofs.Naming.Qualifiers

/-!
# Longest words of operators

A name's operator is the one with the longest word among all that the name ends in after an
underscore and a base of name characters.  The reader tries the shortest base first and, for a
base, the words in the order of their table; neither order is seen in the result.
-/

namespace Criteria
namespace FieldName

open Text

/-!
# Candidates
-/

/-- The name ends in an operator's word, after an underscore and a base of name characters. -/
structure Candidate (name base word : List Char) (operator : Operator) : Prop where
  cut : name = base ++ '_' :: word
  nonempty : base ≠ []
  chars : ∀ c ∈ base, isNameChar c = true
  listed : (word, operator) ∈ suffixes

/-- No operator's word that the name ends in is longer. -/
structure Longest (name base word : List Char) (operator : Operator) : Prop
    extends Candidate name base word operator where
  longest : ∀ {front more : List Char} {other : Operator},
    Candidate name front more other -> more.length ≤ word.length

theorem IsCut.candidate
    {name base word : List Char} {operator : Operator}
    (h : IsCut operatorOf? name base word operator) :
    Candidate name base word operator :=
  ⟨h.cut, h.nonempty, h.chars, mem_suffixes_of_operatorOf? h.found⟩

theorem Candidate.found
    {name base word : List Char} {operator : Operator}
    (h : Candidate name base word operator) :
    operatorOf? word = some operator :=
  operatorOf?_of_mem_suffixes h.listed

theorem Candidate.found_ne_none
    {name base word : List Char} {operator : Operator}
    (h : Candidate name base word operator) :
    operatorOf? word ≠ none := by
  rw [h.found]
  exact Option.some_ne_none operator

theorem Candidate.length_lt
    {name base word front more : List Char} {operator other : Operator}
    (h : Candidate name base word operator)
    (hother : Candidate name front more other)
    (hlength : word.length < more.length) :
    front.length < base.length := by
  have hsame : (base ++ '_' :: word).length = (front ++ '_' :: more).length := by
    rw [← h.cut, ← hother.cut]
  simp only [List.length_append, List.length_cons] at hsame
  omega

theorem longest_iff_isCut
    {name base word : List Char} {operator : Operator} :
    Longest name base word operator ↔ IsCut operatorOf? name base word operator := by
  constructor
  · intro h
    refine ⟨h.cut, h.nonempty, h.chars, h.found, ?_⟩
    intro before between hbase hne
    cases hfound : operatorOf? (between ++ '_' :: word) with
    | none => rfl
    | some other =>
        have hlonger : Candidate name before (between ++ '_' :: word) other := by
          refine ⟨?_, hne, ?_, mem_suffixes_of_operatorOf? hfound⟩
          · rw [h.cut, hbase]
            simp
          · intro c hc
            apply h.chars
            rw [hbase]
            exact List.mem_append_left _ hc
        have hle := h.longest hlonger
        simp only [List.length_append, List.length_cons] at hle
        omega
  · intro h
    refine ⟨h.candidate, ?_⟩
    intro front more other hother
    apply Nat.le_of_not_lt
    intro hlt
    -- an earlier cut with a word would have been found first
    have hlength := h.candidate.length_lt hother hlt
    rcases later_cut (hother.cut.symm.trans h.cut) hlength with ⟨between, hbase, hmore⟩
    have hnone := h.first front between hbase hother.nonempty
    rw [← hmore, hother.found] at hnone
    cases hnone

theorem Candidate.exists_longest
    {name base word : List Char} {operator : Operator}
    (h : Candidate name base word operator) :
    ∃ front more other, Longest name front more other := by
  rcases exists_isCut_append h.nonempty h.chars h.found_ne_none with ⟨front, more, other, hcut, _⟩
  rw [← h.cut] at hcut
  exact ⟨front, more, other, longest_iff_isCut.mpr hcut⟩

/-!
# Words in the order of a table
-/

def alternative? (table : List (List Char × Operator)) (text : List Char) : Option Operator :=
  table.findSome? fun entry => if dropStart? entry.1 text = some [] then some entry.2 else none

/-- A name is read with the words in the order of the table. -/
def readIn (table : List (List Char × Operator)) (naming : Naming) (name : String) : Reading :=
  readWith (alternative? table) naming name

theorem alternative?_eq_lookup
    (table : List (List Char × Operator)) (text : List Char) :
    alternative? table text = table.lookup text := by
  rw [List.lookup_eq_findSome?]
  apply congrArg (fun choose => table.findSome? choose)
  funext entry
  have hwhole : dropStart? entry.1 text = some [] ↔ (text == entry.1) = true := by
    rw [dropStart?_eq_some_iff, List.append_nil, beq_iff_eq]
  by_cases h : (text == entry.1) = true
  · rw [if_pos (hwhole.mpr h), if_pos h]
  · rw [if_neg (fun hdrop => h (hwhole.mp hdrop)), if_neg h]

theorem nodup_words :
    (suffixes.map Prod.fst).Nodup := by
  decide +kernel

theorem alternative?_of_perm
    {table : List (List Char × Operator)}
    (h : table.Perm suffixes) :
    alternative? table = operatorOf? := by
  funext text
  rw [alternative?_eq_lookup]
  exact lookup_of_perm h.symm nodup_words text

/-!
# Reading the longest word
-/

theorem readIn_of_perm
    {table : List (List Char × Operator)}
    (h : table.Perm suffixes)
    (naming : Naming) (name : String) :
    readIn table naming name = read naming name := by
  unfold readIn read
  rw [alternative?_of_perm h]

section

variable {naming : Naming} {name : String}

theorem read_of_longest
    {base word : List Char} {operator : Operator}
    (h : Longest (normalize name.toList) base word operator) :
    read naming name = ⟨naming.column (String.ofList base), operator⟩ :=
  readWith_of_cutBy_eq_some (longest_iff_isCut.mp h).cutBy_eq_some

theorem read_of_no_candidate
    (h : ∀ base word operator, ¬Candidate (normalize name.toList) base word operator) :
    read naming name = ⟨naming.column (String.ofList (normalize name.toList)), .eq⟩ := by
  apply readWith_of_cutBy_eq_none
  cases hcut : cutBy operatorOf? (normalize name.toList) with
  | none => rfl
  | some found =>
      rcases cutBy_eq_some_iff.mp hcut with ⟨word, hword⟩
      exact absurd hword.candidate (h found.1 word found.2)

theorem operatorOf?_last
    {front last : List Char}
    (h : operatorOf? (front ++ '_' :: last) ≠ none)
    (hlast : '_' ∉ last) :
    operatorOf? last ≠ none := by
  have hall : ∀ entry ∈ suffixes, ∀ place < entry.1.length, entry.1[place]? = some '_' ->
      '_' ∉ entry.1.drop (place + 1) -> operatorOf? (entry.1.drop (place + 1)) ≠ none := by
    decide +kernel
  rcases Option.ne_none_iff_exists'.mp h with ⟨operator, hoperator⟩
  have hentry := hall _ (mem_suffixes_of_operatorOf? hoperator) front.length (by simp) (by simp)
  simpa [hlast] using hentry

theorem no_candidate_of_last
    {whole front last : List Char}
    (hwhole : whole = front ++ '_' :: last)
    (hlast : '_' ∉ last)
    (hunknown : operatorOf? last = none) :
    ∀ base word operator, ¬Candidate whole base word operator := by
  intro base word operator h
  have hword := h.found_ne_none
  rcases List.append_eq_append_iff.mp (hwhole.symm.trans h.cut) with
    ⟨more, hmore, hrest⟩ | ⟨more, hmore, hrest⟩
  · cases more with
    | nil =>
        rw [List.nil_append, List.cons_eq_cons] at hrest
        rw [← hrest.right, hunknown] at hword
        exact hword rfl
    | cons c more =>
        -- the base would reach into the last word
        rw [List.cons_append, List.cons_eq_cons] at hrest
        apply hlast
        rw [hrest.right]
        simp
  · cases more with
    | nil =>
        rw [List.nil_append, List.cons_eq_cons] at hrest
        rw [hrest.right, hunknown] at hword
        exact hword rfl
    | cons c more =>
        rw [List.cons_append, List.cons_eq_cons] at hrest
        rw [hrest.right] at hword
        exact operatorOf?_last hword hlast hunknown

theorem Candidate.longest_of_clear
    {whole base word : List Char} {operator : Operator}
    (h : Candidate whole base word operator)
    (hclear : '_' ∉ base) :
    Longest whole base word operator := by
  apply longest_iff_isCut.mpr
  refine ⟨h.cut, h.nonempty, h.chars, h.found, ?_⟩
  intro before between hbase _
  refine absurd ?_ hclear
  rw [hbase]
  simp

/-- The words of operators that have an underscore are `not` and the word of another operator. -/
theorem eq_not_append_of_mem_suffixes
    {token : List Char} {operator : Operator}
    (h : (token, operator) ∈ suffixes)
    (hmark : '_' ∈ token) :
    ∃ word positive, token = "not".toList ++ '_' :: word ∧ (word, positive) ∈ suffixes := by
  have hall : ∀ entry ∈ suffixes, '_' ∈ entry.1 -> ∃ other ∈ suffixes,
      entry.1 = "not".toList ++ '_' :: other.1 := by
    decide +kernel
  rcases hall _ h hmark with ⟨other, hother, htoken⟩
  exact ⟨other.1, other.2, htoken, hother⟩

theorem read_of_bare
    {token : List Char} {operator : Operator}
    (h : (token, operator) ∈ suffixes)
    (hmark : '_' ∈ token)
    (hname : normalize name.toList = token) :
    ∃ word positive, token = "not".toList ++ '_' :: word ∧ (word, positive) ∈ suffixes ∧
      read naming name = ⟨naming.column "not", positive⟩ := by
  rcases eq_not_append_of_mem_suffixes h hmark with ⟨word, positive, htoken, hword⟩
  have hcandidate : Candidate (normalize name.toList) "not".toList word positive := by
    refine ⟨?_, by decide, List.all_eq_true.mp (by decide), hword⟩
    rw [hname, htoken]
  have hlongest := hcandidate.longest_of_clear (by decide)
  exact ⟨word, positive, htoken, hword, read_of_longest hlongest⟩

end

/-- Of all words that a name ends in, the longest is its operator's, in whatever order the table of
the words is; a name that ends in none asks for equality. -/
theorem readIn_longest
    {table : List (List Char × Operator)}
    (h : table.Perm suffixes)
    (naming : Naming) (name : String) :
    (∀ base word operator, Longest (normalize name.toList) base word operator ->
        readIn table naming name = ⟨naming.column (String.ofList base), operator⟩) ∧
      ((∃ base word operator, Candidate (normalize name.toList) base word operator) ->
        ∃ base word operator, Longest (normalize name.toList) base word operator) ∧
      ((∀ base word operator, ¬Candidate (normalize name.toList) base word operator) ->
        readIn table naming name =
          ⟨naming.column (String.ofList (normalize name.toList)), .eq⟩) ∧
      ('_' ∉ normalize name.toList ->
        readIn table naming name =
          ⟨naming.column (String.ofList (normalize name.toList)), .eq⟩) ∧
      (∀ front last, normalize name.toList = front ++ '_' :: last -> '_' ∉ last ->
        operatorOf? last = none -> readIn table naming name =
          ⟨naming.column (String.ofList (normalize name.toList)), .eq⟩) ∧
      (∀ token operator, (token, operator) ∈ suffixes -> '_' ∈ token ->
        normalize name.toList = token ->
          ∃ word positive, token = "not".toList ++ '_' :: word ∧ (word, positive) ∈ suffixes ∧
            readIn table naming name = ⟨naming.column "not", positive⟩) := by
  rw [readIn_of_perm h]
  refine ⟨?_, ?_, read_of_no_candidate, ?_, ?_, ?_⟩
  · intro base word operator hlongest
    exact read_of_longest hlongest
  · rintro ⟨base, word, operator, hcandidate⟩
    exact hcandidate.exists_longest
  · intro hmark
    apply read_of_no_candidate
    intro base word operator hcandidate
    apply hmark
    rw [hcandidate.cut]
    simp
  · intro front last hname hlast hunknown
    exact read_of_no_candidate (no_candidate_of_last hname hlast hunknown)
  · intro token operator hentry hmark hname
    exact read_of_bare hentry hmark hname

theorem readIn_longest_reversed :
    suffixes.reverse.Perm suffixes ∧
      Longest (normalize "userName_not_in".toList) "user_name".toList "not_in".toList .notIn ∧
        readIn suffixes.reverse {} "userName_not_in" = ⟨"user_name", .notIn⟩ := by
  have hnormal : normalize "userName_not_in".toList = "user_name_not_in".toList := by
    decide +kernel
  have hcut : cutBy operatorOf? (normalize "userName_not_in".toList) =
      some ("user_name".toList, .notIn) := by
    decide +kernel
  have hlongest : Longest (normalize "userName_not_in".toList) "user_name".toList
      "not_in".toList .notIn := by
    rcases cutBy_eq_some_iff.mp hcut with ⟨word, hword⟩
    have hsame : '_' :: word = "_not_in".toList := by
      have hwhole : "user_name".toList ++ "_not_in".toList =
          "user_name".toList ++ '_' :: word := by
        rw [← hword.cut, hnormal]
        rfl
      exact (List.append_cancel_left hwhole).symm
    cases hsame
    exact longest_iff_isCut.mpr hword
  have hcolumn : Naming.column {} (String.ofList "user_name".toList) = "user_name" := by
    decide +kernel
  have hread := (readIn_longest (List.reverse_perm suffixes) {} "userName_not_in").left
    _ _ _ hlongest
  rw [hcolumn] at hread
  exact ⟨List.reverse_perm suffixes, hlongest, hread⟩

/-- A name that is an operator's word, and has another one after an underscore, is no equality on
the whole name. -/
theorem read_ne_eq_of_bare_not_in :
    ("not_in".toList, Operator.notIn) ∈ suffixes ∧ normalize "not_in".toList = "not_in".toList ∧
      read {} "not_in" = ⟨"not", .isIn⟩ ∧
        read {} "not_in" ≠ ⟨Naming.column {} (String.ofList "not_in".toList), .eq⟩ := by
  decide +kernel

end FieldName
end Criteria
