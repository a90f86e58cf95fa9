import Criteria.Operator

/-!
# Matching by LIKE

The meaning of a pattern, and the proof that a pattern operator seeks its text literally.  A
percent sign stands for any run of characters and an underscore for any one character.  Where an
escape character is named, the wildcard or escape character after it stands for itself, and nothing
else may follow it.

The marks of a pattern are read first.  The text that is sought becomes a row of literal marks
whether it is escaped or has nothing to escape, and the wildcards that are added stand beside it.
-/

namespace Criteria
namespace Pattern

/-!
# The meaning of patterns
-/

inductive Mark where
  | literal (c : Char)
  | one
  | run
deriving DecidableEq, Repr

namespace Mark

def ofChar (c : Char) : Mark :=
  if c = '%' then .run
  else if c = '_' then .one
  else .literal c

end Mark

/-- The marks of a pattern; none if the escape character stands where it may not. -/
def marks? (escape? : Option Char) : List Char -> Option (List Mark)
  | [] => some []
  | [c] => if escape? = some c then none else some [.ofChar c]
  | c :: d :: cs =>
      if escape? = some c then
        if d = c ∨ d = '%' ∨ d = '_' then (marks? escape? cs).map (.literal d :: ·) else none
      else
        (marks? escape? (d :: cs)).map (.ofChar c :: ·)

def anyRest (passes : List Char -> Bool) : List Char -> Bool
  | [] => passes []
  | c :: cs => passes (c :: cs) || anyRest passes cs

def fits : List Mark -> List Char -> Bool
  | [], subject => subject.isEmpty
  | .literal c :: marks, subject =>
      match subject with
      | [] => false
      | d :: rest => d == c && fits marks rest
  | .one :: marks, subject =>
      match subject with
      | [] => false
      | _ :: rest => fits marks rest
  | .run :: marks, subject => anyRest (fits marks) subject

def matchesLike (escape? : Option Char) (pattern subject : List Char) : Bool :=
  (marks? escape? pattern).any fun marks => fits marks subject

def escapeNamed? (operand : String) : Option Char :=
  match Text.dropStart? "? ESCAPE '".toList operand.toList with
  | some [c, '\''] => some c
  | _ => none

/-!
# Literal marks and runs
-/

theorem anyRest_eq_true_iff
    {passes : List Char -> Bool} {cs : List Char} :
    anyRest passes cs = true ↔ ∃ before rest, cs = before ++ rest ∧ passes rest = true := by
  induction cs with
  | nil =>
      constructor
      · intro h
        exact ⟨[], [], rfl, h⟩
      · rintro ⟨before, rest, heq, hrest⟩
        have hnil : rest = [] := (List.append_eq_nil_iff.mp heq.symm).right
        rwa [hnil] at hrest
  | cons c cs ih =>
      rw [anyRest, Bool.or_eq_true, ih]
      constructor
      · rintro (hhere | ⟨before, rest, heq, hrest⟩)
        · exact ⟨[], c :: cs, rfl, hhere⟩
        · exact ⟨c :: before, rest, by rw [heq, List.cons_append], hrest⟩
      · rintro ⟨before, rest, heq, hrest⟩
        cases before with
        | nil =>
            rw [List.nil_append] at heq
            rw [← heq] at hrest
            exact Or.inl hrest
        | cons b before =>
            rw [List.cons_append, List.cons.injEq] at heq
            exact Or.inr ⟨before, rest, heq.right, hrest⟩

theorem fits_run
    {marks : List Mark} {subject : List Char} :
    fits (.run :: marks) subject = true ↔
      ∃ before rest, subject = before ++ rest ∧ fits marks rest = true :=
  anyRest_eq_true_iff

theorem fits_last_run
    (subject : List Char) :
    fits [.run] subject = true :=
  fits_run.mpr ⟨subject, [], by simp, rfl⟩

theorem fits_literals
    {sought subject : List Char} {marks : List Mark} :
    fits (sought.map .literal ++ marks) subject = true ↔
      ∃ rest, subject = sought ++ rest ∧ fits marks rest = true := by
  induction sought generalizing subject with
  | nil => simp
  | cons c sought ih =>
      cases subject with
      | nil => simp [fits]
      | cons d subject =>
          simp only [List.map_cons, List.cons_append, fits, Bool.and_eq_true, beq_iff_eq,
            List.cons.injEq, ih]
          constructor
          · rintro ⟨hd, rest, heq, hrest⟩
            exact ⟨rest, ⟨hd, heq⟩, hrest⟩
          · rintro ⟨rest, ⟨hd, heq⟩, hrest⟩
            exact ⟨hd, rest, heq, hrest⟩

/-!
# Reading what was escaped

The backslash is named as the escape character, or nothing is.
-/

theorem isSpecial_eq_true_iff
    {c : Char} :
    isSpecial c = true ↔ c = '\\' ∨ c = '_' ∨ c = '%' := by
  simp [isSpecial, or_assoc]

theorem needsEscape_eq_true_iff
    {cs : List Char} :
    needsEscape cs = true ↔ ∃ c ∈ cs, c = '\\' ∨ c = '_' ∨ c = '%' := by
  simp only [needsEscape, List.any_eq_true, isSpecial_eq_true_iff]

theorem escape_of_plain
    {cs : List Char}
    (h : needsEscape cs = false) :
    escape cs = cs := by
  induction cs with
  | nil => rfl
  | cons c cs ih =>
      have hparts : isSpecial c = false ∧ needsEscape cs = false := by
        simpa [needsEscape] using h
      simp [escape, hparts.left, ih hparts.right]

theorem backslash_not_mem_of_plain
    {cs : List Char}
    (h : needsEscape cs = false) :
    '\\' ∉ cs := by
  intro hin
  have hneeds := needsEscape_eq_true_iff.mpr ⟨'\\', hin, Or.inl rfl⟩
  rw [h] at hneeds
  cases hneeds

theorem marks?_cons_of_plain
    {escape? : Option Char} {c : Char}
    (hescape : escape? = none ∨ escape? = some '\\')
    (hc : isSpecial c = false)
    (cs : List Char) :
    marks? escape? (c :: cs) = (marks? escape? cs).map (.literal c :: ·) := by
  have hplain : ¬ (c = '\\' ∨ c = '_' ∨ c = '%') := by
    rw [← isSpecial_eq_true_iff, hc]
    decide
  have hother : escape? ≠ some c := by
    rcases hescape with hnone | hsome
    · simp [hnone]
    · simpa [hsome] using fun h : '\\' = c => hplain (Or.inl h.symm)
  have hmark : Mark.ofChar c = .literal c := by
    rw [Mark.ofChar, if_neg fun h => hplain (Or.inr (Or.inr h)),
      if_neg fun h => hplain (Or.inr (Or.inl h))]
  cases cs with
  | nil => simp [marks?, hother, hmark]
  | cons d cs => rw [marks?, if_neg hother, hmark]

theorem marks?_cons_of_special
    {c : Char}
    (hc : isSpecial c = true)
    (cs : List Char) :
    marks? (some '\\') ('\\' :: c :: cs) = (marks? (some '\\') cs).map (.literal c :: ·) := by
  have hmay : c = '\\' ∨ c = '%' ∨ c = '_' := by
    rcases isSpecial_eq_true_iff.mp hc with hescape | hone | hrun
    · exact Or.inl hescape
    · exact Or.inr (Or.inr hone)
    · exact Or.inr (Or.inl hrun)
  rw [marks?, if_pos rfl, if_pos hmay]

theorem marks?_escape_append
    {escape? : Option Char} {cs : List Char}
    (hescape : escape? = none ∨ escape? = some '\\')
    (hneeds : needsEscape cs = true -> escape? = some '\\')
    (ds : List Char) :
    marks? escape? (escape cs ++ ds) = (marks? escape? ds).map (cs.map .literal ++ ·) := by
  induction cs with
  | nil => simp [escape]
  | cons c cs ih =>
      have hneedsRest : needsEscape cs = true -> needsEscape (c :: cs) = true := by
        intro h
        rw [needsEscape, List.any_cons, Bool.or_eq_true]
        exact Or.inr h
      have hrest := ih fun h => hneeds (hneedsRest h)
      have hcompose : (marks? escape? ds).map ((c :: cs).map .literal ++ ·) =
          (marks? escape? (escape cs ++ ds)).map (.literal c :: ·) := by
        rw [hrest, Option.map_map]
        rfl
      rw [hcompose, escape]
      by_cases hc : isSpecial c = true
      · rw [if_pos hc, hneeds (by simp [needsEscape, hc])]
        exact marks?_cons_of_special hc (escape cs ++ ds)
      · rw [if_neg hc]
        exact marks?_cons_of_plain hescape (by simpa using hc) (escape cs ++ ds)

theorem marks?_percent
    {escape? : Option Char}
    (hescape : escape? = none ∨ escape? = some '\\')
    (cs : List Char) :
    marks? escape? ('%' :: cs) = (marks? escape? cs).map (.run :: ·) := by
  have hother : escape? ≠ some '%' := by
    rcases hescape with hnone | hsome
    · simp [hnone]
    · simp [hsome]
  have hmark : Mark.ofChar '%' = .run := rfl
  cases cs with
  | nil => simp [marks?, hother, hmark]
  | cons d cs => rw [marks?, if_neg hother, hmark]

/-!
# Whole patterns
-/

def Position.Holds (position : Position) (sought subject : List Char) : Prop :=
  match position with
  | .anywhere => sought <:+: subject
  | .start => sought <+: subject
  | .finish => sought <:+ subject

theorem matchesLike_ofText
    {escape? : Option Char} {sought : List Char}
    (hescape : escape? = none ∨ escape? = some '\\')
    (hneeds : needsEscape sought = true -> escape? = some '\\')
    (position : Position) (subject : List Char) :
    matchesLike escape? (ofText position sought) subject = true ↔
      position.Holds sought subject := by
  have hread := marks?_escape_append hescape hneeds
  have hend : marks? escape? ['%'] = some [.run] := marks?_percent hescape []
  have hwhole := hread []
  rw [List.append_nil] at hwhole
  cases position with
  | anywhere =>
      have hmarks : marks? escape? (ofText .anywhere sought) =
          some (.run :: (sought.map .literal ++ [.run])) := by
        rw [ofText, marks?_percent hescape, hread, hend]
        rfl
      rw [matchesLike, hmarks, Option.any_some, fits_run]
      constructor
      · rintro ⟨before, rest, heq, hrest⟩
        rcases fits_literals.mp hrest with ⟨later, hlater, _⟩
        exact ⟨before, later, by rw [heq, hlater, List.append_assoc]⟩
      · rintro ⟨before, later, heq⟩
        refine ⟨before, sought ++ later, by rw [← heq, List.append_assoc], ?_⟩
        exact fits_literals.mpr ⟨later, rfl, fits_last_run later⟩
  | start =>
      have hmarks : marks? escape? (ofText .start sought) =
          some (sought.map .literal ++ [.run]) := by
        rw [ofText, hread, hend]
        rfl
      rw [matchesLike, hmarks, Option.any_some, fits_literals]
      constructor
      · rintro ⟨rest, heq, _⟩
        exact ⟨rest, heq.symm⟩
      · rintro ⟨rest, heq⟩
        exact ⟨rest, heq.symm, fits_last_run rest⟩
  | finish =>
      have hmarks : marks? escape? (ofText .finish sought) =
          some (.run :: (sought.map .literal ++ [])) := by
        rw [ofText, marks?_percent hescape, hwhole]
        rfl
      rw [matchesLike, hmarks, Option.any_some, fits_run]
      constructor
      · rintro ⟨before, rest, heq, hrest⟩
        rcases fits_literals.mp hrest with ⟨later, hlater, hnothing⟩
        have hnil : later = [] := by simpa [fits] using hnothing
        exact ⟨before, by rw [heq, hlater, hnil, List.append_nil]⟩
      · rintro ⟨before, heq⟩
        refine ⟨before, sought, heq.symm, fits_literals.mpr ⟨[], ?_, rfl⟩⟩
        rw [List.append_nil]

theorem backslash_not_mem_ofText
    {sought : List Char}
    (h : needsEscape sought = false)
    (position : Position) :
    '\\' ∉ ofText position sought := by
  have hsought := backslash_not_mem_of_plain h
  cases position <;>
    simp [ofText, escape_of_plain h, hsought]

end Pattern

/-!
# Pattern operators
-/

namespace Operator

open Pattern

/-- What a pattern operator asks of a subject, or denies of it. -/
def Seeks (operator : Operator) (sought subject : List Char) : Prop :=
  match operator with
  | .like | .notLike | .contain | .notContain => sought <:+: subject
  | .start | .notStart => sought <+: subject
  | .finish | .notFinish => sought <:+ subject
  | _ => False

theorem position?_of_sign
    {operator : Operator}
    (hsign : operator.sign = "LIKE" ∨ operator.sign = "NOT LIKE") :
    ∃ position, operator.position? = some position ∧
      ∀ sought subject, position.Holds sought subject ↔ operator.Seeks sought subject := by
  cases operator with
  | like => exact ⟨.anywhere, rfl, fun _ _ => Iff.rfl⟩
  | notLike => exact ⟨.anywhere, rfl, fun _ _ => Iff.rfl⟩
  | contain => exact ⟨.anywhere, rfl, fun _ _ => Iff.rfl⟩
  | notContain => exact ⟨.anywhere, rfl, fun _ _ => Iff.rfl⟩
  | start => exact ⟨.start, rfl, fun _ _ => Iff.rfl⟩
  | notStart => exact ⟨.start, rfl, fun _ _ => Iff.rfl⟩
  | finish => exact ⟨.finish, rfl, fun _ _ => Iff.rfl⟩
  | notFinish => exact ⟨.finish, rfl, fun _ _ => Iff.rfl⟩
  | _ => simp [sign] at hsign

theorem operand?_of_position?
    {operator : Operator} {position : Position}
    (h : operator.position? = some position)
    (text : String) :
    operator.operand? (.text text) = some (patternOperand position text) := by
  cases operator <;>
    cases h <;>
      rfl

theorem attach_of_position?
    {operator : Operator} {position : Position}
    (h : operator.position? = some position)
    (column : String) (operand : Fragment) :
    operator.attach column operand =
      .text (column ++ " " ++ operator.sign ++ " ") ++ operand := by
  cases operator <;>
    cases h <;>
      rfl

theorem patternOperand_cases
    (position : Position) (text : String) :
    (needsEscape text.toList = true ∧ (patternOperand position text).sql = "? ESCAPE '\\'") ∨
      (needsEscape text.toList = false ∧ (patternOperand position text).sql = "?") := by
  by_cases h : needsEscape text.toList = true
  · exact Or.inl ⟨h, if_pos h⟩
  · exact Or.inr ⟨by simpa using h, if_neg h⟩

/-- The condition of a pattern operator binds one pattern, and LIKE matches it with exactly those
subjects that contain the text, or begin or end with it.  The escape character is named only if the
text has a wildcard or a backslash; otherwise the pattern has no backslash, and a backslash that
escapes by default changes no answer. -/
theorem condition?_seeks_literally
    {operator : Operator}
    (hsign : operator.sign = "LIKE" ∨ operator.sign = "NOT LIKE")
    (column text : String) :
    ∃ operand pattern : String,
      operator.operand? (.text text) = some ⟨operand, [.text pattern]⟩ ∧
        operator.condition? column (.text text) =
          some ⟨column ++ " " ++ operator.sign ++ " " ++ operand, [.text pattern]⟩ ∧
        (operand = "?" ∨ operand = "? ESCAPE '\\'") ∧
        (operand = "? ESCAPE '\\'" ↔ ∃ c ∈ text.toList, c = '\\' ∨ c = '_' ∨ c = '%') ∧
        (∀ subject : List Char,
          matchesLike (escapeNamed? operand) pattern.toList subject = true ↔
            operator.Seeks text.toList subject) ∧
        (operand = "?" ->
          '\\' ∉ pattern.toList ∧
            ∀ subject : List Char,
              matchesLike (some '\\') pattern.toList subject =
                matchesLike none pattern.toList subject) := by
  rcases position?_of_sign hsign with ⟨position, hposition, hholds⟩
  have hoperand := operand?_of_position? hposition text
  have hpattern : (String.ofList (ofText position text.toList)).toList =
      ofText position text.toList := String.toList_ofList
  refine ⟨(patternOperand position text).sql, String.ofList (ofText position text.toList),
    hoperand, ?_, ?_⟩
  · rw [condition?, hoperand, Option.map_some, attach_of_position? hposition]
    rfl
  · rw [hpattern, ← needsEscape_eq_true_iff]
    rcases patternOperand_cases position text with ⟨hneeds, hsql⟩ | ⟨hplain, hsql⟩
    · rw [hsql]
      refine ⟨Or.inr rfl, by simp [hneeds], ?_, fun h => absurd h (by decide)⟩
      intro subject
      have hnamed : escapeNamed? "? ESCAPE '\\'" = some '\\' := by decide
      rw [hnamed, ← hholds]
      exact matchesLike_ofText (Or.inr rfl) (fun _ => rfl) position subject
    · have hnever : ∀ {escape? : Option Char},
          needsEscape text.toList = true -> escape? = some '\\' := by
        intro escape? hneeds
        rw [hplain] at hneeds
        cases hneeds
      have hdefault := matchesLike_ofText (Or.inr rfl) hnever position
      have hnone := matchesLike_ofText (Or.inl rfl) hnever position
      rw [hsql]
      refine ⟨Or.inl rfl, by simp [hplain], ?_, fun _ => ⟨?_, ?_⟩⟩
      · intro subject
        have hunnamed : escapeNamed? "?" = none := by decide
        rw [hunnamed, ← hholds]
        exact hnone subject
      · exact backslash_not_mem_ofText hplain position
      · intro subject
        rw [Bool.eq_iff_iff, hdefault subject, hnone subject]

theorem condition?_seeks_literally_backslash :
    (Operator.notFinish.sign = "LIKE" ∨ Operator.notFinish.sign = "NOT LIKE") ∧
      Operator.notFinish.condition? "path" (.text "50%\\") =
        some ⟨"path NOT LIKE ? ESCAPE '\\'", [.text "%50\\%\\\\"]⟩ ∧
      matchesLike (some '\\') "%50\\%\\\\".toList "a 50%\\".toList = true ∧
      matchesLike (some '\\') "%50\\%\\\\".toList "a 50x\\".toList = false := by
  have hsign : Operator.notFinish.sign = "LIKE" ∨ Operator.notFinish.sign = "NOT LIKE" :=
    Or.inr rfl
  rcases condition?_seeks_literally hsign "path" "50%\\" with
    ⟨operand, pattern, hoperand, hcondition, _, _, hmatches, _⟩
  have hvalue : Operator.notFinish.operand? (.text "50%\\") =
      some ⟨"? ESCAPE '\\'", [.text "%50\\%\\\\"]⟩ := by decide +kernel
  rw [hvalue] at hoperand
  cases hoperand
  refine ⟨hsign, hcondition, ?_, ?_⟩
  · exact (hmatches "a 50%\\".toList).mpr ⟨"a ".toList, by decide⟩
  · rw [← Bool.not_eq_true]
    intro hmatch
    rcases (hmatches "a 50x\\".toList).mp hmatch with ⟨before, heq⟩
    have hlast := congrArg (fun cs => cs.reverse.take 4) heq
    simp at hlast

end Operator
end Criteria
