import Criteria.Text.Cut

/-!
# Splitting and joining

A text is split piece by piece: the pieces of two texts with a separator between them are those of
the one and those of the other, and pieces without separators are read back from the joined text.
-/

namespace Criteria
namespace Text

variable {isSeparator : Char -> Bool} {mark : Char}

theorem splitWhere_of_clear
    {cs : List Char}
    (h : ∀ c ∈ cs, isSeparator c = false) :
    splitWhere isSeparator cs = [cs] := by
  induction cs with
  | nil => rfl
  | cons c cs ih =>
      have hc := h c List.mem_cons_self
      have hcs := ih fun d hd => h d (List.mem_cons_of_mem c hd)
      simp [splitWhere, hc, hcs]

theorem splitWhere_append
    (hmark : isSeparator mark = true)
    (before after : List Char) :
    splitWhere isSeparator (before ++ mark :: after) =
      splitWhere isSeparator before ++ splitWhere isSeparator after := by
  induction before with
  | nil => simp [splitWhere, hmark]
  | cons c before ih =>
      rw [List.cons_append]
      by_cases hc : isSeparator c = true
      · simp only [splitWhere, if_pos hc]
        rw [ih]
        rfl
      · simp only [splitWhere, if_neg hc]
        rw [ih]
        cases hsplit : splitWhere isSeparator before with
        | nil => exact absurd hsplit (splitWhere_ne_nil isSeparator before)
        | cons piece pieces => rfl

theorem splitWhere_joinChars
    (hmark : isSeparator mark = true)
    {pieces : List (List Char)}
    (hne : pieces ≠ [])
    (hclear : ∀ piece ∈ pieces, ∀ c ∈ piece, isSeparator c = false) :
    splitWhere isSeparator (joinChars [mark] pieces) = pieces := by
  induction pieces with
  | nil => exact absurd rfl hne
  | cons piece pieces ih =>
      have hpiece := splitWhere_of_clear (hclear piece List.mem_cons_self)
      cases pieces with
      | nil => exact hpiece
      | cons next pieces =>
          have hrest := ih (List.cons_ne_nil next pieces)
            fun other hother => hclear other (List.mem_cons_of_mem piece hother)
          rw [joinChars, List.append_assoc, List.singleton_append, splitWhere_append hmark, hpiece,
            hrest]
          rfl

theorem joinChars_append
    (separator : List Char)
    {pieces more : List (List Char)}
    (hpieces : pieces ≠ [])
    (hmore : more ≠ []) :
    joinChars separator (pieces ++ more) =
      joinChars separator pieces ++ separator ++ joinChars separator more := by
  induction pieces with
  | nil => exact absurd rfl hpieces
  | cons piece pieces ih =>
      cases pieces with
      | nil =>
          cases more with
          | nil => exact absurd rfl hmore
          | cons next more => rfl
      | cons next pieces =>
          have hrest := ih (List.cons_ne_nil next pieces)
          rw [List.cons_append] at hrest
          rw [List.cons_append, List.cons_append, joinChars, joinChars, hrest]
          simp only [List.append_assoc]

end Text
end Criteria
