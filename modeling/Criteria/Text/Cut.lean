/-!
# Cutting and joining texts

Texts are cut at a separating character, or at the first or last place where a mark of several
characters stands.  Joining puts a separator between neighbours.
-/

namespace Criteria
namespace Text

/-!
# Marks at either end
-/

def dropStart? : List Char -> List Char -> Option (List Char)
  | [], cs => some cs
  | _ :: _, [] => none
  | m :: mark, c :: cs => if m = c then dropStart? mark cs else none

def dropEnd? (mark cs : List Char) : Option (List Char) :=
  (dropStart? mark.reverse cs.reverse).map List.reverse

theorem dropStart?_eq_some_iff
    {mark cs rest : List Char} :
    dropStart? mark cs = some rest ↔ cs = mark ++ rest := by
  induction mark generalizing cs with
  | nil =>
      constructor
      · intro h
        cases h
        rfl
      · intro h
        rw [h]
        rfl
  | cons m mark ih =>
      cases cs with
      | nil => simp [dropStart?]
      | cons c cs =>
          by_cases hc : m = c
          · simp [dropStart?, hc, ih]
          · have hc' : ¬ c = m := fun h => hc h.symm
            simp [dropStart?, hc, hc']

theorem dropEnd?_eq_some_iff
    {mark cs rest : List Char} :
    dropEnd? mark cs = some rest ↔ cs = rest ++ mark := by
  simp only [dropEnd?, Option.map_eq_some_iff, dropStart?_eq_some_iff]
  constructor
  · intro h
    cases h with
    | intro a ha =>
        have hrev := congrArg List.reverse ha.left
        rw [← ha.right]
        simpa using hrev
  · intro h
    refine ⟨rest.reverse, ?_, by simp⟩
    rw [h]
    simp

/-!
# Cutting
-/

def splitWhere (isSeparator : Char -> Bool) : List Char -> List (List Char)
  | [] => [[]]
  | c :: cs =>
      if isSeparator c then
        [] :: splitWhere isSeparator cs
      else
        match splitWhere isSeparator cs with
        | [] => [[c]]
        | piece :: pieces => (c :: piece) :: pieces

def split (separator : Char) (cs : List Char) : List (List Char) :=
  splitWhere (· == separator) cs

def cutFirst? (mark : List Char) : List Char -> Option (List Char × List Char)
  | [] => (dropStart? mark []).map fun rest => ([], rest)
  | c :: cs =>
      match dropStart? mark (c :: cs) with
      | some rest => some ([], rest)
      | none => (cutFirst? mark cs).map fun parts => (c :: parts.1, parts.2)

def cutLast? (mark : List Char) : List Char -> Option (List Char × List Char)
  | [] => (dropStart? mark []).map fun rest => ([], rest)
  | c :: cs =>
      match cutLast? mark cs with
      | some parts => some (c :: parts.1, parts.2)
      | none => (dropStart? mark (c :: cs)).map fun rest => ([], rest)

def replaceFirst (mark part cs : List Char) : List Char :=
  match cutFirst? mark cs with
  | some parts => parts.1 ++ part ++ parts.2
  | none => cs

/-!
# Joining
-/

def joinChars (separator : List Char) : List (List Char) -> List Char
  | [] => []
  | [piece] => piece
  | piece :: next :: pieces => piece ++ separator ++ joinChars separator (next :: pieces)

def joinWith (separator : String) : List String -> String
  | [] => ""
  | [piece] => piece
  | piece :: next :: pieces => piece ++ separator ++ joinWith separator (next :: pieces)

/-!
# Small laws
-/

theorem splitWhere_ne_nil
    (isSeparator : Char -> Bool) (cs : List Char) :
    splitWhere isSeparator cs ≠ [] := by
  induction cs with
  | nil => simp [splitWhere]
  | cons c cs ih =>
      by_cases hc : isSeparator c = true
      · simp [splitWhere, hc]
      · simp only [splitWhere, if_neg hc]
        cases h : splitWhere isSeparator cs with
        | nil => simp
        | cons piece pieces => simp

theorem split_ne_nil
    (separator : Char) (cs : List Char) :
    split separator cs ≠ [] :=
  splitWhere_ne_nil _ cs

theorem joinChars_split
    (separator : Char) (cs : List Char) :
    joinChars [separator] (split separator cs) = cs := by
  unfold split
  induction cs with
  | nil => rfl
  | cons c cs ih =>
      have hne := splitWhere_ne_nil (· == separator) cs
      by_cases hc : (c == separator) = true
      · cases h : splitWhere (· == separator) cs with
        | nil => exact absurd h hne
        | cons piece pieces =>
            rw [h] at ih
            simp [splitWhere, h, joinChars, ih, beq_iff_eq.mp hc]
      · simp only [splitWhere, if_neg hc]
        cases h : splitWhere (· == separator) cs with
        | nil => exact absurd h hne
        | cons piece pieces =>
            rw [h] at ih
            cases pieces with
            | nil =>
                simp only [joinChars] at ih ⊢
                rw [ih]
            | cons next pieces =>
                simp only [joinChars] at ih ⊢
                rw [← ih]
                simp

theorem joinWith_toList
    (separator : String) (pieces : List String) :
    (joinWith separator pieces).toList =
      joinChars separator.toList (pieces.map String.toList) := by
  induction pieces with
  | nil => rfl
  | cons piece pieces ih =>
      cases pieces with
      | nil => rfl
      | cons next pieces =>
          simp only [joinWith, List.map_cons, joinChars, String.toList_append] at ih ⊢
          rw [ih]

end Text
end Criteria
