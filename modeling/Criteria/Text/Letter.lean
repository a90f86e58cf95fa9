import Criteria.Text.Letter.Context
import Criteria.Text.Letter.Table

/-!
# Letters and their case

Upper and lower case images of a character, and the letters that count as upper or lower case:
those with two different images of which one is the character itself.  An image can have
several characters (`ß` is `SS` in upper case).  In a text, a capital sigma at the end of a word has a
lower case form of its own.
-/

namespace Criteria
namespace Text
namespace Letter

/-!
# Images
-/

def Run.image? (run : Run) (code : Nat) : Option Nat :=
  if run.first ≤ code ∧ code ≤ run.last ∧ (code - run.first) % run.step = 0 then
    some (run.image + (code - run.first))
  else
    none

def imageIn (runs : List Run) (c : Char) : Char :=
  match runs.findSome? fun run => run.image? c.toNat with
  | some code => Char.ofNat code
  | none => c

def lower (c : Char) : List Char :=
  if c.toNat < 0x80 then
    [c.toLower]
  else if c.toNat = 0x130 then
    ['i', Char.ofNat 0x307]
  else
    [imageIn lowerRuns c]

def upper (c : Char) : List Char :=
  if c.toNat < 0x80 then
    [c.toUpper]
  else
    match upperSequences.find? fun entry => entry.1 = c.toNat with
    | some entry => entry.2.map Char.ofNat
    | none => [imageIn upperRuns c]

/-!
# Classes
-/

def isUpper (c : Char) : Bool :=
  lower c != upper c && upper c == [c]

def isLower (c : Char) : Bool :=
  lower c != upper c && lower c == [c]

def isDigit (c : Char) : Bool :=
  '0' ≤ c && c ≤ '9'

def isCapital (c : Char) : Bool :=
  isUpper c || lastingCapitals.any fun range => range.1 ≤ c.toNat && c.toNat ≤ range.2

/-!
# Texts in lower case
-/

def isIgnorable (c : Char) : Bool :=
  ignorableRanges.any fun range => range.1 ≤ c.toNat && c.toNat ≤ range.2

def isCased (c : Char) : Bool :=
  casedRanges.any fun range => range.1 ≤ c.toNat && c.toNat ≤ range.2

def meetsCased (cs : List Char) : Bool :=
  (cs.find? fun c => !isIgnorable c).any isCased

/-- The form of a character between others, of which those before it are read backwards. -/
def lowerBetween (before : List Char) (c : Char) (behind : List Char) : List Char :=
  if c == 'Σ' && meetsCased before && !meetsCased behind then ['ς'] else lower c

def lowerAfter (before : List Char) : List Char -> List Char
  | [] => []
  | c :: cs => lowerBetween before c cs ++ lowerAfter (c :: before) cs

def lowerAll (cs : List Char) : List Char :=
  lowerAfter [] cs

theorem lowerBetween_cases
    (before : List Char) (c : Char) (behind : List Char) :
    lowerBetween before c behind = lower c ∨ c = 'Σ' ∧ lowerBetween before c behind = ['ς'] := by
  unfold lowerBetween
  split
  next hfinal =>
    simp only [Bool.and_eq_true, beq_iff_eq] at hfinal
    exact Or.inr ⟨hfinal.left.left, rfl⟩
  next => exact Or.inl rfl

theorem lowerAfter_eq_flatMap
    {cs : List Char}
    (h : 'Σ' ∉ cs)
    (before : List Char) :
    lowerAfter before cs = cs.flatMap lower := by
  induction cs generalizing before with
  | nil => rfl
  | cons c cs ih =>
      rw [List.mem_cons, not_or] at h
      rw [lowerAfter, ih h.right, List.flatMap_cons]
      rcases lowerBetween_cases before c cs with hlower | ⟨hsigma, _⟩
      · rw [hlower]
      · exact absurd hsigma.symm h.left

theorem lowerAll_eq_flatMap
    {cs : List Char}
    (h : 'Σ' ∉ cs) :
    lowerAll cs = cs.flatMap lower :=
  lowerAfter_eq_flatMap h []

theorem of_mem_lowerAfter
    {before cs : List Char} {d : Char}
    (h : d ∈ lowerAfter before cs) :
    ∃ c ∈ cs, d ∈ lower c ∨ c = 'Σ' ∧ d = 'ς' := by
  induction cs generalizing before with
  | nil => cases h
  | cons c cs ih =>
      rcases List.mem_append.mp h with hhere | hlater
      · refine ⟨c, List.mem_cons_self, ?_⟩
        rcases lowerBetween_cases before c cs with hlower | ⟨hsigma, hfinal⟩
        · rw [hlower] at hhere
          exact Or.inl hhere
        · rw [hfinal] at hhere
          exact Or.inr ⟨hsigma, List.mem_singleton.mp hhere⟩
      · rcases ih hlater with ⟨e, he, hd⟩
        exact ⟨e, List.mem_cons_of_mem c he, hd⟩

theorem of_mem_lowerAll
    {cs : List Char} {d : Char}
    (h : d ∈ lowerAll cs) :
    ∃ c ∈ cs, d ∈ lower c ∨ c = 'Σ' ∧ d = 'ς' :=
  of_mem_lowerAfter h

theorem mem_lowerAfter
    {cs : List Char} {c : Char}
    (h : c ∈ cs)
    (before : List Char) :
    (∀ d ∈ lower c, d ∈ lowerAfter before cs) ∨ c = 'Σ' ∧ 'ς' ∈ lowerAfter before cs := by
  induction cs generalizing before with
  | nil => cases h
  | cons e cs ih =>
      rcases List.mem_cons.mp h with rfl | hlater
      · rcases lowerBetween_cases before c cs with hlower | ⟨hsigma, hfinal⟩
        · refine Or.inl fun d hd => List.mem_append_left _ ?_
          rwa [hlower]
        · refine Or.inr ⟨hsigma, List.mem_append_left _ ?_⟩
          rw [hfinal]
          exact List.mem_singleton_self _
      · exact (ih hlater (e :: before)).imp
          (fun hlower d hd => List.mem_append_right _ (hlower d hd))
          fun hfinal => ⟨hfinal.left, List.mem_append_right _ hfinal.right⟩

theorem mem_lowerAll
    {cs : List Char} {c : Char}
    (h : c ∈ cs) :
    (∀ d ∈ lower c, d ∈ lowerAll cs) ∨ c = 'Σ' ∧ 'ς' ∈ lowerAll cs :=
  mem_lowerAfter h []

example : lowerAll "ΟΔΥΣΣΕΥΣ Σ".toList = "οδυσσευς σ".toList := by
  decide +kernel

/-!
# The ASCII letters
-/

theorem lower_of_ascii
    {c : Char}
    (h : c.toNat < 0x80) :
    lower c = [c.toLower] := by
  simp [lower, h]

theorem upper_of_ascii
    {c : Char}
    (h : c.toNat < 0x80) :
    upper c = [c.toUpper] := by
  simp [upper, h]

end Letter
end Text
end Criteria
