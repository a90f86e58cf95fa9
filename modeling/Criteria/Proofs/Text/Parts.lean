import Mathlib.Data.List.TakeWhile
import Criteria.Proofs.Text.Pieces
import Criteria.Proofs.Text.Splitting

/-!
# Parts of a text

Splitting and trimming are determined by what they do: the pieces of a text are the only texts
without separators that join to it, and what is left of a text by trimming is the only part of it
that has blanks alone around it and neither begins nor ends with one.
-/

namespace Criteria
namespace Text

/-!
# Separated pieces
-/

/-- Texts without separators that join to the whole text. -/
structure Separated (separator : Char) (cs : List Char) (pieces : List (List Char)) : Prop where
  nonempty : pieces ≠ []
  joined : joinChars [separator] pieces = cs
  clear : ∀ piece ∈ pieces, separator ∉ piece

theorem split_eq_iff
    {separator : Char} {cs : List Char} {pieces : List (List Char)} :
    split separator cs = pieces ↔ Separated separator cs pieces := by
  constructor
  · rintro rfl
    refine ⟨split_ne_nil separator cs, joinChars_split separator cs, ?_⟩
    intro piece hpiece hin
    have hclear := clear_of_mem_splitWhere hpiece hin
    simp at hclear
  · intro h
    rw [← h.joined]
    refine splitWhere_joinChars (by simp) h.nonempty ?_
    intro piece hpiece c hc
    have hne : c ≠ separator := by
      rintro rfl
      exact h.clear piece hpiece hc
    simp [hne]

/-!
# Trimmed texts
-/

/-- The part of a text with blanks alone around it that neither begins nor ends with one. -/
structure Trimmed (cs core : List Char) : Prop where
  around : ∃ front back, cs = front ++ core ++ back ∧ (∀ c ∈ front, isBlank c = true) ∧
    ∀ c ∈ back, isBlank c = true
  first : ∀ c ∈ core.head?, isBlank c = false
  last : ∀ c ∈ core.getLast?, isBlank c = false

theorem exists_trimStart
    (cs : List Char) :
    ∃ front, cs = front ++ trimStart cs ∧ ∀ c ∈ front, isBlank c = true := by
  refine ⟨cs.takeWhile isBlank, List.takeWhile_append_dropWhile.symm, ?_⟩
  exact fun c hc => List.mem_takeWhile_imp hc

theorem first_trimStart
    (cs : List Char) :
    ∀ c ∈ (trimStart cs).head?, isBlank c = false := by
  intro c hc
  have hfirst := List.head?_dropWhile_not isBlank cs
  unfold trimStart at hc
  rw [Option.mem_def.mp hc] at hfirst
  exact hfirst

theorem trimStart_append
    {front : List Char}
    (h : ∀ c ∈ front, isBlank c = true)
    (cs : List Char) :
    trimStart (front ++ cs) = trimStart cs :=
  List.dropWhile_append_of_pos h

theorem trimStart_of_first
    {cs : List Char}
    (h : ∀ c ∈ cs.head?, isBlank c = false) :
    trimStart cs = cs := by
  cases cs with
  | nil => rfl
  | cons c cs => exact List.dropWhile_cons_of_neg (by simp [h c rfl])

theorem trimStart_of_blank
    {cs : List Char}
    (h : ∀ c ∈ cs, isBlank c = true) :
    trimStart cs = [] :=
  List.dropWhile_eq_nil_iff.mpr h

theorem trimEnd_eq
    (cs : List Char) :
    trimEnd cs = (trimStart cs.reverse).reverse :=
  rfl

theorem exists_trimEnd
    (cs : List Char) :
    ∃ back, cs = trimEnd cs ++ back ∧ ∀ c ∈ back, isBlank c = true := by
  rcases exists_trimStart cs.reverse with ⟨front, hfront, hblank⟩
  refine ⟨front.reverse, ?_, fun c hc => hblank c (List.mem_reverse.mp hc)⟩
  have hwhole := congrArg List.reverse hfront
  rwa [List.reverse_reverse, List.reverse_append] at hwhole

theorem trimmed_trimChars
    (cs : List Char) :
    Trimmed cs (trimChars cs) := by
  rcases exists_trimStart cs with ⟨front, hfront, hbefore⟩
  rcases exists_trimEnd (trimStart cs) with ⟨back, hback, hafter⟩
  constructor
  case around =>
    refine ⟨front, back, ?_, hbefore, hafter⟩
    rw [List.append_assoc, trimChars, ← hback]
    exact hfront
  case first =>
    intro c hc
    apply first_trimStart cs
    rw [Option.mem_def, trimChars] at hc
    rw [hback, Option.mem_def, List.head?_append, hc]
    rfl
  case last =>
    intro c hc
    rw [trimChars, trimEnd_eq, List.getLast?_reverse] at hc
    exact first_trimStart (trimStart cs).reverse c hc

theorem Trimmed.trimChars_eq
    {cs core : List Char}
    (h : Trimmed cs core) :
    trimChars cs = core := by
  rcases h.around with ⟨front, back, rfl, hbefore, hafter⟩
  rw [trimChars, List.append_assoc, trimStart_append hbefore]
  cases core with
  | nil =>
      rw [List.nil_append, trimStart_of_blank hafter]
      rfl
  | cons c core =>
      have hback : ∀ c ∈ back.reverse, isBlank c = true :=
        fun c hc => hafter c (List.mem_reverse.mp hc)
      have hlast : ∀ d ∈ (c :: core).reverse.head?, isBlank d = false := by
        rw [List.head?_reverse]
        exact h.last
      have hfirst : ∀ d ∈ (c :: core ++ back).head?, isBlank d = false := h.first
      rw [trimStart_of_first hfirst, trimEnd_eq, List.reverse_append, trimStart_append hback,
        trimStart_of_first hlast, List.reverse_reverse]

theorem trimChars_eq_iff
    {cs core : List Char} :
    trimChars cs = core ↔ Trimmed cs core := by
  constructor
  · rintro rfl
    exact trimmed_trimChars cs
  · exact Trimmed.trimChars_eq

/-!
# Blanks around a text
-/

def Blank (cs : List Char) : Prop :=
  ∀ c ∈ cs, isBlank c = true

instance : DecidablePred Blank :=
  fun cs => decidable_of_iff (cs.all isBlank = true) List.all_eq_true

def Padded (core cs : List Char) : Prop :=
  ∃ front back, cs = front ++ core ++ back ∧ Blank front ∧ Blank back

theorem padded_self
    (core : List Char) :
    Padded core core :=
  ⟨[], [], by simp, by simp [Blank], by simp [Blank]⟩

theorem padded_trimChars
    (cs : List Char) :
    Padded (trimChars cs) cs :=
  (trimmed_trimChars cs).around

theorem Padded.pad_left
    {core cs front : List Char}
    (h : Padded core cs)
    (hfront : Blank front) :
    Padded core (front ++ cs) := by
  rcases h with ⟨before, after, rfl, hbefore, hafter⟩
  refine ⟨front ++ before, after, by simp, ?_, hafter⟩
  exact List.forall_mem_append.mpr ⟨hfront, hbefore⟩

theorem Padded.pad_right
    {core cs back : List Char}
    (h : Padded core cs)
    (hback : Blank back) :
    Padded core (cs ++ back) := by
  rcases h with ⟨before, after, rfl, hbefore, hafter⟩
  refine ⟨before, after ++ back, by simp, hbefore, ?_⟩
  exact List.forall_mem_append.mpr ⟨hafter, hback⟩

theorem Padded.mem
    {core cs : List Char} {c : Char}
    (h : Padded core cs)
    (hc : c ∈ cs) :
    c ∈ core ∨ isBlank c = true := by
  rcases h with ⟨front, back, rfl, hfront, hback⟩
  simp only [List.mem_append] at hc
  rcases hc with (hfirst | hcore) | hlast
  · exact Or.inr (hfront c hfirst)
  · exact Or.inl hcore
  · exact Or.inr (hback c hlast)

theorem trimChars_trimChars
    (cs : List Char) :
    trimChars (trimChars cs) = trimChars cs := by
  have htrimmed := trimmed_trimChars cs
  exact trimChars_eq_iff.mpr ⟨padded_self _, htrimmed.first, htrimmed.last⟩

theorem trimChars_eq_iff_padded_of_trimmed
    {core cs : List Char}
    (h : trimChars core = core) :
    trimChars cs = core ↔ Padded core cs := by
  have hcore := trimChars_eq_iff.mp h
  rw [trimChars_eq_iff]
  constructor
  · exact Trimmed.around
  · intro hpadded
    exact ⟨hpadded, hcore.first, hcore.last⟩

theorem trimChars_eq_iff_padded
    {core cs : List Char}
    (h : ∀ c ∈ core, isBlank c = false) :
    trimChars cs = core ↔ Padded core cs := by
  apply trimChars_eq_iff_padded_of_trimmed
  rw [trimChars_eq_iff]
  exact ⟨padded_self core, fun c hc => h c (List.mem_of_mem_head? hc),
    fun c hc => h c (List.mem_of_mem_getLast? hc)⟩

theorem trimChars_eq_self
    {cs : List Char}
    (h : ∀ c ∈ cs, isBlank c = false) :
    trimChars cs = cs :=
  (trimChars_eq_iff_padded h).mpr (padded_self cs)

theorem trimChars_eq_nil_iff
    {cs : List Char} :
    trimChars cs = [] ↔ Blank cs := by
  rw [trimChars_eq_iff_padded (by simp)]
  constructor
  · rintro h c hc
    rcases h.mem hc with hnil | hblank
    · cases hnil
    · exact hblank
  · intro h
    exact ⟨cs, [], by simp, h, by simp [Blank]⟩

/-!
# Marks in a text with blanks around it
-/

section

variable {mark : List Char}

/-- A mark without blanks does not begin in the blanks before a text. -/
theorem infix_append_iff_of_blank
    (hne : mark ≠ [])
    (hmark : ∀ c ∈ mark, isBlank c = false)
    {front : List Char}
    (hfront : Blank front)
    (cs : List Char) :
    mark <:+: front ++ cs ↔ mark <:+: cs := by
  induction front with
  | nil => exact Iff.rfl
  | cons c front ih =>
      rcases List.forall_mem_cons.mp hfront with ⟨hc, hrest⟩
      rw [List.cons_append, List.infix_cons_iff, ih hrest]
      refine or_iff_right ?_
      intro hhere
      rcases List.prefix_cons_iff.mp hhere with hnil | ⟨rest, rfl, _⟩
      · exact hne hnil
      · rw [hmark c List.mem_cons_self] at hc
        cases hc

theorem Padded.infix_iff
    {core cs : List Char}
    (h : Padded core cs)
    (hne : mark ≠ [])
    (hmark : ∀ c ∈ mark, isBlank c = false) :
    mark <:+: cs ↔ mark <:+: core := by
  rcases h with ⟨front, back, rfl, hfront, hback⟩
  rw [List.append_assoc, infix_append_iff_of_blank hne hmark hfront, ← List.reverse_infix,
    List.reverse_append]
  -- read backwards, the blanks behind the text stand before it
  have hne' : mark.reverse ≠ [] := by
    simpa using hne
  have hmark' : ∀ c ∈ mark.reverse, isBlank c = false :=
    fun c hc => hmark c (List.mem_reverse.mp hc)
  have hback' : Blank back.reverse := fun c hc => hback c (List.mem_reverse.mp hc)
  rw [infix_append_iff_of_blank hne' hmark' hback', List.reverse_infix]

end

end Text
end Criteria
