import Criteria.Text.Blank
import Criteria.Text.Cut

/-!
# Pieces of a text

Where the pieces that a text is cut into come from: a cut at a mark gives the text back around the
mark, and no cutting, trimming or joining adds characters of its own.
-/

namespace Criteria
namespace Text

/-!
# Splitting
-/

theorem flatten_splitWhere
    (isSeparator : Char -> Bool) (cs : List Char) :
    (splitWhere isSeparator cs).flatten = cs.filter fun c => !isSeparator c := by
  induction cs with
  | nil => rfl
  | cons c cs ih =>
      unfold splitWhere
      split
      next hc => simp [hc, ih]
      next hc =>
        rw [List.filter_cons_of_pos (by simpa using hc), ← ih]
        cases splitWhere isSeparator cs <;> rfl

section

variable {isSeparator : Char -> Bool} {cs piece : List Char} {c : Char}

theorem of_mem_splitWhere
    (hpiece : piece ∈ splitWhere isSeparator cs)
    (hc : c ∈ piece) :
    c ∈ cs ∧ isSeparator c = false := by
  have hflat : c ∈ (splitWhere isSeparator cs).flatten := List.mem_flatten_of_mem hpiece hc
  rw [flatten_splitWhere, List.mem_filter] at hflat
  exact hflat.imp_right fun h => by simpa using h

theorem mem_of_mem_splitWhere
    (hpiece : piece ∈ splitWhere isSeparator cs)
    (hc : c ∈ piece) :
    c ∈ cs :=
  (of_mem_splitWhere hpiece hc).left

theorem clear_of_mem_splitWhere
    (hpiece : piece ∈ splitWhere isSeparator cs)
    (hc : c ∈ piece) :
    isSeparator c = false :=
  (of_mem_splitWhere hpiece hc).right

end

/-!
# Cuts at a mark
-/

theorem cut_unique
    {mark before after : List Char} {parts : List Char × List Char}
    (h : before ++ mark ++ after = parts.1 ++ mark ++ parts.2)
    (hlength : before.length = parts.1.length) :
    (before, after) = parts := by
  rw [List.append_assoc, List.append_assoc] at h
  rcases List.append_inj h hlength with ⟨hbefore, hrest⟩
  rw [hbefore, List.append_cancel_left hrest]

theorem cutFirst?_eq_append
    {mark cs : List Char} {parts : List Char × List Char}
    (h : cutFirst? mark cs = some parts) :
    cs = parts.1 ++ mark ++ parts.2 := by
  induction cs generalizing parts with
  | nil =>
      simp only [cutFirst?, Option.map_eq_some_iff, dropStart?_eq_some_iff] at h
      rcases h with ⟨rest, hrest, hparts⟩
      rw [← hparts]
      simpa using hrest
  | cons c cs ih =>
      unfold cutFirst? at h
      split at h
      next rest hrest =>
        cases h
        simpa using dropStart?_eq_some_iff.mp hrest
      next =>
        rcases Option.map_eq_some_iff.mp h with ⟨inner, hinner, hparts⟩
        rw [← hparts, ih hinner]
        simp

theorem exists_cutFirst?_append
    (mark front rest : List Char) :
    ∃ parts, cutFirst? mark (front ++ mark ++ rest) = some parts ∧
      parts.1.length ≤ front.length := by
  induction front with
  | nil =>
      have hdrop : dropStart? mark (mark ++ rest) = some rest := dropStart?_eq_some_iff.mpr rfl
      refine ⟨([], rest), ?_, Nat.le_refl _⟩
      rw [List.nil_append]
      cases htext : mark ++ rest with
      | nil =>
          rw [htext] at hdrop
          rw [cutFirst?, hdrop]
          rfl
      | cons c cs =>
          rw [htext] at hdrop
          rw [cutFirst?, hdrop]
  | cons c front ih =>
      rcases ih with ⟨parts, hparts, hlength⟩
      rw [List.cons_append, List.cons_append, cutFirst?]
      split
      next after _ => exact ⟨([], after), rfl, Nat.zero_le _⟩
      next =>
        refine ⟨(c :: parts.1, parts.2), ?_, Nat.succ_le_succ hlength⟩
        rw [hparts]
        rfl

theorem cutFirst?_eq_none_iff
    {mark cs : List Char} :
    cutFirst? mark cs = none ↔ ∀ front rest, cs ≠ front ++ mark ++ rest := by
  constructor
  · intro h front rest hcs
    rcases exists_cutFirst?_append mark front rest with ⟨parts, hparts, _⟩
    rw [← hcs, h] at hparts
    cases hparts
  · intro h
    cases hcut : cutFirst? mark cs with
    | none => rfl
    | some parts => exact absurd (cutFirst?_eq_append hcut) (h parts.1 parts.2)

/-- A text is cut at a mark, and the mark stands nowhere before. -/
structure FirstCut (mark cs before after : List Char) : Prop where
  cut : cs = before ++ mark ++ after
  first : ∀ {front rest : List Char}, cs = front ++ mark ++ rest -> before.length ≤ front.length

theorem cutFirst?_eq_some_iff
    {mark cs before after : List Char} :
    cutFirst? mark cs = some (before, after) ↔ FirstCut mark cs before after := by
  constructor
  · intro h
    refine ⟨cutFirst?_eq_append h, ?_⟩
    intro front rest hcs
    rcases exists_cutFirst?_append mark front rest with ⟨parts, hparts, hlength⟩
    rw [← hcs, h] at hparts
    cases hparts
    exact hlength
  · intro h
    rcases exists_cutFirst?_append mark before after with ⟨parts, hparts, hlength⟩
    rw [← h.cut] at hparts
    have hcs := cutFirst?_eq_append hparts
    have hsame := h.cut.symm.trans hcs
    rw [hparts, cut_unique hsame (Nat.le_antisymm (h.first hcs) hlength)]

theorem firstCut_of_clear
    {m : Char} {mark before after : List Char}
    (h : m ∉ before) :
    FirstCut (m :: mark) (before ++ m :: mark ++ after) before after := by
  refine ⟨rfl, ?_⟩
  intro front rest hcut
  rw [List.append_assoc, List.append_assoc] at hcut
  rcases List.append_eq_append_iff.mp hcut with ⟨more, hmore, _⟩ | ⟨more, hmore, hrest⟩
  · rw [hmore, List.length_append]
    exact Nat.le_add_right _ _
  · cases more with
    | nil => exact Nat.le_of_eq (by rw [hmore, List.append_nil])
    | cons c more =>
        -- the mark would begin inside the text before it
        rw [List.cons_append, List.cons_append, List.cons_eq_cons] at hrest
        rw [hmore, hrest.left] at h
        simp at h

theorem cutLast?_eq_append
    {mark cs : List Char} {parts : List Char × List Char}
    (h : cutLast? mark cs = some parts) :
    cs = parts.1 ++ mark ++ parts.2 := by
  induction cs generalizing parts with
  | nil =>
      simp only [cutLast?, Option.map_eq_some_iff, dropStart?_eq_some_iff] at h
      rcases h with ⟨rest, hrest, hparts⟩
      rw [← hparts]
      simpa using hrest
  | cons c cs ih =>
      unfold cutLast? at h
      split at h
      next inner hinner =>
        cases h
        rw [ih hinner]
        simp
      next =>
        rcases Option.map_eq_some_iff.mp h with ⟨rest, hrest, hparts⟩
        rw [← hparts]
        simpa using dropStart?_eq_some_iff.mp hrest

theorem exists_cutLast?_append
    (mark front rest : List Char) :
    ∃ parts, cutLast? mark (front ++ mark ++ rest) = some parts ∧
      front.length ≤ parts.1.length := by
  induction front with
  | nil =>
      have hdrop : dropStart? mark (mark ++ rest) = some rest := dropStart?_eq_some_iff.mpr rfl
      rw [List.nil_append]
      cases htext : mark ++ rest with
      | nil =>
          rw [htext] at hdrop
          refine ⟨([], rest), ?_, Nat.zero_le _⟩
          rw [cutLast?, hdrop]
          rfl
      | cons c cs =>
          rw [htext] at hdrop
          rw [cutLast?]
          split
          next parts _ => exact ⟨(c :: parts.1, parts.2), rfl, Nat.zero_le _⟩
          next =>
            rw [hdrop]
            exact ⟨([], rest), rfl, Nat.zero_le _⟩
  | cons c front ih =>
      rcases ih with ⟨parts, hparts, hlength⟩
      refine ⟨(c :: parts.1, parts.2), ?_, Nat.succ_le_succ hlength⟩
      rw [List.cons_append, List.cons_append, cutLast?, hparts]

/-- A text is cut at a mark, and the mark stands nowhere behind. -/
structure LastCut (mark cs before after : List Char) : Prop where
  cut : cs = before ++ mark ++ after
  last : ∀ {front rest : List Char}, cs = front ++ mark ++ rest -> front.length ≤ before.length

theorem cutLast?_eq_some_iff
    {mark cs before after : List Char} :
    cutLast? mark cs = some (before, after) ↔ LastCut mark cs before after := by
  constructor
  · intro h
    refine ⟨cutLast?_eq_append h, ?_⟩
    intro front rest hcs
    rcases exists_cutLast?_append mark front rest with ⟨parts, hparts, hlength⟩
    rw [← hcs, h] at hparts
    cases hparts
    exact hlength
  · intro h
    rcases exists_cutLast?_append mark before after with ⟨parts, hparts, hlength⟩
    rw [← h.cut] at hparts
    have hcs := cutLast?_eq_append hparts
    have hsame := h.cut.symm.trans hcs
    rw [hparts, cut_unique hsame (Nat.le_antisymm hlength (h.last hcs))]

theorem lastCut_of_not_behind
    {m : Char} {mark after : List Char}
    (hmark : m ∉ mark)
    (h : ∀ front rest, after ≠ front ++ m :: mark ++ rest)
    (before : List Char) :
    LastCut (m :: mark) (before ++ m :: mark ++ after) before after := by
  refine ⟨rfl, ?_⟩
  intro front rest hcut
  rw [List.append_assoc, List.append_assoc] at hcut
  rcases List.append_eq_append_iff.mp hcut with ⟨more, hmore, hrest⟩ | ⟨more, hmore, _⟩
  · cases more with
    | nil => exact Nat.le_of_eq (by rw [hmore, List.append_nil])
    | cons c more =>
        -- the other mark begins inside this one, or behind it
        rw [List.cons_append, List.cons_append, List.cons_eq_cons] at hrest
        rcases List.append_eq_append_iff.mp hrest.right with
          ⟨inner, _, hafter⟩ | ⟨inner, hinner, hafter⟩
        · rw [← List.append_assoc] at hafter
          exact absurd hafter (h inner rest)
        · cases inner with
          | nil => exact absurd hafter.symm (h [] rest)
          | cons d inner =>
              rw [List.cons_append, List.cons_append, List.cons_eq_cons] at hafter
              rw [hinner, ← hafter.left] at hmark
              simp at hmark
  · rw [hmore, List.length_append]
    exact Nat.le_add_right _ _

/-!
# Trimming, replacing and joining
-/

theorem trimChars_subset
    (cs : List Char) :
    trimChars cs ⊆ cs := by
  intro c hc
  unfold trimChars trimEnd at hc
  have hstart : c ∈ trimStart cs :=
    List.mem_reverse.mp ((List.dropWhile_sublist isBlank).subset (List.mem_reverse.mp hc))
  exact (List.dropWhile_sublist isBlank).subset hstart

theorem mem_replaceFirst
    {mark part cs : List Char} {c : Char}
    (hc : c ∈ replaceFirst mark part cs) :
    c ∈ part ∨ c ∈ cs := by
  unfold replaceFirst at hc
  split at hc
  next parts hparts =>
    rw [cutFirst?_eq_append hparts]
    simp only [List.mem_append] at hc ⊢
    rcases hc with (hbefore | hpart) | hafter
    · exact Or.inr (Or.inl (Or.inl hbefore))
    · exact Or.inl hpart
    · exact Or.inr (Or.inr hafter)
  next => exact Or.inr hc

theorem mem_joinChars
    {separator : List Char} {pieces : List (List Char)} {c : Char}
    (hc : c ∈ joinChars separator pieces) :
    c ∈ separator ∨ ∃ piece ∈ pieces, c ∈ piece := by
  induction pieces with
  | nil => cases hc
  | cons piece pieces ih =>
      cases pieces with
      | nil => exact Or.inr ⟨piece, List.mem_cons_self, hc⟩
      | cons next pieces =>
          simp only [joinChars, List.mem_append] at hc
          rcases hc with (hpiece | hseparator) | hrest
          · exact Or.inr ⟨piece, List.mem_cons_self, hpiece⟩
          · exact Or.inl hseparator
          · rcases ih hrest with hseparator | ⟨other, hother, hin⟩
            · exact Or.inl hseparator
            · exact Or.inr ⟨other, List.mem_cons_of_mem piece hother, hin⟩

theorem mem_joinChars_of_mem
    (separator : List Char)
    {pieces : List (List Char)} {piece : List Char} {c : Char}
    (hpiece : piece ∈ pieces)
    (hc : c ∈ piece) :
    c ∈ joinChars separator pieces := by
  induction pieces with
  | nil => cases hpiece
  | cons first pieces ih =>
      cases pieces with
      | nil =>
          rw [List.mem_singleton.mp hpiece] at hc
          exact hc
      | cons next pieces =>
          rw [joinChars, List.append_assoc, List.mem_append, List.mem_append]
          rcases List.mem_cons.mp hpiece with hfirst | hrest
          · rw [hfirst] at hc
            exact Or.inl hc
          · exact Or.inr (Or.inr (ih hrest))

end Text
end Criteria
