import Mathlib.Data.List.Basic
import Criteria.Proofs.Text.Parts
import Criteria.Subquery

/-!
# Written annotations

An annotation is read exactly if, without the blanks around it, it is the opening, an expression, the
separator and a source in which the separator does not stand, and neither the expression nor the
source is blank.  It is read as the expression and the source without the blanks around them, so the
annotations of a subquery are its two parts behind the opening and the separator, with any blanks
around the parts and around the whole.
-/

namespace Criteria

open Text

namespace Subquery

/-- The text between the blanks around an annotation is made of these two parts. -/
structure MadeOf (raw select source : List Char) : Prop where
  written : trimChars raw = opening ++ (select ++ separator ++ source)
  last : ∀ front rest, source ≠ front ++ separator ++ rest
  select : ¬Blank select
  source : ¬Blank source

theorem lastCut_separator_iff
    {body select source : List Char} :
    LastCut separator body select source ↔
      body = select ++ separator ++ source ∧ ∀ front rest, source ≠ front ++ separator ++ rest := by
  constructor
  · intro h
    refine ⟨h.cut, ?_⟩
    rintro front rest hsource
    have hcut : body = (select ++ separator ++ front) ++ separator ++ rest := by
      rw [h.cut, hsource]
      simp only [List.append_assoc]
    have hlength := h.last hcut
    have hseparator : separator.length = 6 := rfl
    rw [List.length_append, List.length_append, hseparator] at hlength
    omega
  · rintro ⟨rfl, hlast⟩
    exact lastCut_of_not_behind (by decide) hlast select

theorem parts?_eq_some_iff
    {raw : List Char} {parts : List Char × List Char} :
    parts? raw = some parts ↔
      ∃ select source, MadeOf raw select source ∧
        parts = (trimChars select, trimChars source) := by
  constructor
  · intro h
    unfold parts? at h
    split at h
    next => cases h
    next body hbody =>
      split at h
      next => cases h
      next cut hcut =>
        dsimp only at h
        split at h
        next => cases h
        next hblank =>
          cases h
          rcases lastCut_separator_iff.mp (cutLast?_eq_some_iff.mp hcut) with ⟨hwritten, hlast⟩
          rw [Bool.or_eq_true, List.isEmpty_iff, List.isEmpty_iff, trimChars_eq_nil_iff,
            trimChars_eq_nil_iff, not_or] at hblank
          refine ⟨cut.1, cut.2, ⟨?_, hlast, hblank.left, hblank.right⟩, rfl⟩
          rw [← hwritten]
          exact dropStart?_eq_some_iff.mp hbody
  · rintro ⟨select, source, hmade, rfl⟩
    have hcut : LastCut separator (select ++ separator ++ source) select source :=
      lastCut_separator_iff.mpr ⟨rfl, hmade.last⟩
    have hblank : ¬((trimChars select).isEmpty || (trimChars source).isEmpty) = true := by
      rw [Bool.or_eq_true, List.isEmpty_iff, List.isEmpty_iff, trimChars_eq_nil_iff,
        trimChars_eq_nil_iff, not_or]
      exact ⟨hmade.select, hmade.source⟩
    rw [parts?, dropStart?_eq_some_iff.mpr hmade.written]
    dsimp only
    rw [cutLast?_eq_some_iff.mpr hcut]
    exact if_neg hblank

theorem parse_eq_ok_iff
    {raw : String} {subquery : Subquery} :
    parse raw = .ok subquery ↔
      ∃ select source, MadeOf raw.toList select source ∧
        subquery = ⟨String.ofList (trimChars select), String.ofList (trimChars source)⟩ := by
  unfold parse
  constructor
  · intro h
    split at h
    next parts hparts =>
      cases h
      rcases parts?_eq_some_iff.mp hparts with ⟨select, source, hmade, rfl⟩
      exact ⟨select, source, hmade, rfl⟩
    next => cases h
  · rintro ⟨select, source, hmade, rfl⟩
    rw [parts?_eq_some_iff.mpr ⟨select, source, hmade, rfl⟩]

theorem parse_eq_error_iff
    {raw : String} {fault : Fault} :
    parse raw = .error fault ↔
      fault = .subquery raw ∧ ¬∃ select source, MadeOf raw.toList select source := by
  have hparts : parts? raw.toList = none ↔
      ¬∃ select source, MadeOf raw.toList select source := by
    rw [Option.eq_none_iff_forall_ne_some]
    constructor
    · rintro hnone ⟨select, source, hmade⟩
      exact hnone _ (parts?_eq_some_iff.mpr ⟨select, source, hmade, rfl⟩)
    · intro hno parts hsome
      rcases parts?_eq_some_iff.mp hsome with ⟨select, source, hmade, _⟩
      exact hno ⟨select, source, hmade⟩
  rw [← hparts]
  unfold parse
  cases parts? raw.toList with
  | none => simp [eq_comm]
  | some parts => simp

/-!
# Annotations of a subquery
-/

structure IsPart (text : String) : Prop where
  nonempty : text ≠ ""
  trimmed : trimChars text.toList = text.toList

/-- The subqueries that an annotation can be written for; the expression may hold the separator. -/
structure Writable (subquery : Subquery) : Prop where
  select : IsPart subquery.select
  source : IsPart subquery.source
  clear : ¬separator <:+: subquery.source.toList

/-- The parts of the subquery behind the opening and the separator, with blanks around each part and
around the whole. -/
def Spells (subquery : Subquery) (raw : String) : Prop :=
  ∃ select source, Padded subquery.select.toList select ∧ Padded subquery.source.toList source ∧
    Padded (opening ++ (select ++ separator ++ source)) raw.toList

theorem infix_separator_iff
    {cs : List Char} :
    separator <:+: cs ↔ ∃ front rest, cs = front ++ separator ++ rest := by
  constructor
  · rintro ⟨front, rest, hcs⟩
    exact ⟨front, rest, hcs.symm⟩
  · rintro ⟨front, rest, hcs⟩
    exact ⟨front, rest, hcs.symm⟩

theorem infix_separator_of_padded
    {core cs : List Char}
    (h : Padded core cs) :
    separator <:+: cs ↔ separator <:+: core := by
  have hclear : separator.any isBlank = false := by
    decide
  refine h.infix_iff (List.cons_ne_nil _ _) fun c hc => ?_
  simpa using List.any_eq_false.mp hclear c hc

theorem isPart_trimChars
    {cs : List Char}
    (h : ¬Blank cs) :
    IsPart (String.ofList (trimChars cs)) := by
  constructor
  · intro hempty
    have hnil := congrArg String.toList hempty
    rw [String.toList_ofList] at hnil
    exact h (trimChars_eq_nil_iff.mp hnil)
  · rw [String.toList_ofList]
    exact trimChars_trimChars cs

section

variable {raw : String} {subquery : Subquery}

theorem MadeOf.writable
    {select source : List Char}
    (h : MadeOf raw.toList select source) :
    Writable ⟨String.ofList (trimChars select), String.ofList (trimChars source)⟩ := by
  refine ⟨isPart_trimChars h.select, isPart_trimChars h.source, ?_⟩
  rw [String.toList_ofList, ← infix_separator_of_padded (padded_trimChars source),
    infix_separator_iff]
  rintro ⟨front, rest, hsource⟩
  exact h.last front rest hsource

theorem MadeOf.spells
    {select source : List Char}
    (h : MadeOf raw.toList select source) :
    Spells ⟨String.ofList (trimChars select), String.ofList (trimChars source)⟩ raw := by
  refine ⟨select, source, ?_, ?_, ?_⟩
  · rw [String.toList_ofList]
    exact padded_trimChars select
  · rw [String.toList_ofList]
    exact padded_trimChars source
  · rw [← h.written]
    exact padded_trimChars raw.toList

theorem IsPart.not_blank
    {text : String} {cs : List Char}
    (h : IsPart text)
    (hcs : Padded text.toList cs) :
    ¬Blank cs := by
  rw [← trimChars_eq_nil_iff, (trimChars_eq_iff_padded_of_trimmed h.trimmed).mpr hcs]
  simpa using h.nonempty

theorem Spells.madeOf
    (h : Spells subquery raw)
    (hsubquery : Writable subquery) :
    ∃ select source, MadeOf raw.toList select source ∧
      trimChars select = subquery.select.toList ∧ trimChars source = subquery.source.toList := by
  rcases h with ⟨select, _, hselect, ⟨before, after, rfl, hbefore, hafter⟩,
    ⟨front, back, hraw, hfront, hback⟩⟩
  have hsource : Padded subquery.source.toList (before ++ subquery.source.toList) :=
    (padded_self _).pad_left hbefore
  have hcore := trimChars_eq_iff.mp hsubquery.source.trimmed
  have hne : subquery.source.toList ≠ [] := by
    simpa using hsubquery.source.nonempty
  have hwritten : Trimmed raw.toList
      (opening ++ (select ++ separator ++ (before ++ subquery.source.toList))) := by
    constructor
    case around =>
      refine ⟨front, after ++ back, ?_, hfront, List.forall_mem_append.mpr ⟨hafter, hback⟩⟩
      rw [hraw]
      simp only [List.append_assoc]
    case first =>
      intro c hc
      cases hc
      decide
    case last =>
      intro c hc
      apply hcore.last
      rwa [← List.append_assoc, ← List.append_assoc, List.getLast?_append_of_ne_nil _ hne] at hc
  refine ⟨select, before ++ subquery.source.toList, ?_, ?_, ?_⟩
  · constructor
    case written => exact hwritten.trimChars_eq
    case last =>
      intro behind rest hbehind
      have hinfix := infix_separator_iff.mpr ⟨behind, rest, hbehind⟩
      exact hsubquery.clear ((infix_separator_of_padded hsource).mp hinfix)
    case select => exact hsubquery.select.not_blank hselect
    case source => exact hsubquery.source.not_blank hsource
  · exact (trimChars_eq_iff_padded_of_trimmed hsubquery.select.trimmed).mpr hselect
  · exact (trimChars_eq_iff_padded_of_trimmed hsubquery.source.trimmed).mpr hsource

end

/-- The annotations that are read are those that are made of two parts, and the parts are what is
read of them; any other is refused as it stands.  So a subquery is read of exactly the annotations
that spell it. -/
theorem annotations_exact
    (raw : String) :
    (∀ subquery, parse raw = .ok subquery ↔
        ∃ select source, MadeOf raw.toList select source ∧
          subquery = ⟨String.ofList (trimChars select), String.ofList (trimChars source)⟩) ∧
      (∀ fault, parse raw = .error fault ↔
        fault = .subquery raw ∧ ¬∃ select source, MadeOf raw.toList select source) ∧
      ∀ subquery, parse raw = .ok subquery ↔ Writable subquery ∧ Spells subquery raw := by
  refine ⟨fun _ => parse_eq_ok_iff, fun _ => parse_eq_error_iff, ?_⟩
  intro subquery
  rw [parse_eq_ok_iff]
  constructor
  · rintro ⟨select, source, hmade, rfl⟩
    exact ⟨hmade.writable, hmade.spells⟩
  · rintro ⟨hwritable, hspells⟩
    rcases hspells.madeOf hwritable with ⟨select, source, hmade, hselect, hsource⟩
    refine ⟨select, source, hmade, ?_⟩
    rw [hselect, hsource, String.ofList_toList, String.ofList_toList]

example :
    parse "\u2003select: f(a:b,from:c) ,from:\tUserEntity " = .ok ⟨"f(a:b,from:c)", "UserEntity"⟩ := by
  decide +kernel

end Subquery
end Criteria
