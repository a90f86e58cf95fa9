import Criteria.Proofs.Parentheses.Conditions
import Criteria.Proofs.Placeholders.Fragments

/-!
# Readings of conditions

Outside of parentheses a condition is cut at OR into alternatives and each of these at AND into
operands, for AND binds tighter.  What stands in parentheses belongs to an operand.  When several
conditions are written one after the other with AND between them, the last alternative of one runs
together with the first alternative of the next.

Connectives are known as joins write them, in capitals between single blanks.  A database reads a
condition in the same way if its connectives have no other form.
-/

namespace Criteria

open Text

/-!
# Reading
-/

namespace Fragment

def share : List Value -> List String -> List Fragment
  | _, [] => []
  | args, piece :: pieces =>
      ⟨piece, args.take (placeholders piece)⟩ :: share (args.drop (placeholders piece)) pieces

def cut (connective : Connective) (f : Fragment) : List Fragment :=
  share f.args (piecesOutside connective.separator f.sql)

/-- The alternatives of a condition, each with its operands. -/
def reading (f : Fragment) : List (List Fragment) :=
  (f.cut .or).map (cut .and)

/-- The condition lets a row through that meets all operands of an alternative; an empty condition
lets every row through. -/
def Admits (meets : Fragment -> Prop) (f : Fragment) : Prop :=
  f.sql = "" ∨ ∃ alternative ∈ f.reading, ∀ operand ∈ alternative, meets operand

/-!
# Reading what was joined
-/

def joined (connective : Connective) (fragments : List Fragment) : Fragment :=
  (Clauses.mk fragments).join connective.separator

theorem joined_singleton
    (connective : Connective) (f : Fragment) :
    joined connective [f] = f := by
  simp [joined, Clauses.join, joinWith]

theorem joined_cons
    (connective : Connective) (f : Fragment)
    {fragments : List Fragment}
    (h : fragments ≠ []) :
    joined connective (f :: fragments) =
      f ++ .text connective.separator ++ joined connective fragments := by
  cases fragments with
  | nil => exact absurd rfl h
  | cons next fragments =>
      show Fragment.mk _ (f.args ++ _) = Fragment.mk _ (f.args ++ [] ++ _)
      rw [List.append_nil]
      rfl

theorem joined_append
    (connective : Connective)
    {fragments others : List Fragment}
    (h : fragments ≠ [])
    (hothers : others ≠ []) :
    joined connective (fragments ++ others) =
      joined connective fragments ++ .text connective.separator ++ joined connective others := by
  induction fragments with
  | nil => exact absurd rfl h
  | cons f fragments ih =>
      cases fragments with
      | nil => rw [List.singleton_append, joined_singleton, joined_cons connective f hothers]
      | cons next fragments =>
          have hne : next :: fragments ≠ [] := List.cons_ne_nil next fragments
          have hall : next :: fragments ++ others ≠ [] := by simp
          rw [List.cons_append, joined_cons connective f hall, ih hne, joined_cons connective f hne]
          simp only [append_assoc]

theorem share_map
    {fragments : List Fragment}
    (h : ∀ f ∈ fragments, f.Paired) :
    share (fragments.flatMap args) (fragments.map sql) = fragments := by
  induction fragments with
  | nil => rfl
  | cons f fragments ih =>
      have hf : placeholders f.sql = f.args.length := h f List.mem_cons_self
      have hothers := ih fun other hother => h other (List.mem_cons_of_mem f hother)
      rw [List.flatMap_cons, List.map_cons, share, hf, List.take_left, List.drop_left, hothers]

theorem cut_joined
    {connective : Connective} {fragments : List Fragment}
    (hpassed : ∀ f ∈ fragments, Passed connective.separator.toList f.sql.toList)
    (hnonempty : ∀ f ∈ fragments, f.Nonempty)
    (hpaired : ∀ f ∈ fragments, f.Paired) :
    (joined connective fragments).cut connective = fragments := by
  have hpieces : piecesOutside connective.separator (joined connective fragments).sql =
      fragments.map sql :=
    Clauses.pieces_join_of_passed hpassed hnonempty
  rw [cut, hpieces]
  exact share_map hpaired

end Fragment

/-!
# Passing over joined operands
-/

theorem Fragment.Clear.nonempty
    {f : Fragment}
    (h : f.Clear) :
    f.Nonempty := by
  rcases h with ⟨name, tail, heq, _⟩
  intro hempty
  rw [hempty] at heq
  cases name <;> cases heq

theorem cutOutside_separator
    {connective : Connective} {cs : List Char}
    (hcs : Clear cs) :
    cutOutside connective.other.separator.toList 0 0 (connective.separator.toList ++ cs) =
      putFirst connective.separator.toList
        (cutOutside connective.other.separator.toList 0 0 cs) := by
  have hmark := connective.other.toList_separator
  have hblank : ∀ ds : List Char, ¬ connective.other.word.toList ++ [' '] <+: ds ->
      cutOutside connective.other.separator.toList 0 0 (' ' :: ds) =
        putFirst [' '] (cutOutside connective.other.separator.toList 0 0 ds) := by
    intro ds hds
    have hno : ¬(0 = 0 ∧ connective.other.separator.toList <+: ' ' :: ds) := by
      rintro ⟨_, hbegins⟩
      rw [hmark, List.cons_prefix_cons] at hbegins
      exact hds hbegins.right
    rw [cutOutside, if_neg hno]
    rfl
  have hword := cutOutside_sealed connective.other.separating connective.plainName_word.sealed
    (' ' :: cs)
  have hclear : ¬ connective.other.word.toList ++ [' '] <+: cs := by
    have hnot := hcs.not_connective connective.other []
    rwa [List.append_nil] at hnot
  have htext : connective.separator.toList ++ cs =
      ' ' :: (connective.word.toList ++ ' ' :: cs) := by
    rw [connective.toList_separator]
    simp
  rw [htext, hblank _ (connective.not_prefix_word _), hword, hblank cs hclear, putFirst_putFirst,
    putFirst_putFirst, connective.toList_separator]
  simp

theorem passed_joinChars
    {connective : Connective} {pieces : List (List Char)}
    (hne : pieces ≠ [])
    (hsealed : ∀ piece ∈ pieces, isSealed 0 piece = true)
    (hclear : ∀ piece ∈ pieces, Clear piece) :
    Passed connective.other.separator.toList (joinChars connective.separator.toList pieces) := by
  have hmark := connective.other.separating
  induction pieces with
  | nil => exact absurd rfl hne
  | cons piece pieces ih =>
      have hpiece := hsealed piece List.mem_cons_self
      cases pieces with
      | nil => exact cutOutside_sealed hmark hpiece
      | cons next pieces =>
          have hjoined : Clear (joinChars connective.separator.toList (next :: pieces)) :=
            (hclear next (by simp)).joinChars
          have hrest := ih (List.cons_ne_nil next pieces)
            (fun other hother => hsealed other (List.mem_cons_of_mem piece hother))
            (fun other hother => hclear other (List.mem_cons_of_mem piece hother))
          intro ds
          rw [joinChars, List.append_assoc, List.append_assoc, cutOutside_sealed hmark hpiece,
            cutOutside_separator (hjoined.append ds), hrest ds, putFirst_putFirst,
            putFirst_putFirst, List.append_assoc]

/-!
# Expressions
-/

abbrev Expression :=
  List (List Fragment)

/-- A fragment that is one operand wherever it stands. -/
structure Fragment.Operand (f : Fragment) : Prop where
  sealed : f.Sealed
  clear : f.Clear
  paired : f.Paired

theorem Fragment.Operand.nonempty
    {f : Fragment}
    (h : f.Operand) :
    f.Nonempty :=
  h.clear.nonempty

namespace Expression

/-- There is an alternative, and each alternative has an operand. -/
structure Proper (expression : Expression) : Prop where
  ne_nil : expression ≠ []
  alternative : ∀ operands ∈ expression, operands ≠ []
  operand : ∀ operands ∈ expression, ∀ f ∈ operands, f.Operand

def written (expression : Expression) : Fragment :=
  Fragment.joined .or (expression.map (Fragment.joined .and))

def Holds (meets : Fragment -> Prop) (expression : Expression) : Prop :=
  ∃ alternative ∈ expression, ∀ operand ∈ alternative, meets operand

section

variable {operands : List Fragment}

theorem paired_joined
    (h : ∀ f ∈ operands, f.Paired)
    (connective : Connective) :
    (Fragment.joined connective operands).Paired :=
  Clauses.paired_join h (Clauses.placeholders_separator connective)

theorem clear_joined
    (hne : operands ≠ [])
    (h : ∀ f ∈ operands, f.Clear)
    (connective : Connective) :
    (Fragment.joined connective operands).Clear := by
  rcases List.exists_cons_of_ne_nil hne with ⟨first, others, heq⟩
  unfold Fragment.Clear Fragment.joined
  rw [Clauses.toList_join, heq]
  exact Clear.joinChars (h first (by simp [heq]))

theorem passed_joined
    (hne : operands ≠ [])
    (h : ∀ f ∈ operands, f.Operand) :
    Passed Connective.or.separator.toList (Fragment.joined .and operands).sql.toList := by
  unfold Fragment.joined
  rw [Clauses.toList_join]
  show Passed Connective.and.other.separator.toList _
  refine passed_joinChars (by simpa using hne) ?_ ?_
  · intro piece hpiece
    rcases List.mem_map.mp hpiece with ⟨f, hf, heq⟩
    rw [← heq]
    exact (h f hf).sealed
  · intro piece hpiece
    rcases List.mem_map.mp hpiece with ⟨f, hf, heq⟩
    rw [← heq]
    exact (h f hf).clear

theorem cut_joined
    (h : ∀ f ∈ operands, f.Operand) :
    (Fragment.joined .and operands).cut .and = operands :=
  Fragment.cut_joined
    (fun f hf => cutOutside_sealed Connective.and.separating (h f hf).sealed)
    (fun f hf => (h f hf).nonempty)
    (fun f hf => (h f hf).paired)

end

variable {expression : Expression}

theorem reading_written
    (h : expression.Proper) :
    expression.written.reading = expression := by
  have halternatives : expression.written.cut .or = expression.map (Fragment.joined .and) := by
    refine Fragment.cut_joined ?_ ?_ ?_
    · intro f hf
      rcases List.mem_map.mp hf with ⟨operands, hoperands, heq⟩
      rw [← heq]
      exact passed_joined (h.alternative operands hoperands) (h.operand operands hoperands)
    · intro f hf
      rcases List.mem_map.mp hf with ⟨operands, hoperands, heq⟩
      rw [← heq]
      exact Clauses.nonempty_join (h.alternative operands hoperands)
        (fun f hf => (h.operand operands hoperands f hf).nonempty) _
    · intro f hf
      rcases List.mem_map.mp hf with ⟨operands, hoperands, heq⟩
      rw [← heq]
      exact paired_joined (fun f hf => (h.operand operands hoperands f hf).paired) .and
  rw [Fragment.reading, halternatives, List.map_map]
  have hcuts : ∀ operands ∈ expression,
      (Fragment.cut .and ∘ Fragment.joined .and) operands = operands :=
    fun operands hoperands => cut_joined (h.operand operands hoperands)
  rw [List.map_congr_left hcuts, List.map_id']

theorem clear_written
    (h : expression.Proper) :
    expression.written.Clear := by
  refine clear_joined (by simpa using h.ne_nil) ?_ .or
  intro f hf
  rcases List.mem_map.mp hf with ⟨operands, hoperands, heq⟩
  rw [← heq]
  exact clear_joined (h.alternative operands hoperands)
    (fun f hf => (h.operand operands hoperands f hf).clear) .and

theorem paired_written
    (h : expression.Proper) :
    expression.written.Paired := by
  refine paired_joined ?_ .or
  intro f hf
  rcases List.mem_map.mp hf with ⟨operands, hoperands, heq⟩
  rw [← heq]
  exact paired_joined (fun f hf => (h.operand operands hoperands f hf).paired) .and

theorem nonempty_written
    (h : expression.Proper) :
    expression.written.Nonempty :=
  (clear_written h).nonempty

theorem balanced_joined
    {fragments : List Fragment}
    (h : ∀ f ∈ fragments, f.Balanced)
    (connective : Connective) :
    (Fragment.joined connective fragments).Balanced := by
  unfold Fragment.Balanced Fragment.joined
  rw [Clauses.toList_join]
  refine balanced_joinChars (by cases connective <;> decide) ?_
  intro piece hpiece
  rcases List.mem_map.mp hpiece with ⟨f, hf, heq⟩
  rw [← heq]
  exact h f hf

theorem balanced_written
    (h : expression.Proper) :
    expression.written.Balanced := by
  refine balanced_joined ?_ .or
  intro f hf
  rcases List.mem_map.mp hf with ⟨operands, hoperands, heq⟩
  rw [← heq]
  exact balanced_joined (fun f hf => (h.operand operands hoperands f hf).sealed.balanced) .and

theorem admits_written
    (h : expression.Proper)
    (meets : Fragment -> Prop) :
    expression.written.Admits meets ↔ expression.Holds meets := by
  unfold Fragment.Admits
  rw [reading_written h]
  exact or_iff_right (nonempty_written h)

theorem proper_operand
    {f : Fragment}
    (h : f.Operand) :
    Proper [[f]] := by
  constructor
  · exact List.cons_ne_nil _ _
  · intro operands hoperands
    rw [List.mem_singleton.mp hoperands]
    exact List.cons_ne_nil _ _
  · intro operands hoperands g hg
    rw [List.mem_singleton.mp hoperands] at hg
    rwa [List.mem_singleton.mp hg]

theorem written_operand
    (f : Fragment) :
    written [[f]] = f := by
  show Fragment.joined .or [Fragment.joined .and [f]] = f
  rw [Fragment.joined_singleton, Fragment.joined_singleton]

/-!
# Expressions one after the other
-/

/-- With AND between two expressions, the last alternative of the first and the first alternative of
the second are one. -/
def andThen : Expression -> Expression -> Expression
  | [], later => later
  | [last], [] => [last]
  | [last], first :: later => (last ++ first) :: later
  | alternative :: next :: earlier, later => alternative :: andThen (next :: earlier) later

def sequence : List Expression -> Expression
  | [] => []
  | [expression] => expression
  | expression :: next :: expressions => expression.andThen (sequence (next :: expressions))

variable {other : Expression}

theorem proper_cons
    {operands : List Fragment}
    (hne : operands ≠ [])
    (hoperands : ∀ f ∈ operands, f.Operand)
    (h : ∀ others ∈ expression, others ≠ [] ∧ ∀ f ∈ others, f.Operand) :
    Proper (operands :: expression) := by
  constructor
  · exact List.cons_ne_nil operands expression
  · intro others hothers
    rcases List.mem_cons.mp hothers with hself | hlater
    · rwa [hself]
    · exact (h others hlater).left
  · intro others hothers
    rcases List.mem_cons.mp hothers with hself | hlater
    · rwa [hself]
    · exact (h others hlater).right

theorem Proper.each
    (h : expression.Proper) :
    ∀ operands ∈ expression, operands ≠ [] ∧ ∀ f ∈ operands, f.Operand :=
  fun operands hoperands => ⟨h.alternative operands hoperands, h.operand operands hoperands⟩

theorem Proper.later
    {operands next : List Fragment}
    (h : Proper (operands :: next :: expression)) :
    Proper (next :: expression) := by
  have hnext := h.each next (List.mem_cons_of_mem operands List.mem_cons_self)
  refine proper_cons hnext.left hnext.right ?_
  intro others hothers
  exact h.each others (List.mem_cons_of_mem operands (List.mem_cons_of_mem next hothers))

theorem Proper.andThen
    (h : expression.Proper)
    (hother : other.Proper) :
    (expression.andThen other).Proper := by
  induction expression with
  | nil => exact absurd rfl h.ne_nil
  | cons operands expression ih =>
      have hoperands := h.each operands List.mem_cons_self
      cases expression with
      | nil =>
          cases other with
          | nil => exact absurd rfl hother.ne_nil
          | cons first later =>
              have hfirst := hother.each first List.mem_cons_self
              refine proper_cons (by simp [hoperands.left]) ?_ ?_
              · intro f hf
                rcases List.mem_append.mp hf with hin | hin
                · exact hoperands.right f hin
                · exact hfirst.right f hin
              · intro others hothers
                exact hother.each others (List.mem_cons_of_mem first hothers)
      | cons next expression =>
          have hlater := h.later
          exact proper_cons hoperands.left hoperands.right (ih hlater).each

theorem written_cons
    {operands : List Fragment}
    (h : expression ≠ []) :
    written (operands :: expression) =
      Fragment.joined .and operands ++ .text Connective.or.separator ++ expression.written :=
  Fragment.joined_cons .or _ (by simpa using h)

theorem written_singleton
    (operands : List Fragment) :
    written [operands] = Fragment.joined .and operands :=
  Fragment.joined_singleton .or _

theorem written_andThen
    (h : expression.Proper)
    (hother : other.Proper) :
    (expression.andThen other).written =
      expression.written ++ .text Connective.and.separator ++ other.written := by
  induction expression with
  | nil => exact absurd rfl h.ne_nil
  | cons operands expression ih =>
      have hoperands := h.each operands List.mem_cons_self
      cases expression with
      | nil =>
          cases other with
          | nil => exact absurd rfl hother.ne_nil
          | cons first later =>
              have hfirst := hother.each first List.mem_cons_self
              show written ((operands ++ first) :: later) = _
              have hjoin := Fragment.joined_append .and hoperands.left hfirst.left
              cases later with
              | nil => rw [written_singleton, written_singleton, written_singleton, hjoin]
              | cons second later =>
                  have hne : second :: later ≠ [] := List.cons_ne_nil second later
                  rw [written_cons hne, written_cons hne, written_singleton, hjoin]
                  simp only [Fragment.append_assoc]
      | cons next expression =>
          have hlater := h.later
          show written (operands :: Expression.andThen (next :: expression) other) = _
          rw [written_cons (hlater.andThen hother).ne_nil, written_cons hlater.ne_nil, ih hlater]
          simp only [Fragment.append_assoc]

section

variable {expressions : List Expression}

theorem proper_sequence
    (hne : expressions ≠ [])
    (h : ∀ expression ∈ expressions, expression.Proper) :
    (sequence expressions).Proper := by
  induction expressions with
  | nil => exact absurd rfl hne
  | cons expression expressions ih =>
      have hfirst := h expression List.mem_cons_self
      cases expressions with
      | nil => exact hfirst
      | cons next expressions =>
          exact hfirst.andThen (ih (List.cons_ne_nil next expressions)
            fun other hother => h other (List.mem_cons_of_mem expression hother))

theorem written_sequence
    (hne : expressions ≠ [])
    (h : ∀ expression ∈ expressions, expression.Proper) :
    (sequence expressions).written = Fragment.joined .and (expressions.map written) := by
  induction expressions with
  | nil => exact absurd rfl hne
  | cons expression expressions ih =>
      have hfirst := h expression List.mem_cons_self
      cases expressions with
      | nil => exact (Fragment.joined_singleton .and _).symm
      | cons next expressions =>
          have hne' : next :: expressions ≠ [] := List.cons_ne_nil next expressions
          have hothers : ∀ other ∈ next :: expressions, other.Proper :=
            fun other hother => h other (List.mem_cons_of_mem expression hother)
          show (expression.andThen (sequence (next :: expressions))).written = _
          rw [written_andThen hfirst (proper_sequence hne' hothers), ih hne' hothers]
          exact (Fragment.joined_cons .and _ (by simp)).symm

theorem holds_sequence
    (hne : expressions ≠ [])
    (h : ∀ expression ∈ expressions, expression.length = 1)
    (meets : Fragment -> Prop) :
    (sequence expressions).length = 1 ∧
      ((sequence expressions).Holds meets ↔ ∀ expression ∈ expressions, expression.Holds meets) := by
  induction expressions with
  | nil => exact absurd rfl hne
  | cons expression expressions ih =>
      have hfirst := h expression List.mem_cons_self
      cases expressions with
      | nil => exact ⟨hfirst, by simp [sequence]⟩
      | cons next expressions =>
          rcases ih (List.cons_ne_nil next expressions)
            fun other hother => h other (List.mem_cons_of_mem expression hother) with
            ⟨hlength, hholds⟩
          rcases List.length_eq_one_iff.mp hfirst with ⟨operands, heq⟩
          rcases List.length_eq_one_iff.mp hlength with ⟨others, hothers⟩
          have hsequence : sequence (expression :: next :: expressions) = [operands ++ others] := by
            show expression.andThen (sequence (next :: expressions)) = _
            rw [hothers, heq]
            rfl
          rw [hsequence]
          refine ⟨rfl, ?_⟩
          rw [List.forall_mem_cons, ← hholds, hothers, heq]
          simp [Holds, or_imp, forall_and]

end

end Expression
end Criteria
