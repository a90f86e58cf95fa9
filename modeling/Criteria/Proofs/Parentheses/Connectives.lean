import Criteria.Proofs.Compilation.Groups
import Criteria.Proofs.Compilation.Operations
import Criteria.Proofs.Parentheses.Clauses

/-!
# Connectives at one level

The condition of a query and the inside of every group can be cut at their own connective, and the
pieces are the conditions that were joined.  Where no column is spelled as a connective, the other
connective does not stand at the same level.
-/

namespace Criteria

open Text

namespace Connective

def other : Connective -> Connective
  | .or => .and
  | .and => .or

def word : Connective -> String
  | .or => "OR"
  | .and => "AND"

theorem toList_separator
    (connective : Connective) :
    connective.separator.toList = ' ' :: (connective.word.toList ++ [' ']) := by
  cases connective <;>
    rfl

theorem plainName_word
    (connective : Connective) :
    PlainName connective.word := by
  cases connective <;>
    decide

theorem not_prefix_word
    (connective : Connective) (cs : List Char) :
    ¬ connective.other.word.toList ++ [' '] <+: connective.word.toList ++ cs := by
  intro h
  cases connective with
  | or =>
      have hhead := (List.cons_prefix_cons.mp h).left
      exact absurd hhead (by decide)
  | and =>
      have hhead := (List.cons_prefix_cons.mp h).left
      exact absurd hhead (by decide)

end Connective

/-!
# Texts that begin with a word of their own
-/

/-- The text begins with a word, up to a blank, that is no connective. -/
def Clear (cs : List Char) : Prop :=
  ∃ name tail : List Char, cs = name ++ ' ' :: tail ∧ ' ' ∉ name ∧
    ∀ connective : Connective, name ≠ connective.word.toList

theorem takeWhile_before_blank
    {name : List Char}
    (hname : ' ' ∉ name)
    (tail : List Char) :
    (name ++ ' ' :: tail).takeWhile (· != ' ') = name := by
  induction name with
  | nil => rfl
  | cons c name ih =>
      have hc : c ≠ ' ' := fun h => hname (by simp [h])
      have hrest : ' ' ∉ name := fun h => hname (List.mem_cons_of_mem c h)
      rw [List.cons_append, List.takeWhile_cons_of_pos (by simpa using hc), ih hrest]

theorem Clear.not_connective
    {cs : List Char}
    (h : Clear cs)
    (connective : Connective) (ds : List Char) :
    ¬ connective.word.toList ++ [' '] <+: cs ++ ds := by
  rcases h with ⟨name, tail, heq, hname, hclear⟩
  rintro ⟨after, hafter⟩
  have hword : ' ' ∉ connective.word.toList :=
    fun hblank => (connective.plainName_word ' ' hblank).left rfl
  have hsame : name ++ ' ' :: (tail ++ ds) = connective.word.toList ++ ' ' :: after := by
    rw [heq] at hafter
    simpa using hafter.symm
  have hfirst := congrArg (List.takeWhile (· != ' ')) hsame
  rw [takeWhile_before_blank hname, takeWhile_before_blank hword] at hfirst
  exact hclear connective hfirst

theorem Clear.append
    {cs : List Char}
    (h : Clear cs)
    (ds : List Char) :
    Clear (cs ++ ds) := by
  rcases h with ⟨name, tail, heq, hname, hclear⟩
  exact ⟨name, tail ++ ds, by simp [heq], hname, hclear⟩

theorem Clear.parenthesized
    {cs : List Char}
    (h : Clear cs) :
    Clear ('(' :: cs ++ [')']) := by
  rcases h with ⟨name, tail, heq, hname, _⟩
  refine ⟨'(' :: name, tail ++ [')'], by simp [heq], ?_, ?_⟩
  · intro hblank
    rcases List.mem_cons.mp hblank with hopen | hin
    · exact absurd hopen (by decide)
    · exact hname hin
  · intro connective hword
    have hopen : '(' ∈ connective.word.toList := hword ▸ List.mem_cons_self
    exact (connective.plainName_word '(' hopen).right.left rfl

theorem Clear.joinChars
    {separator : List Char} {piece : List Char} {pieces : List (List Char)}
    (h : Clear piece) :
    Clear (joinChars separator (piece :: pieces)) := by
  cases pieces with
  | nil => exact h
  | cons next pieces =>
      rw [Text.joinChars, List.append_assoc]
      exact h.append _

theorem outsideFrom_of_separator
    {connective : Connective} {cs : List Char}
    (hcs : Clear cs)
    (h : OutsideFrom 0 connective.other.separator.toList (connective.separator.toList ++ cs)) :
    OutsideFrom 0 connective.other.separator.toList cs := by
  have hmark := connective.other.toList_separator
  have hafter : OutsideFrom 0 (' ' :: (connective.other.word.toList ++ [' ']))
      (' ' :: (connective.word.toList ++ (' ' :: cs))) := by
    rw [hmark, connective.toList_separator] at h
    simpa using h
  rcases outsideFrom_blank hafter with hword | hwithin
  · exact absurd hword (connective.not_prefix_word _)
  · rw [← hmark] at hwithin
    have hblank := outsideFrom_of_sealed connective.other.separating
      connective.plainName_word.sealed hwithin
    rw [hmark] at hblank ⊢
    rcases outsideFrom_blank hblank with hnext | hlater
    · exact absurd (by simpa using hnext) (hcs.not_connective connective.other [])
    · exact hlater

theorem not_outside_joinChars
    {connective : Connective} {pieces : List (List Char)}
    (hsealed : ∀ piece ∈ pieces, isSealed 0 piece = true)
    (hclear : ∀ piece ∈ pieces, Clear piece) :
    ¬ OutsideFrom 0 connective.other.separator.toList
      (joinChars connective.separator.toList pieces) := by
  have hmark := connective.other.separating
  have hempty : ¬ OutsideFrom 0 connective.other.separator.toList [] := by
    rintro ⟨before, after, heq, _⟩
    rcases hmark with ⟨head, tail, hseparator, _⟩
    rw [hseparator] at heq
    simp at heq
  induction pieces with
  | nil => exact hempty
  | cons piece pieces ih =>
      intro h
      have hpiece := hsealed piece List.mem_cons_self
      cases pieces with
      | nil =>
          rw [joinChars, ← List.append_nil piece] at h
          exact hempty (outsideFrom_of_sealed hmark hpiece h)
      | cons next pieces =>
          rw [joinChars, List.append_assoc] at h
          have hjoined : Clear (joinChars connective.separator.toList (next :: pieces)) :=
            (hclear next (by simp)).joinChars
          refine ih (fun other hother => hsealed other (List.mem_cons_of_mem piece hother))
            (fun other hother => hclear other (List.mem_cons_of_mem piece hother)) ?_
          exact outsideFrom_of_separator hjoined (outsideFrom_of_sealed hmark hpiece h)

/-!
# Clauses that begin with a column
-/

def Step.heads : Step -> List String
  | .compare column _ => [column]
  | .group _ .values column _ => [column]
  | .subquery column _ _ _ => [column]
  | .path route => [route.head]
  | _ => []

def Step.NoConnective (step : Step) : Prop :=
  ∀ column ∈ step.heads, column ≠ "AND" ∧ column ≠ "OR"

instance : DecidablePred Step.NoConnective :=
  fun step => inferInstanceAs (Decidable (∀ column ∈ step.heads, column ≠ "AND" ∧ column ≠ "OR"))

def Fragment.Clear (f : Fragment) : Prop :=
  Criteria.Clear f.sql.toList

theorem clear_of_column
    {column : String} {tail : List Char}
    (hplain : PlainName column)
    (hcolumn : column ≠ "AND" ∧ column ≠ "OR") :
    Clear (column.toList ++ ' ' :: tail) := by
  refine ⟨column.toList, tail, rfl, ?_, ?_⟩
  · intro hblank
    exact (hplain ' ' hblank).left rfl
  · intro connective hword
    have hsame := String.toList_inj.mp hword
    cases connective with
    | or => exact hcolumn.right hsame
    | and => exact hcolumn.left hsame

namespace Operator

theorem tail_of_operand?
    {operator : Operator} {value : Value} {operand : Fragment}
    (h : operand ∈ operator.operand? value) :
    ∃ rest, operator.tail operand = ' ' :: rest := by
  rcases operand?_cases h with ⟨hnull, hoperand⟩ | ⟨hother, _⟩
  · rw [hnull]
    rcases hoperand with hisNull | hisNot
    · rw [hisNull]
      exact ⟨_, rfl⟩
    · rw [hisNot]
      exact ⟨_, rfl⟩
  · unfold tail
    split
    · exact absurd rfl hother
    · exact ⟨_, rfl⟩

variable {column : String}

theorem clear_condition?
    (operator : Operator)
    (hplain : PlainName column)
    (hcolumn : column ≠ "AND" ∧ column ≠ "OR")
    (value : Value) :
    ∀ fragment ∈ operator.condition? column value, fragment.Clear := by
  intro fragment hfragment
  rcases Option.map_eq_some_iff.mp hfragment with ⟨operand, hoperand, heq⟩
  rcases tail_of_operand? hoperand with ⟨rest, htail⟩
  rw [← heq, Fragment.Clear, toList_attach, htail]
  exact clear_of_column hplain hcolumn

theorem clear_listCondition?
    (operator : Operator)
    (hplain : PlainName column)
    (hcolumn : column ≠ "AND" ∧ column ≠ "OR")
    (values : List Value) :
    ∀ fragment ∈ operator.listCondition? column values, fragment.Clear := by
  intro fragment hfragment
  unfold listCondition? at hfragment
  split at hfragment
  next htakes =>
    cases hfragment
    have htail : ∃ rest, operator.tail (listOperand values) = ' ' :: rest := by
      cases operator <;>
        first
          | exact ⟨_, rfl⟩
          | cases htakes
    rcases htail with ⟨rest, htail⟩
    rw [Fragment.Clear, toList_attach, htail]
    exact clear_of_column hplain hcolumn
  next =>
    split at hfragment
    next value => exact operator.clear_condition? hplain hcolumn value fragment hfragment
    next => cases hfragment

end Operator

theorem clear_subqueryClause
    {column : String} {operator : Operator} {select table : String} {filter : Fragment}
    (hplain : PlainName column)
    (hcolumn : column ≠ "AND" ∧ column ≠ "OR") :
    (Session.subqueryClause column operator select table filter).Clear := by
  have htext : (Session.subqueryClause column operator select table filter).sql.toList =
      column.toList ++ ' ' :: (operator.sign.toList ++ " (SELECT ".toList ++ select.toList ++
        " FROM ".toList ++ table.toList ++ filter.asWhere.sql.toList ++ [')']) := by
    simp [Session.subqueryClause, Fragment.text]
  rw [Fragment.Clear, htext]
  exact clear_of_column hplain hcolumn

theorem clear_compile
    {path : Path} {filters : Filters}
    (hplain : PlainName path.head)
    (hhead : path.head ≠ "AND" ∧ path.head ≠ "OR") :
    (path.compile filters).Clear := by
  have htext : (path.compile filters).sql.toList = path.head.toList ++
      ' ' :: ("IN (".toList ++ (path.selected filters).sql.toList ++ [')']) := by
    rw [Path.compile_eq_selected]
    simp [Fragment.text]
  rw [Fragment.Clear, htext]
  exact clear_of_column hplain hhead

theorem Clauses.clear_group
    {members : Clauses} {connective : Connective}
    (hne : members.parts ≠ [])
    (h : members.All Fragment.Clear) :
    (members.group connective.separator).Clear := by
  rcases members.group_cases hne connective.separator with ⟨member, hparts, hgroup⟩ | ⟨_, hgroup⟩
  · rw [hgroup]
    exact h member (by simp [hparts])
  · rcases List.exists_cons_of_ne_nil hne with ⟨member, others, hparts⟩
    have hjoined : Criteria.Clear (members.join connective.separator).sql.toList := by
      rw [Clauses.toList_join, hparts]
      exact Clear.joinChars (h member (by simp [hparts]))
    rw [hgroup, Fragment.Clear, Fragment.toList_parenthesized]
    exact hjoined.parenthesized

theorem handsOn_clear :
    HandsOn (fun step => step.Plain ∧ step.NoConnective) Fragment.Clear where
  compare h := Clauses.all_ofCondition?
    (Operator.clear_condition? _ h.left (h.right _ List.mem_cons_self) _)
  template h := h.left.elim
  list h := Clauses.all_ofCondition?
    (Operator.clear_listCondition? _ h.left (h.right _ List.mem_cons_self) _)
  values h := Clauses.all_ofValues fun value _ =>
    Operator.clear_condition? _ h.left (h.right _ List.mem_cons_self) value
  group hne h := Clauses.clear_group hne h
  subquery h _ := clear_subqueryClause h.left.left (h.right _ List.mem_cons_self)
  path h _ := clear_compile h.left.head (h.right _ List.mem_cons_self)

end Criteria
