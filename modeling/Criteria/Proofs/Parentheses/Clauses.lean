import Criteria.Proofs.Compilation.Clauses
import Criteria.Proofs.Compilation.Selections
import Criteria.Proofs.Naming.Planned
import Criteria.Proofs.Parentheses.Outside

/-!
# Sealed clauses

Every clause of a query is sealed, if the columns, tables and keys of its plans are plain names and
its subqueries select balanced expressions.  Only templates of conditions are left out, as they are
taken over as they stand.
-/

namespace Criteria

open Text

def PlainChar (c : Char) : Prop :=
  c ≠ ' ' ∧ c ≠ '(' ∧ c ≠ ')'

instance : DecidablePred PlainChar :=
  fun c => inferInstanceAs (Decidable (c ≠ ' ' ∧ c ≠ '(' ∧ c ≠ ')'))

abbrev PlainName (name : String) : Prop :=
  WrittenIn PlainChar name

structure Path.Plain (path : Path) : Prop where
  tables : ∀ stop ∈ path.stops, PlainName stop.table
  links : ∀ hop ∈ path.hops, hop.link.WrittenIn PlainChar

def Step.Plain : Step -> Prop
  | .compare column _ => PlainName column
  | .group _ _ column _ => PlainName column
  | .condition _ => False
  | .subquery column _ select table =>
      PlainName column ∧ Balanced select.toList ∧ PlainName table
  | .path route => route.Plain
  | .skip => True
  | .flatten => True

instance : DecidablePred Path.Plain :=
  fun path => decidable_of_iff
    ((∀ stop ∈ path.stops, PlainName stop.table) ∧
      ∀ hop ∈ path.hops, hop.link.WrittenIn PlainChar)
    ⟨fun h => ⟨h.left, h.right⟩, fun h => ⟨h.tables, h.links⟩⟩

instance : DecidablePred Step.Plain
  | .compare column _ => inferInstanceAs (Decidable (PlainName column))
  | .group _ _ column _ => inferInstanceAs (Decidable (PlainName column))
  | .condition _ => isFalse id
  | .subquery column _ select table => inferInstanceAs
      (Decidable (PlainName column ∧ Balanced select.toList ∧ PlainName table))
  | .path route => inferInstanceAs (Decidable route.Plain)
  | .skip => isTrue trivial
  | .flatten => isTrue trivial

/-!
# Fragments
-/

theorem PlainName.sealed
    {name : String}
    (h : PlainName name) :
    isSealed 0 name.toList = true := by
  have hall : ∀ {cs : List Char}, (∀ c ∈ cs, PlainChar c) -> isSealed 0 cs = true := by
    intro cs
    induction cs with
    | nil =>
        intro _
        rfl
    | cons c cs ih =>
        intro hcs
        rcases hcs c List.mem_cons_self with ⟨hblank, hopen, hclose⟩
        refine isSealed_cons.mpr ⟨?_, 0, ?_, ih fun d hd => hcs d (List.mem_cons_of_mem c hd)⟩
        · intro _ hc
          exact absurd hc hblank
        · rw [deeper?, if_neg hopen, if_neg hclose]
  exact hall h

theorem PlainName.balanced
    {name : String}
    (h : PlainName name) :
    Balanced name.toList :=
  nesting_of_isSealed h.sealed

namespace Fragment

def Sealed (f : Fragment) : Prop :=
  isSealed 0 f.sql.toList = true

def Balanced (f : Fragment) : Prop :=
  Text.Balanced f.sql.toList

variable {f g : Fragment}

theorem Sealed.balanced
    (h : f.Sealed) :
    f.Balanced :=
  nesting_of_isSealed h

theorem balanced_text
    {sql : String}
    (h : Text.Balanced sql.toList) :
    (text sql).Balanced :=
  h

theorem Balanced.append
    (hf : f.Balanced)
    (hg : g.Balanced) :
    (f ++ g).Balanced := by
  unfold Balanced
  rw [sql_append, String.toList_append]
  exact Text.Balanced.append hf hg

theorem toList_parenthesized
    (inner : Fragment) :
    (text "(" ++ inner ++ text ")").sql.toList = '(' :: inner.sql.toList ++ [')'] := by
  simp [text]

theorem toList_enclosed
    (before : String) (inner : Fragment) :
    (text (before ++ "(") ++ inner ++ text ")").sql.toList =
      before.toList ++ ('(' :: inner.sql.toList ++ [')']) := by
  simp [text]

theorem Balanced.enclosed
    {before : String}
    (hbefore : Text.Balanced before.toList)
    (h : f.Balanced) :
    (text (before ++ "(") ++ f ++ text ")").Balanced := by
  unfold Balanced
  rw [toList_enclosed]
  exact hbefore.append (Text.Balanced.enclose h)

theorem Balanced.sealed_enclosed
    {before : String}
    (hbefore : isSealed 0 before.toList = true)
    (h : f.Balanced) :
    (text (before ++ " " ++ "(") ++ f ++ text ")").Sealed := by
  unfold Sealed
  rw [toList_enclosed, String.toList_append, List.append_assoc]
  refine isSealed_append hbefore (isSealed_cons.mpr ⟨fun _ _ => rfl, 0, rfl, ?_⟩)
  exact isSealed_enclose h

end Fragment

/-!
# Operators
-/

namespace Operator

def tail (operator : Operator) (operand : Fragment) : List Char :=
  match operator with
  | .null => operand.sql.toList
  | _ => ' ' :: operator.sign.toList ++ ' ' :: operand.sql.toList

theorem toList_attach
    (operator : Operator) (column : String) (operand : Fragment) :
    (operator.attach column operand).sql.toList =
      column.toList ++ operator.tail operand := by
  cases operator <;>
    simp [attach, tail, Fragment.text]

theorem sealed_sign
    (operator : Operator) :
    isSealed 0 (' ' :: operator.sign.toList) = true := by
  cases operator <;>
    decide

theorem sealed_tail
    (operator : Operator)
    {operand : Fragment}
    (hnull : operator = .null -> operand.Sealed)
    (hother : operator ≠ .null -> isSealed 0 (' ' :: operand.sql.toList) = true) :
    isSealed 0 (operator.tail operand) = true := by
  by_cases h : operator = .null
  · rw [h]
    exact hnull h
  · have htail : operator.tail operand =
        (' ' :: operator.sign.toList) ++ (' ' :: operand.sql.toList) := by
      unfold tail
      split
      · exact absurd rfl h
      · rfl
    rw [htail]
    exact isSealed_append operator.sealed_sign (hother h)

theorem sealed_patternOperand
    (position : Pattern.Position) (text : String) :
    isSealed 0 (' ' :: (patternOperand position text).sql.toList) = true := by
  unfold patternOperand
  by_cases hescape : Pattern.needsEscape text.toList
  · simp only [if_pos hescape]
    decide
  · simp only [if_neg hescape]
    decide

theorem balanced_marks
    (count : Nat) :
    Balanced (joinWith ", " (List.replicate count "?")).toList := by
  rw [joinWith_toList, List.map_replicate]
  refine balanced_joinChars (by decide) ?_
  intro piece hpiece
  rw [List.eq_of_mem_replicate hpiece]
  decide

theorem sealed_listOperand
    (values : List Value) :
    isSealed 0 (' ' :: (listOperand values).sql.toList) = true := by
  cases values with
  | nil => decide
  | cons value values =>
      have hmarks : (listOperand (value :: values)).sql.toList =
          '(' :: (joinWith ", " (List.replicate (value :: values).length "?")).toList ++
            [')'] := by
        simp [listOperand, Fragment.boundGroup, Fragment.markGroup]
      rw [hmarks]
      refine isSealed_cons.mpr ⟨fun _ _ => rfl, 0, rfl, ?_⟩
      exact isSealed_enclose (balanced_marks _)

theorem sealed_operand?
    {operator : Operator} {value : Value} {operand : Fragment}
    (h : operand ∈ operator.operand? value) :
    isSealed 0 (operator.tail operand) = true := by
  rcases operand?_cases h with ⟨hoperator, hoperand⟩ | ⟨hoperator, hoperand⟩
  · refine sealed_tail operator (fun _ => ?_) fun hother => absurd hoperator hother
    rcases hoperand with hnull | hnot
    · rw [hnull]
      show isSealed 0 " IS NULL".toList = true
      decide
    · rw [hnot]
      show isSealed 0 " IS NOT NULL".toList = true
      decide
  · refine sealed_tail operator (fun hnull => absurd hnull hoperator) fun _ => ?_
    rcases hoperand with hlist | hbound | ⟨position, text, hpattern⟩
    · rw [hlist]
      exact sealed_listOperand [value]
    · rw [hbound]
      show isSealed 0 (' ' :: "?".toList) = true
      decide
    · rw [hpattern]
      exact sealed_patternOperand position text

theorem sealed_attach
    {operator : Operator} {column : String} {operand : Fragment}
    (hcolumn : PlainName column)
    (h : isSealed 0 (operator.tail operand) = true) :
    (operator.attach column operand).Sealed := by
  unfold Fragment.Sealed
  rw [toList_attach]
  exact isSealed_append hcolumn.sealed h

theorem sealed_condition?
    (operator : Operator)
    {column : String}
    (hcolumn : PlainName column)
    (value : Value) :
    ∀ fragment ∈ operator.condition? column value, fragment.Sealed := by
  intro fragment hfragment
  rcases Option.map_eq_some_iff.mp hfragment with ⟨operand, hoperand, heq⟩
  rw [← heq]
  exact sealed_attach hcolumn (sealed_operand? hoperand)

theorem sealed_listCondition?
    (operator : Operator)
    {column : String}
    (hcolumn : PlainName column)
    (values : List Value) :
    ∀ fragment ∈ operator.listCondition? column values, fragment.Sealed := by
  intro fragment hfragment
  unfold listCondition? at hfragment
  split at hfragment
  next htakes =>
    cases hfragment
    refine sealed_attach hcolumn (sealed_tail operator ?_ fun _ => sealed_listOperand values)
    intro hnull
    rw [hnull] at htakes
    cases htakes
  next =>
    split at hfragment
    next value => exact operator.sealed_condition? hcolumn value fragment hfragment
    next => cases hfragment

end Operator

/-!
# Subqueries and paths
-/

theorem balanced_selectFrom
    {column table : String}
    (hcolumn : Balanced column.toList)
    (htable : Balanced table.toList) :
    (selectFrom column table).Balanced := by
  refine Fragment.balanced_text ?_
  simp only [String.toList_append]
  exact ((Balanced.append (by decide) hcolumn).append (by decide)).append htable

theorem selects_balanced_of_clear
    {p : Char -> Prop}
    (hp : ∀ {c : Char}, p c -> c ≠ '(' ∧ c ≠ ')')
    (hidentity : WrittenIn p identityColumn) :
    Selects p Fragment.Balanced where
  identity := hidentity
  empty := rfl
  append hf hg := hf.append hg
  whereText := Fragment.balanced_text (by decide)
  intersect := Fragment.balanced_text (by decide)
  selectFrom hcolumn htable :=
    balanced_selectFrom (balanced_of_clear fun c hc => hp (hcolumn c hc))
      (balanced_of_clear fun c hc => hp (htable c hc))
  membership {column f} hcolumn hf := by
    have hopening : column ++ " IN (" = column ++ " IN " ++ "(" := by
      rw [String.append_assoc]
      rfl
    have hbefore : Balanced (column ++ " IN ").toList := by
      rw [String.toList_append]
      exact (balanced_of_clear fun c hc => hp (hcolumn c hc)).append (by decide)
    rw [hopening]
    exact hf.enclosed hbefore

theorem selects_balanced :
    Selects PlainChar Fragment.Balanced :=
  selects_balanced_of_clear (fun h => h.right) (by decide)

theorem sealed_subqueryClause
    {column : String} {operator : Operator} {select table : String} {filter : Fragment}
    (hcolumn : PlainName column)
    (hselect : Balanced select.toList)
    (htable : PlainName table)
    (hfilter : filter.Balanced) :
    (Session.subqueryClause column operator select table filter).Sealed := by
  have hbefore : isSealed 0 (column ++ " " ++ operator.sign).toList = true := by
    have hsign := isSealed_append hcolumn.sealed operator.sealed_sign
    simpa using hsign
  have hinner :=
    (balanced_selectFrom hselect htable.balanced).append (selects_balanced.asWhere hfilter)
  have hclause : Session.subqueryClause column operator select table filter =
      .text (column ++ " " ++ operator.sign ++ " " ++ "(") ++
        (selectFrom select table ++ filter.asWhere) ++ .text ")" := by
    simp only [Session.subqueryClause, selectFrom, ← Fragment.append_assoc,
      Fragment.text_append_text]
    simp only [String.append_assoc]
    rfl
  rw [hclause]
  exact hinner.sealed_enclosed hbefore

namespace Path

theorem Plain.head
    {path : Path}
    (h : path.Plain) :
    PlainName path.head :=
  path.writtenIn_head (h.links path.first List.mem_cons_self) selects_balanced.identity

theorem sealed_compile
    {path : Path} {filters : Filters}
    (hpath : path.Plain)
    (hfilters : ∀ entry ∈ filters, entry.2.Balanced) :
    (path.compile filters).Sealed := by
  have hbefore : isSealed 0 (path.head ++ " IN").toList = true := by
    rw [String.toList_append]
    exact isSealed_append hpath.head.sealed (by decide)
  have hopening : path.head ++ " IN (" = path.head ++ " IN" ++ " " ++ "(" := by
    simp only [String.append_assoc]
    rfl
  rw [compile_eq_selected, hopening]
  exact (selects_balanced.selected hpath.tables hpath.links hfilters).sealed_enclosed hbefore

end Path

/-!
# Groups
-/

theorem Connective.separating
    (connective : Connective) :
    Separating connective.separator.toList := by
  cases connective with
  | or => exact ⟨'O', ['R', ' '], rfl, Or.inr rfl⟩
  | and => exact ⟨'A', ['N', 'D', ' '], rfl, Or.inl rfl⟩

namespace Clauses

theorem toList_join
    (clauses : Clauses) (connective : Connective) :
    (clauses.join connective.separator).sql.toList =
      joinChars connective.separator.toList
        (clauses.parts.map fun fragment => fragment.sql.toList) := by
  unfold join
  rw [joinWith_toList, List.map_map]
  rfl

theorem balanced_join
    {clauses : Clauses}
    (h : clauses.All Fragment.Sealed)
    (connective : Connective) :
    (clauses.join connective.separator).Balanced := by
  unfold Fragment.Balanced
  rw [toList_join]
  refine balanced_joinChars (by cases connective <;> decide) ?_
  intro piece hpiece
  rcases List.mem_map.mp hpiece with ⟨fragment, hfragment, heq⟩
  rw [← heq]
  exact (h fragment hfragment).balanced

theorem group_cases
    {members : Clauses}
    (hne : members.parts ≠ [])
    (separator : String) :
    (∃ member, members.parts = [member] ∧ members.group separator = member) ∨
      (1 < members.size ∧
        members.group separator = .text "(" ++ members.join separator ++ .text ")") := by
  by_cases hsize : 1 < members.size
  · exact Or.inr ⟨hsize, by rw [group, if_pos hsize]⟩
  · rcases List.exists_cons_of_ne_nil hne with ⟨member, others, hparts⟩
    have hothers : others = [] := by
      simpa [size, hparts] using hsize
    rw [hothers] at hparts
    refine Or.inl ⟨member, hparts, ?_⟩
    simp [group, size, join, hparts, joinWith]

theorem sealed_group
    {members : Clauses}
    (hne : members.parts ≠ [])
    (h : members.All Fragment.Sealed)
    (connective : Connective) :
    (members.group connective.separator).Sealed := by
  rcases members.group_cases hne connective.separator with ⟨member, hparts, hgroup⟩ | ⟨_, hgroup⟩
  · rw [hgroup]
    exact h member (by simp [hparts])
  · unfold Fragment.Sealed
    rw [hgroup, Fragment.toList_parenthesized]
    exact isSealed_enclose (balanced_join h connective)

end Clauses

/-!
# All clauses
-/

theorem handsOn_sealed :
    HandsOn Step.Plain Fragment.Sealed where
  compare h := Clauses.all_ofCondition? (Operator.sealed_condition? _ h _)
  template h := h.elim
  list h := Clauses.all_ofCondition? (Operator.sealed_listCondition? _ h _)
  values h := Clauses.all_ofValues fun value _ => Operator.sealed_condition? _ h value
  group hne h := Clauses.sealed_group hne h _
  subquery hstep hmembers :=
    sealed_subqueryClause hstep.left hstep.right.left hstep.right.right
      (Clauses.balanced_join hmembers .and)
  path hpath hfilters := by
    refine Path.sealed_compile hpath ?_
    intro entry hentry
    rcases List.mem_map.mp hentry with ⟨filter, hfilter, heq⟩
    rw [← heq]
    exact Clauses.balanced_join (hfilters filter hfilter) .and

/-!
# No clause is empty
-/

def Fragment.Nonempty (f : Fragment) : Prop :=
  f.sql ≠ ""

theorem Fragment.nonempty_append_text
    (f : Fragment) :
    (f ++ text ")").Nonempty := by
  intro h
  have hlast : (f.sql ++ ")").toList = "".toList := congrArg String.toList h
  simp at hlast

namespace Clauses

theorem nonempty_single
    (f : Fragment) :
    (single f).All Fragment.Nonempty := by
  unfold single
  split
  · exact all_empty
  next hne =>
    intro other hother hsql
    rw [List.mem_singleton.mp hother] at hsql
    simp [Fragment.isEmpty, hsql] at hne

theorem nonempty_ofCondition?
    (condition? : Option Fragment) :
    (ofCondition? condition?).All Fragment.Nonempty := by
  cases condition? with
  | none => exact all_empty
  | some fragment => exact nonempty_single fragment

theorem nonempty_ofValues
    (column : String) (operator : Operator) (values : List Value) :
    (ofValues column operator values).All Fragment.Nonempty := by
  induction values with
  | nil => exact all_empty
  | cons value values ih => exact (nonempty_ofCondition? _).append ih

theorem nonempty_join
    {clauses : Clauses}
    (hne : clauses.parts ≠ [])
    (h : clauses.All Fragment.Nonempty)
    (separator : String) :
    (clauses.join separator).Nonempty := by
  rcases clauses with ⟨parts⟩
  cases parts with
  | nil => exact absurd rfl hne
  | cons first parts =>
      have hfirst : first.Nonempty := h first List.mem_cons_self
      cases parts with
      | nil => exact hfirst
      | cons second parts =>
          intro hempty
          have htext : first.sql ++ separator ++ joinWith separator
              ((second :: parts).map Fragment.sql) = "" := hempty
          simp only [String.append_eq_empty_iff] at htext
          exact hfirst htext.left.left

theorem nonempty_group
    {members : Clauses}
    (hne : members.parts ≠ [])
    (h : members.All Fragment.Nonempty)
    (separator : String) :
    (members.group separator).Nonempty := by
  rcases members.group_cases hne separator with ⟨member, hparts, hgroup⟩ | ⟨_, hgroup⟩
  · rw [hgroup]
    exact h member (by simp [hparts])
  · rw [hgroup]
    exact Fragment.nonempty_append_text _

end Clauses

theorem handsOn_nonempty :
    HandsOn (fun _ => True) Fragment.Nonempty where
  compare _ := Clauses.nonempty_ofCondition? _
  template _ := Clauses.nonempty_single _
  list _ := Clauses.nonempty_ofCondition? _
  values _ := Clauses.nonempty_ofValues _ _ _
  group hne h := Clauses.nonempty_group hne h _
  subquery _ _ := Fragment.nonempty_append_text _
  path _ _ := by
    rw [Path.compile_eq_selected]
    exact Fragment.nonempty_append_text _

end Criteria
