import Criteria.Text.Cut

/-!
# Outside of parentheses

A mark stands outside if no parenthesis is open where it begins.  A text is cut at the marks that
stand outside, from left to right.  The texts that are put together here are sealed: they leave no
parenthesis open, and no separator can begin in them outside of their parentheses, whatever follows.
-/

namespace Criteria
namespace Text

/-!
# Nesting
-/

def deeper? (depth : Nat) (c : Char) : Option Nat :=
  if c = '(' then
    some (depth + 1)
  else if c = ')' then
    match depth with
    | 0 => none
    | depth + 1 => some depth
  else
    some depth

def nesting (depth : Nat) (cs : List Char) : Option Nat :=
  cs.foldlM deeper? depth

def Balanced (cs : List Char) : Prop :=
  nesting 0 cs = some 0

instance : DecidablePred Balanced :=
  fun cs => inferInstanceAs (Decidable (nesting 0 cs = some 0))

theorem nesting_cons
    (depth : Nat) (c : Char) (cs : List Char) :
    nesting depth (c :: cs) = (deeper? depth c).bind fun next => nesting next cs :=
  List.foldlM_cons

theorem nesting_append
    (depth : Nat) (cs ds : List Char) :
    nesting depth (cs ++ ds) = (nesting depth cs).bind fun next => nesting next ds :=
  List.foldlM_append

theorem nesting_add
    {cs : List Char} {depth next : Nat}
    (h : nesting depth cs = some next)
    (more : Nat) :
    nesting (depth + more) cs = some (next + more) := by
  induction cs generalizing depth with
  | nil =>
      cases h
      rfl
  | cons c cs ih =>
      rw [nesting_cons] at h ⊢
      rcases Option.bind_eq_some_iff.mp h with ⟨inner, hinner, hrest⟩
      have hdeeper : deeper? (depth + more) c = some (inner + more) := by
        unfold deeper? at hinner ⊢
        split at hinner
        next hopen =>
          cases hinner
          rw [if_pos hopen, Nat.add_right_comm]
        next hopen =>
          rw [if_neg hopen]
          split at hinner
          next hclose =>
            rw [if_pos hclose]
            cases depth with
            | zero => cases hinner
            | succ depth =>
                cases hinner
                rw [Nat.add_right_comm]
          next hclose =>
            cases hinner
            rw [if_neg hclose]
      rw [hdeeper]
      exact ih hrest

theorem Balanced.nesting
    {cs : List Char}
    (h : Balanced cs)
    (depth : Nat) :
    nesting depth cs = some depth := by
  have hmore := nesting_add h depth
  rwa [Nat.zero_add] at hmore

theorem Balanced.append
    {cs ds : List Char}
    (hcs : Balanced cs)
    (hds : Balanced ds) :
    Balanced (cs ++ ds) := by
  unfold Balanced
  rw [nesting_append, hcs]
  exact hds

theorem balanced_of_clear
    {cs : List Char}
    (h : ∀ c ∈ cs, c ≠ '(' ∧ c ≠ ')') :
    Balanced cs := by
  induction cs with
  | nil => rfl
  | cons c cs ih =>
      rcases List.forall_mem_cons.mp h with ⟨hc, hcs⟩
      unfold Balanced
      rw [nesting_cons, deeper?, if_neg hc.left, if_neg hc.right]
      exact ih hcs

theorem Balanced.enclose
    {cs : List Char}
    (h : Balanced cs) :
    Balanced ('(' :: cs ++ [')']) := by
  unfold Balanced
  rw [List.cons_append, nesting_cons]
  show Text.nesting 1 (cs ++ [')']) = some 0
  rw [nesting_append, h.nesting 1]
  rfl

/-!
# Cutting
-/

def putFirst (cs : List Char) : List (List Char) -> List (List Char)
  | [] => [cs]
  | piece :: pieces => (cs ++ piece) :: pieces

/-- The pieces between the marks outside; `skip` counts the characters of a mark that are still to
be passed over. -/
def cutOutside (mark : List Char) : Nat -> Nat -> List Char -> List (List Char)
  | _, _, [] => [[]]
  | depth, skip + 1, _ :: cs => cutOutside mark depth skip cs
  | depth, 0, c :: cs =>
      if depth = 0 ∧ mark <+: c :: cs then
        [] :: cutOutside mark depth (mark.length - 1) cs
      else
        putFirst [c] (cutOutside mark ((deeper? depth c).getD 0) 0 cs)

def piecesOutside (mark text : String) : List String :=
  if text = "" then
    []
  else
    (cutOutside mark.toList 0 0 text.toList).map String.ofList

/-- A mark begins where no parenthesis is open, from a given depth on. -/
def OutsideFrom (depth : Nat) (mark cs : List Char) : Prop :=
  ∃ before after : List Char, cs = before ++ mark ++ after ∧ nesting depth before = some 0

def StandsOutside (mark text : String) : Prop :=
  OutsideFrom 0 mark.toList text.toList

theorem putFirst_putFirst
    (cs ds : List Char) (pieces : List (List Char)) :
    putFirst cs (putFirst ds pieces) = putFirst (cs ++ ds) pieces := by
  cases pieces with
  | nil => rfl
  | cons piece pieces => simp [putFirst]

theorem cutOutside_ne_nil
    (mark : List Char) (depth skip : Nat) (cs : List Char) :
    cutOutside mark depth skip cs ≠ [] := by
  induction cs generalizing depth skip with
  | nil => simp [cutOutside]
  | cons c cs ih =>
      cases skip with
      | succ skip => exact ih depth skip
      | zero =>
          unfold cutOutside
          split
          · simp
          · cases cutOutside mark ((deeper? depth c).getD 0) 0 cs <;>
              simp [putFirst]

theorem cutOutside_skip
    (mark : List Char) (depth : Nat) (cs ds : List Char) :
    cutOutside mark depth cs.length (cs ++ ds) = cutOutside mark depth 0 ds := by
  induction cs with
  | nil => rfl
  | cons c cs ih => exact ih

theorem cutOutside_mark
    {mark : List Char}
    (hmark : mark ≠ [])
    (cs : List Char) :
    cutOutside mark 0 0 (mark ++ cs) = [] :: cutOutside mark 0 0 cs := by
  cases mark with
  | nil => exact absurd rfl hmark
  | cons m mark =>
      have hbegins : m :: mark <+: m :: (mark ++ cs) := List.prefix_append (m :: mark) cs
      rw [List.cons_append, cutOutside, if_pos ⟨rfl, hbegins⟩]
      exact congrArg (List.cons []) (cutOutside_skip (m :: mark) 0 mark cs)

/-!
# Sealed texts

Every separator begins with a blank and a capital A or O.
-/

def Separating (mark : List Char) : Prop :=
  ∃ head tail, mark = ' ' :: head :: tail ∧ (head = 'A' ∨ head = 'O')

/-- No separator goes on with the text after its blank, whatever follows. -/
def quiet : List Char -> Bool
  | [] => false
  | c :: _ => c != 'A' && c != 'O'

theorem not_prefix_of_quiet
    {cs ds tail : List Char} {head : Char}
    (hcs : quiet cs = true)
    (hhead : head = 'A' ∨ head = 'O') :
    ¬ head :: tail <+: cs ++ ds := by
  intro hbegins
  cases cs with
  | nil => cases hcs
  | cons c cs =>
      rw [List.cons_append, List.cons_prefix_cons] at hbegins
      have hc : c ≠ 'A' ∧ c ≠ 'O' := by simpa [quiet] using hcs
      rw [← hbegins.left] at hc
      rcases hhead with hA | hO
      · exact hc.left hA
      · exact hc.right hO

/-- The text closes all parentheses, and no separator begins outside. -/
def isSealed (depth : Nat) : List Char -> Bool
  | [] => depth == 0
  | c :: cs =>
      (depth != 0 || c != ' ' || quiet cs) && (deeper? depth c).any fun next => isSealed next cs

theorem Separating.ne_nil
    {mark : List Char}
    (h : Separating mark) :
    mark ≠ [] := by
  rcases h with ⟨head, tail, heq, _⟩
  simp [heq]

theorem isSealed_cons
    {depth : Nat} {c : Char} {cs : List Char} :
    isSealed depth (c :: cs) = true ↔
      (depth = 0 -> c = ' ' -> quiet cs = true) ∧
        ∃ next, deeper? depth c = some next ∧ isSealed next cs = true := by
  have hquiet : (depth != 0 || c != ' ' || quiet cs) = true ↔
      (depth = 0 -> c = ' ' -> quiet cs = true) := by
    by_cases hdepth : depth = 0
    · by_cases hc : c = ' '
      · simp [hdepth, hc]
      · simp [hc]
    · simp [hdepth]
  rw [isSealed, Bool.and_eq_true, hquiet, Option.any_eq_true]

theorem isSealed_append
    {depth : Nat} {cs ds : List Char}
    (hcs : isSealed depth cs = true)
    (hds : isSealed 0 ds = true) :
    isSealed depth (cs ++ ds) = true := by
  induction cs generalizing depth with
  | nil =>
      have hdepth : depth = 0 := by simpa [isSealed] using hcs
      rwa [hdepth]
  | cons c cs ih =>
      rcases isSealed_cons.mp hcs with ⟨hquiet, next, hnext, hrest⟩
      refine isSealed_cons.mpr ⟨?_, next, hnext, ih hrest⟩
      intro hdepth hc
      have hhere := hquiet hdepth hc
      cases cs with
      | nil => cases hhere
      | cons d cs => exact hhere

theorem nesting_of_isSealed
    {depth : Nat} {cs : List Char}
    (h : isSealed depth cs = true) :
    nesting depth cs = some 0 := by
  induction cs generalizing depth with
  | nil =>
      have hdepth : depth = 0 := by simpa [isSealed] using h
      rw [hdepth]
      rfl
  | cons c cs ih =>
      rcases isSealed_cons.mp h with ⟨_, next, hnext, hrest⟩
      rw [nesting_cons, hnext]
      exact ih hrest

theorem isSealed_inside
    {depth next : Nat} {cs ds : List Char}
    (hcs : nesting depth cs = some next)
    (hds : isSealed (next + 1) ds = true) :
    isSealed (depth + 1) (cs ++ ds) = true := by
  induction cs generalizing depth with
  | nil =>
      cases hcs
      exact hds
  | cons c cs ih =>
      rw [nesting_cons] at hcs
      rcases Option.bind_eq_some_iff.mp hcs with ⟨inner, hinner, hrest⟩
      have hsingle : nesting depth [c] = some inner := by
        rw [nesting_cons, hinner]
        rfl
      have hmore := nesting_add hsingle 1
      rw [nesting_cons] at hmore
      rcases Option.bind_eq_some_iff.mp hmore with ⟨outer, houter, heq⟩
      cases heq
      refine isSealed_cons.mpr ⟨?_, inner + 1, houter, ih hrest⟩
      intro hdepth
      exact absurd hdepth (Nat.succ_ne_zero depth)

theorem isSealed_enclose
    {cs : List Char}
    (h : Balanced cs) :
    isSealed 0 ('(' :: cs ++ [')']) = true := by
  refine isSealed_cons.mpr ⟨?_, 1, rfl, isSealed_inside h rfl⟩
  intro _ hc
  exact absurd hc (by decide)

/-!
# Sealed pieces
-/

theorem cutOutside_sealed
    {mark : List Char}
    (hmark : Separating mark)
    {depth : Nat} {cs : List Char}
    (hcs : isSealed depth cs = true)
    (ds : List Char) :
    cutOutside mark depth 0 (cs ++ ds) = putFirst cs (cutOutside mark 0 0 ds) := by
  induction cs generalizing depth with
  | nil =>
      have hdepth : depth = 0 := by simpa [isSealed] using hcs
      rw [hdepth]
      show _ = putFirst [] (cutOutside mark 0 0 ds)
      cases hpieces : cutOutside mark 0 0 ds with
      | nil => exact absurd hpieces (cutOutside_ne_nil mark 0 0 ds)
      | cons piece pieces => exact hpieces
  | cons c cs ih =>
      rcases isSealed_cons.mp hcs with ⟨hquiet, next, hnext, hrest⟩
      have hno : ¬ (depth = 0 ∧ mark <+: c :: cs ++ ds) := by
        rintro ⟨hdepth, hbegins⟩
        rcases hmark with ⟨head, tail, heq, hhead⟩
        rw [heq, List.cons_append, List.cons_prefix_cons] at hbegins
        exact not_prefix_of_quiet (hquiet hdepth hbegins.left.symm) hhead hbegins.right
      rw [List.cons_append] at hno ⊢
      rw [cutOutside, if_neg hno, hnext, Option.getD_some, ih hrest, putFirst_putFirst]
      rfl

/-- The text is passed over when what begins with it is cut. -/
def Passed (mark cs : List Char) : Prop :=
  ∀ ds : List Char, cutOutside mark 0 0 (cs ++ ds) = putFirst cs (cutOutside mark 0 0 ds)

theorem cutOutside_joinChars
    {mark : List Char}
    (hmark : mark ≠ [])
    {pieces : List (List Char)}
    (hne : pieces ≠ [])
    (hpieces : ∀ piece ∈ pieces, Passed mark piece) :
    cutOutside mark 0 0 (joinChars mark pieces) = pieces := by
  induction pieces with
  | nil => exact absurd rfl hne
  | cons piece pieces ih =>
      have hpiece := hpieces piece List.mem_cons_self
      cases pieces with
      | nil =>
          have hwalk := hpiece []
          rw [List.append_nil] at hwalk
          simpa [joinChars, cutOutside, putFirst] using hwalk
      | cons next pieces =>
          have hrest := ih (List.cons_ne_nil next pieces)
            fun other hother => hpieces other (List.mem_cons_of_mem piece hother)
          rw [joinChars, List.append_assoc, hpiece, cutOutside_mark hmark, hrest]
          simp [putFirst]

theorem balanced_joinChars
    {mark : List Char}
    (hmark : Balanced mark)
    {pieces : List (List Char)}
    (hpieces : ∀ piece ∈ pieces, Balanced piece) :
    Balanced (joinChars mark pieces) := by
  induction pieces with
  | nil => rfl
  | cons piece pieces ih =>
      have hpiece := hpieces piece List.mem_cons_self
      have hrest := ih fun other hother => hpieces other (List.mem_cons_of_mem piece hother)
      cases pieces with
      | nil => exact hpiece
      | cons next pieces => exact (hpiece.append hmark).append hrest

/-!
# Marks outside
-/

theorem outsideFrom_of_sealed
    {mark : List Char}
    (hmark : Separating mark)
    {depth : Nat} {cs ds : List Char}
    (hcs : isSealed depth cs = true)
    (h : OutsideFrom depth mark (cs ++ ds)) :
    OutsideFrom 0 mark ds := by
  induction cs generalizing depth with
  | nil =>
      have hdepth : depth = 0 := by simpa [isSealed] using hcs
      rwa [hdepth] at h
  | cons c cs ih =>
      rcases isSealed_cons.mp hcs with ⟨hquiet, next, hnext, hrest⟩
      rcases h with ⟨before, after, heq, hbefore⟩
      cases before with
      | nil =>
          have hdepth : depth = 0 := Option.some.inj hbefore
          rcases hmark with ⟨head, tail, hmarkEq, hhead⟩
          have hbegins : mark <+: c :: (cs ++ ds) := ⟨after, heq.symm⟩
          rw [hmarkEq, List.cons_prefix_cons] at hbegins
          exact absurd hbegins.right
            (not_prefix_of_quiet (hquiet hdepth hbegins.left.symm) hhead)
      | cons b before =>
          rw [List.cons_append, List.cons_append, List.cons_append, List.cons.injEq] at heq
          rw [nesting_cons, ← heq.left, hnext] at hbefore
          exact ih hrest ⟨before, after, by simpa using heq.right, hbefore⟩

theorem outsideFrom_blank
    {tail cs : List Char}
    (h : OutsideFrom 0 (' ' :: tail) (' ' :: cs)) :
    tail <+: cs ∨ OutsideFrom 0 (' ' :: tail) cs := by
  rcases h with ⟨before, after, heq, hbefore⟩
  cases before with
  | nil => exact Or.inl ⟨after, by simpa using heq.symm⟩
  | cons b before =>
      simp only [List.cons_append, List.cons.injEq] at heq
      rw [nesting_cons, ← heq.left] at hbefore
      exact Or.inr ⟨before, after, by simpa using heq.right, hbefore⟩

end Text
end Criteria
