import Criteria.Proofs.Compilation.Clauses
import Criteria.Proofs.Naming.Planned

/-!
# Paired fragments

A fragment is paired if its text has as many placeholders as the fragment has arguments.  The
fragments that operators, subqueries and paths are made of are paired, and putting paired fragments
together keeps them so, as long as the text around them is written without marks.
-/

namespace Criteria

open Text

def NotMark (c : Char) : Prop :=
  c ≠ '?'

instance : DecidablePred NotMark :=
  fun c => inferInstanceAs (Decidable (c ≠ '?'))

def Fragment.Paired (fragment : Fragment) : Prop :=
  placeholders fragment.sql = fragment.args.length

/-!
# The alphabet without the mark

No letter has the mark among its case images.
-/

namespace Text.Letter

theorem imageIn_ne_mark
    {runs : List Run} {c : Char}
    (hruns : ∀ run ∈ runs, '?'.toNat < run.image)
    (hc : NotMark c) :
    NotMark (imageIn runs c) := by
  unfold imageIn
  split
  next code hcode =>
    rcases List.exists_of_findSome?_eq_some hcode with ⟨run, hrun, himage⟩
    have hbeyond := hruns run hrun
    unfold Run.image? at himage
    split at himage
    · cases himage
      intro hmark
      by_cases hvalid : (run.image + (c.toNat - run.first)).isValidChar
      · have hnat := congrArg Char.toNat hmark
        rw [Char.ofNat, dif_pos hvalid] at hnat
        have hsame : run.image + (c.toNat - run.first) = '?'.toNat := hnat
        omega
      · rw [Char.ofNat, dif_neg hvalid] at hmark
        exact absurd hmark (by decide)
    · cases himage
  next => exact hc

theorem toLower_ne_mark
    {c : Char}
    (hascii : c.toNat < 0x80)
    (hc : NotMark c) :
    NotMark c.toLower := by
  have hall : ∀ n < 0x80, Char.ofNat n ≠ '?' -> (Char.ofNat n).toLower ≠ '?' := by decide
  have hself := hall c.toNat hascii
  rw [Char.ofNat_toNat] at hself
  exact hself hc

theorem toUpper_ne_mark
    {c : Char}
    (hascii : c.toNat < 0x80)
    (hc : NotMark c) :
    NotMark c.toUpper := by
  have hall : ∀ n < 0x80, Char.ofNat n ≠ '?' -> (Char.ofNat n).toUpper ≠ '?' := by decide
  have hself := hall c.toNat hascii
  rw [Char.ofNat_toNat] at hself
  exact hself hc

theorem lowerRuns_beyond_mark :
    ∀ run ∈ lowerRuns, '?'.toNat < run.image := by
  decide +kernel

theorem upperRuns_beyond_mark :
    ∀ run ∈ upperRuns, '?'.toNat < run.image := by
  decide +kernel

theorem upperSequences_ne_mark :
    ∀ entry ∈ upperSequences, ∀ c ∈ entry.2.map Char.ofNat, c ≠ '?' := by
  have hall : (upperSequences.all fun entry =>
      (entry.2.map Char.ofNat).all fun c => c != '?') = true := by
    decide
  intro entry hentry c hc
  exact bne_iff_ne.mp (List.all_eq_true.mp (List.all_eq_true.mp hall entry hentry) c hc)

end Text.Letter

open Text.Letter in
theorem alphabet_notMark :
    Alphabet NotMark := by
  constructor
  · decide
  · intro c d hc hd
    unfold lower at hd
    split at hd
    next hascii =>
      rw [List.mem_singleton.mp hd]
      exact toLower_ne_mark hascii hc
    next =>
      split at hd
      · have himage : (['i', Char.ofNat 0x307].all fun e => e != '?') = true := by decide
        exact bne_iff_ne.mp (List.all_eq_true.mp himage d hd)
      · rw [List.mem_singleton.mp hd]
        exact imageIn_ne_mark lowerRuns_beyond_mark hc
  · decide
  · intro c d hc hd
    unfold upper at hd
    split at hd
    next hascii =>
      rw [List.mem_singleton.mp hd]
      exact toUpper_ne_mark hascii hc
    next =>
      split at hd
      next entry hentry =>
        exact upperSequences_ne_mark entry (List.mem_of_find?_eq_some hentry) d hd
      next =>
        rw [List.mem_singleton.mp hd]
        exact imageIn_ne_mark upperRuns_beyond_mark hc

/-!
# Counting placeholders
-/

theorem WrittenIn.count_mark
    {text : String}
    (h : WrittenIn NotMark text) :
    text.toList.count '?' = 0 :=
  List.count_eq_zero.mpr fun hmark => h '?' hmark rfl

theorem placeholders_append
    (s t : String) :
    placeholders (s ++ t) = placeholders s + placeholders t := by
  simp [placeholders]

theorem placeholders_joinWith
    {α : Type} {separator : String} {text : α -> String} {args : α -> List Value} {xs : List α}
    (hseparator : placeholders separator = 0)
    (h : ∀ x ∈ xs, placeholders (text x) = (args x).length) :
    placeholders (joinWith separator (xs.map text)) = (xs.flatMap args).length := by
  induction xs with
  | nil => rfl
  | cons x xs ih =>
      have hx := h x List.mem_cons_self
      have hxs := ih fun y hy => h y (List.mem_cons_of_mem x hy)
      cases xs with
      | nil =>
          rw [List.map_cons, List.map_nil, joinWith, hx]
          simp
      | cons y xs =>
          have hargs : (x :: y :: xs).flatMap args = args x ++ (y :: xs).flatMap args :=
            List.flatMap_cons
          rw [List.map_cons, List.map_cons, joinWith, placeholders_append, placeholders_append,
            hseparator, hx, ← List.map_cons, hxs, hargs, List.length_append, Nat.add_zero]

theorem placeholders_markGroup
    (count : Nat) :
    placeholders (Fragment.markGroup count) = count := by
  have hmarks : placeholders (joinWith ", " (List.replicate count "?")) = count := by
    have hone : ∀ value ∈ List.replicate count Value.null, placeholders "?" = [value].length :=
      fun _ _ => rfl
    have hjoin : placeholders (joinWith ", " ((List.replicate count Value.null).map fun _ => "?")) =
        ((List.replicate count Value.null).flatMap fun value => [value]).length :=
      placeholders_joinWith rfl hone
    rw [List.map_replicate] at hjoin
    rw [hjoin]
    simp
  unfold Fragment.markGroup
  rw [placeholders_append, placeholders_append, hmarks]
  simp [placeholders]

/-!
# Putting fragments together
-/

namespace Fragment

theorem paired_text
    {sql : String}
    (h : placeholders sql = 0) :
    (text sql).Paired :=
  h

theorem paired_empty :
    empty.Paired :=
  rfl

theorem Paired.append
    {f g : Fragment}
    (hf : f.Paired)
    (hg : g.Paired) :
    (f ++ g).Paired := by
  unfold Paired at *
  rw [sql_append, args_append, placeholders_append, List.length_append, hf, hg]

theorem paired_bound
    (value : Value) :
    (bound value).Paired := by
  show placeholders "?" = 1
  rfl

theorem paired_boundGroup
    (values : List Value) :
    (boundGroup values).Paired :=
  placeholders_markGroup values.length

end Fragment

namespace Clauses

theorem paired_join
    {clauses : Clauses} {separator : String}
    (h : clauses.All Fragment.Paired)
    (hseparator : placeholders separator = 0) :
    (clauses.join separator).Paired :=
  placeholders_joinWith hseparator h

theorem placeholders_separator
    (connective : Connective) :
    placeholders connective.separator = 0 := by
  cases connective <;> rfl

theorem paired_group
    {clauses : Clauses}
    (h : clauses.All Fragment.Paired)
    (connective : Connective) :
    (clauses.group connective.separator).Paired := by
  have hjoin := paired_join h (placeholders_separator connective)
  unfold Clauses.group
  split
  · exact ((Fragment.paired_text rfl).append hjoin).append (Fragment.paired_text rfl)
  · exact hjoin

end Clauses
end Criteria
