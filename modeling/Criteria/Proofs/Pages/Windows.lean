import Mathlib.Algebra.Order.Ring.Int
import Criteria.Page

/-!
# Windows of pages

A window is computed in 64-bit steps that stop at the bounds.  Its offset is still the one that
exact integers give, as far as that is a 64-bit number, and the largest one beyond.  The windows of
one size therefore begin in the order of their pages, and before the largest offset each begins
where the one of the page before ends.
-/

namespace Criteria

/-!
# Saturating steps
-/

theorem toInt_ofIntClamp
    (n : Int) :
    (Int64.ofIntClamp n).toInt = max Int64.minValue.toInt (min n Int64.maxValue.toInt) := by
  have hbounds : Int64.minValue.toInt ≤ Int64.maxValue.toInt := by decide
  unfold Int64.ofIntClamp
  split
  next hlow =>
    split
    next hhigh => rw [Int64.toInt_ofIntLE, min_eq_left hhigh, max_eq_right hlow]
    next hhigh => rw [min_eq_right (Int.le_of_not_le hhigh), max_eq_right hbounds]
  next hlow =>
    have hmin : min n Int64.maxValue.toInt ≤ Int64.minValue.toInt :=
      (min_le_left _ _).trans (Int.le_of_not_le hlow)
    rw [max_eq_left hmin]

theorem toInt_ofIntClamp_of_nonneg
    {n : Int}
    (h : 0 ≤ n) :
    (Int64.ofIntClamp n).toInt = min n Int64.maxValue.toInt := by
  have hlow : Int64.minValue.toInt ≤ min n Int64.maxValue.toInt :=
    le_min ((by decide : Int64.minValue.toInt ≤ 0).trans h) (by decide)
  rw [toInt_ofIntClamp, max_eq_right hlow]

/-!
# Numbers of pages
-/

def positiveIn (standard : Int) : Option Int64 -> Int
  | some n => if 0 < n.toInt then n.toInt else standard
  | none => standard

theorem positiveIn_pos
    {standard : Int}
    (h : 0 < standard)
    (given : Option Int64) :
    0 < positiveIn standard given := by
  cases given with
  | none => exact h
  | some n =>
      show 0 < if 0 < n.toInt then n.toInt else standard
      split
      next hn => exact hn
      next => exact h

namespace PageRequest

def pageNumber (page : PageRequest) : Int :=
  positiveIn 1 page.number

def pageSize (page : PageRequest) : Int :=
  positiveIn 10 page.size

end PageRequest

namespace Window

theorem toInt_positiveOr
    (standard n : Int64) :
    (positiveOr standard n).toInt = positiveIn standard.toInt (some n) := by
  unfold positiveOr positiveIn
  rw [apply_ite Int64.toInt]
  exact if_congr Int64.lt_iff_toInt_lt rfl rfl

/-!
# The window of a page
-/

/-- The window has `size` rows, a positive number, and begins after those of the pages before page
`number`, or at the largest offset. -/
structure Shows (window : Window) (number size : Int) : Prop where
  limit_pos : 0 < window.limit.toInt
  limit : window.limit.toInt = size
  offset : window.offset.toInt = min ((number - 1) * window.limit.toInt) Int64.maxValue.toInt
  offset_nonneg : 0 ≤ window.offset.toInt

theorem shows_of_positive
    {number size : Int64}
    (hnumber : 0 < number.toInt)
    (hsize : 0 < size.toInt) :
    Shows ⟨size, saturatingMul (saturatingSub number 1) size⟩ number.toInt size.toInt := by
  have hskipped : 0 ≤ number.toInt - 1 := by omega
  have hsub : (saturatingSub number 1).toInt = number.toInt - 1 := by
    have hle : number.toInt - 1 ≤ Int64.maxValue.toInt := by
      have hmax := number.toInt_le
      omega
    unfold saturatingSub
    rw [Int64.toInt_one, toInt_ofIntClamp_of_nonneg hskipped, min_eq_left hle]
  have hrows : 0 ≤ (number.toInt - 1) * size.toInt := Int.mul_nonneg hskipped hsize.le
  have hmul : (saturatingMul (saturatingSub number 1) size).toInt =
      min ((number.toInt - 1) * size.toInt) Int64.maxValue.toInt := by
    unfold saturatingMul
    rw [hsub, toInt_ofIntClamp_of_nonneg hrows]
  constructor
  case limit_pos => exact hsize
  case limit => rfl
  case offset => exact hmul
  case offset_nonneg =>
    show 0 ≤ (saturatingMul (saturatingSub number 1) size).toInt
    rw [hmul]
    exact le_min hrows (by decide)

section

variable {window later : Window} {number next size : Int}

theorem Shows.offset_le
    (h : window.Shows number size)
    (hlater : later.Shows next size)
    (hle : number ≤ next) :
    window.offset ≤ later.offset := by
  have hrows : (number - 1) * size ≤ (next - 1) * size := by
    have hsize : 0 ≤ size := h.limit ▸ h.limit_pos.le
    exact Int.mul_le_mul_of_nonneg_right (Int.sub_le_sub_right hle 1) hsize
  rw [Int64.le_iff_toInt_le, h.offset, hlater.offset, h.limit, hlater.limit]
  exact min_le_min_right _ hrows

theorem Shows.offset_next
    (h : window.Shows number size)
    (hlater : later.Shows (number + 1) size)
    (hlt : later.offset < Int64.maxValue) :
    later.offset.toInt = window.offset.toInt + window.limit.toInt := by
  have hrows : (number + 1 - 1) * size = (number - 1) * size + size := by
    rw [Int.add_sub_cancel, Int.sub_mul, Int.one_mul, Int.sub_add_cancel]
  rw [Int64.lt_iff_toInt_lt, hlater.offset, hlater.limit, hrows] at hlt
  have hsize : 0 < size := h.limit ▸ h.limit_pos
  have hexact : (number - 1) * size + size ≤ Int64.maxValue.toInt := by
    rcases min_lt_iff.mp hlt with hless | habsurd
    · exact hless.le
    · exact absurd habsurd (lt_irrefl _)
  have hbefore : (number - 1) * size ≤ Int64.maxValue.toInt := by omega
  rw [hlater.offset, h.offset, hlater.limit, h.limit, hrows, min_eq_left hexact,
    min_eq_left hbefore]

end

theorem shows_ofPage
    (number size : Int64) :
    (ofPage number size).Shows (positiveIn 1 (some number)) (positiveIn 10 (some size)) := by
  have hnumber := toInt_positiveOr firstPage number
  have hsize := toInt_positiveOr standardSize size
  have hpage := shows_of_positive
    (hnumber ▸ positiveIn_pos (by decide) (some number))
    (hsize ▸ positiveIn_pos (by decide) (some size))
  rw [hnumber, hsize] at hpage
  exact hpage

end Window

namespace PageRequest

/-!
# The window of a request
-/

theorem positiveIn_getD
    {standard : Int64}
    (h : 0 < standard.toInt)
    (given : Option Int64) :
    positiveIn standard.toInt (some (given.getD standard)) = positiveIn standard.toInt given := by
  cases given with
  | some n => rfl
  | none => exact if_pos h

theorem window?_eq_none_iff
    (page : PageRequest) :
    page.window? = none ↔ page.number = none ∧ page.size = none := by
  unfold window? needsPaging
  cases page.number <;> cases page.size <;> simp

theorem shows_of_window?_eq_some
    {page : PageRequest} {window : Window}
    (h : page.window? = some window) :
    window.Shows page.pageNumber page.pageSize := by
  have hpage := Window.shows_ofPage (page.number.getD Window.firstPage)
    (page.size.getD Window.standardSize)
  have hnumber : positiveIn 1 (some (page.number.getD Window.firstPage)) = page.pageNumber :=
    positiveIn_getD (by decide) page.number
  have hsize : positiveIn 10 (some (page.size.getD Window.standardSize)) = page.pageSize :=
    positiveIn_getD (by decide) page.size
  rw [hnumber, hsize] at hpage
  unfold window? at h
  split at h
  next =>
    cases h
    exact hpage
  next => cases h

theorem sql_eq_empty_iff
    (page : PageRequest) :
    page.sql = "" ↔ page.window? = none := by
  unfold sql
  cases page.window? with
  | none => simp
  | some window =>
      have hne : window.sql ≠ "" := by
        intro hsql
        have hlist := congrArg String.toList hsql
        simp [Window.sql] at hlist
      simp [hne]

/-- A request has a window unless it gives neither a number nor a size.  The window has the size that
is asked for, or ten rows, and begins after the rows of the pages before, in exact integers, as far
as that is a 64-bit number.  For one size later pages begin later, and before the largest offset
each page begins where the one before it ends.  A pair of numbers is such a request. -/
theorem window_exact
    (page : PageRequest) :
    (page.window? = none ↔ page.number = none ∧ page.size = none) ∧
      (page.sql = "" ↔ page.number = none ∧ page.size = none) ∧
      (∀ number size, page.number = some number -> page.size = some size ->
        page.window? = some (.ofPage number size)) ∧
      ∀ window, page.window? = some window ->
        window.Shows page.pageNumber page.pageSize ∧
          ∀ (other : PageRequest) (later : Window),
            other.window? = some later -> other.pageSize = page.pageSize ->
              (page.pageNumber ≤ other.pageNumber -> window.offset ≤ later.offset) ∧
              (other.pageNumber = page.pageNumber + 1 -> later.offset < Int64.maxValue ->
                later.offset.toInt = window.offset.toInt + window.limit.toInt) := by
  refine ⟨page.window?_eq_none_iff, ?_, ?_, ?_⟩
  · rw [sql_eq_empty_iff, window?_eq_none_iff]
  · intro number size hnumber hsize
    unfold window? needsPaging
    rw [hnumber, hsize]
    rfl
  · intro window hwindow
    have hshows := shows_of_window?_eq_some hwindow
    refine ⟨hshows, ?_⟩
    intro other later hlater hsize
    have hother := shows_of_window?_eq_some hlater
    rw [hsize] at hother
    refine ⟨hshows.offset_le hother, ?_⟩
    intro hnext
    rw [hnext] at hother
    exact hshows.offset_next hother

/-- The second page of a quarter of the 64-bit numbers begins where the first one ends, and the last
page that can be asked for at the largest offset. -/
theorem window_exact_quarters :
    let first : PageRequest := { size := some 4611686018427387904 }
    let second : PageRequest := { first with number := some 2 }
    let last : PageRequest := { first with number := some Int64.maxValue }
    ∃ one two beyond,
      first.window? = some one ∧ second.window? = some two ∧ last.window? = some beyond ∧
        two.offset.toInt = one.offset.toInt + one.limit.toInt ∧
          one.offset ≤ beyond.offset ∧ beyond.offset = Int64.maxValue := by
  intro first second last
  let one : Window := ⟨4611686018427387904, 0⟩
  let two : Window := ⟨4611686018427387904, 4611686018427387904⟩
  let beyond : Window := ⟨4611686018427387904, Int64.maxValue⟩
  have hone : first.window? = some one := by decide +kernel
  have htwo : second.window? = some two := by decide +kernel
  have hbeyond : last.window? = some beyond := by decide +kernel
  have hnext := ((window_exact first).right.right.right one hone).right
  refine ⟨one, two, beyond, hone, htwo, hbeyond, ?_, ?_, rfl⟩
  · exact (hnext second two htwo rfl).right (by decide +kernel) (by decide +kernel)
  · exact (hnext last beyond hbeyond rfl).left (by decide +kernel)

end PageRequest
end Criteria
