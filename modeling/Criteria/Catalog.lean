/-!
# Catalogs

Entries under names, at most one under each.  `put` replaces the entry of a name, `install`
keeps the one that is there.
-/

namespace Criteria

structure Catalog (α : Type) where
  entries : List (String × α) := []
deriving DecidableEq, Repr

namespace Catalog

variable {α : Type}

def empty : Catalog α :=
  ⟨[]⟩

def find? (catalog : Catalog α) (name : String) : Option α :=
  catalog.entries.lookup name

def contains (catalog : Catalog α) (name : String) : Bool :=
  (catalog.find? name).isSome

def size (catalog : Catalog α) : Nat :=
  catalog.entries.length

def isEmpty (catalog : Catalog α) : Bool :=
  catalog.entries.isEmpty

def put (catalog : Catalog α) (name : String) (entry : α) : Catalog α :=
  ⟨(name, entry) :: catalog.entries.filter fun other => other.1 != name⟩

def install (catalog : Catalog α) (name : String) (entry : α) : Catalog α :=
  match catalog.find? name with
  | some _ => catalog
  | none => ⟨catalog.entries ++ [(name, entry)]⟩

/-!
# What the operations do to the view
-/

@[simp] theorem find?_empty
    (name : String) :
    (empty : Catalog α).find? name = none :=
  rfl

theorem find?_put_self
    (catalog : Catalog α) (name : String) (entry : α) :
    (catalog.put name entry).find? name = some entry := by
  simp [find?, put]

theorem find?_put_of_ne
    (catalog : Catalog α) (entry : α)
    {name other : String}
    (h : other ≠ name) :
    (catalog.put name entry).find? other = catalog.find? other := by
  unfold find? put
  rw [List.lookup_cons, beq_false_of_ne h]
  induction catalog.entries with
  | nil => rfl
  | cons e es ih =>
      obtain ⟨key, x⟩ := e
      by_cases hkey : key = name
      · have hother : (other == key) = false := by
          rw [hkey]
          exact beq_false_of_ne h
        simpa [hkey, List.lookup_cons, hother, beq_false_of_ne h] using ih
      · by_cases hother : other = key
        · simp [hkey, hother]
        · have hbeq : (other == key) = false := beq_false_of_ne hother
          simpa [List.filter_cons, hkey, List.lookup_cons, hbeq] using ih

theorem find?_install
    (catalog : Catalog α) (name other : String) (entry : α) :
    (catalog.install name entry).find? other =
      (catalog.find? other).or (if other = name then some entry else none) := by
  unfold install
  cases h : catalog.find? name with
  | some x =>
      by_cases hother : other = name
      · simp [hother, h]
      · simp [hother]
  | none =>
      have happend : (⟨catalog.entries ++ [(name, entry)]⟩ : Catalog α).find? other =
          (catalog.find? other).or (List.lookup other [(name, entry)]) := by
        unfold find?
        exact List.lookup_append
      show (⟨catalog.entries ++ [(name, entry)]⟩ : Catalog α).find? other = _
      rw [happend]
      by_cases hother : other = name
      · simp [hother]
      · simp [hother, List.lookup_cons, beq_false_of_ne hother]

end Catalog

/-!
# Keys that occur once
-/

section

variable {κ α : Type} [BEq κ] [LawfulBEq κ] {entries others : List (κ × α)}

theorem lookup_eq_some_iff_mem
    {key : κ} {value : α}
    (h : (entries.map Prod.fst).Nodup) :
    entries.lookup key = some value ↔ (key, value) ∈ entries := by
  constructor
  · intro hfound
    rcases List.lookup_eq_some_iff.mp hfound with ⟨before, after, heq, _⟩
    rw [heq]
    exact List.mem_append_right before List.mem_cons_self
  · intro hmem
    rcases List.append_of_mem hmem with ⟨before, after, heq⟩
    refine List.lookup_eq_some_iff.mpr ⟨before, after, heq, ?_⟩
    -- the key stands nowhere before its entry
    intro entry hentry
    rw [heq, List.map_append, List.nodup_append] at h
    have hne := h.right.right entry.1 (List.mem_map_of_mem hentry) key (by simp)
    exact bne_iff_ne.mpr hne.symm

theorem lookup_of_perm
    (hperm : entries.Perm others)
    (h : (entries.map Prod.fst).Nodup)
    (key : κ) :
    others.lookup key = entries.lookup key := by
  have hothers : (others.map Prod.fst).Nodup := (hperm.map Prod.fst).nodup h
  apply Option.ext
  intro value
  rw [lookup_eq_some_iff_mem h, lookup_eq_some_iff_mem hothers, hperm.mem_iff]

end

end Criteria
