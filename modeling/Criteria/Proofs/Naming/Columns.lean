import Criteria.Entity
import Criteria.Proofs.Naming.Alphabet

/-!
# Alphabets of columns

The columns of an entity come from the names and explicit columns of its fields, those of embedded
entities included, and its table from its own name or an explicit table.
-/

namespace Criteria

mutual

def Entity.WrittenIn (p : Char -> Prop) : Entity -> Prop
  | .mk _ name table? fields =>
      Criteria.WrittenIn p name ∧ (∀ table ∈ table?, Criteria.WrittenIn p table) ∧
        EntityField.WrittenIn p fields

def EntityField.WrittenIn (p : Char -> Prop) : List EntityField -> Prop
  | [] => True
  | .mk name column? role :: fields =>
      (Criteria.WrittenIn p name ∧ (∀ column ∈ column?, Criteria.WrittenIn p column) ∧
        role.WrittenIn p) ∧ EntityField.WrittenIn p fields

def Role.WrittenIn (p : Char -> Prop) : Role -> Prop
  | .column => True
  | .identity => True
  | .embedded entity => entity.WrittenIn p

end

namespace Entity

variable {p : Char -> Prop} {naming : Naming}

mutual

theorem writtenIn_leaves (hp : Alphabet p) (naming : Naming) : forall entity : Entity,
    entity.WrittenIn p ->
      ∀ leaf ∈ entity.leaves naming, Criteria.WrittenIn p leaf.column
  | .mk typeName name table fields => by
      intro h
      exact writtenIn_fieldLeaves hp naming fields h.right.right

theorem writtenIn_fieldLeaves (hp : Alphabet p) (naming : Naming) :
    forall fields : List EntityField,
    EntityField.WrittenIn p fields ->
      ∀ leaf ∈ fieldLeaves naming fields, Criteria.WrittenIn p leaf.column
  | [] => by
      intro _ leaf hleaf
      cases hleaf
  | .mk name column role :: fields => by
      intro h leaf hleaf
      rcases h with ⟨⟨hname, hcolumn, hrole⟩, hfields⟩
      have hresolved : Criteria.WrittenIn p (column.getD (naming.column name)) := by
        cases column with
        | none => exact Naming.WrittenIn.column hp naming hname
        | some column => exact hcolumn column rfl
      rw [fieldLeaves] at hleaf
      rcases List.mem_append.mp hleaf with hhere | hlater
      · exact writtenIn_roleLeaves hp naming _ role hresolved hrole leaf hhere
      · exact writtenIn_fieldLeaves hp naming fields hfields leaf hlater

theorem writtenIn_roleLeaves (hp : Alphabet p) (naming : Naming) (column : String) :
    forall role : Role,
    Criteria.WrittenIn p column -> role.WrittenIn p ->
      ∀ leaf ∈ roleLeaves naming column role, Criteria.WrittenIn p leaf.column
  | .column => by
      intro hcolumn _ leaf hleaf
      rw [List.mem_singleton.mp hleaf]
      exact hcolumn
  | .identity => by
      intro hcolumn _ leaf hleaf
      rw [List.mem_singleton.mp hleaf]
      exact hcolumn
  | .embedded entity => by
      intro _ hentity
      exact writtenIn_leaves hp naming entity hentity

end

theorem writtenIn_table
    (hp : Alphabet p)
    (hnaming : naming.WrittenIn p)
    {entity : Entity}
    (h : entity.WrittenIn p) :
    Criteria.WrittenIn p (entity.table naming) := by
  cases entity with
  | mk typeName name table fields =>
      cases table with
      | none => exact hnaming.entityTable hp h.left
      | some table => exact h.right.left table rfl

end Entity
end Criteria
