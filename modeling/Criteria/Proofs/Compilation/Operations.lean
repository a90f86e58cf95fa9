import Criteria.Proofs.Compilation.Queries
import Criteria.Statement

/-!
# Operations on a session

All that a caller can ask a session for, one operation after the other.  The plans that a session
holds after a sequence of operations are built from the types that the operations are about.
-/

namespace Criteria

inductive Operation where
  | plan (type : QueryType)
  | layout (entity : Entity)
  | condition (query : Query)
  | orderBy (query : Query)
  | select (entity : Entity) (query : Query)
  | count (entity : Entity) (query : Query)
  | delete (entity : Entity) (query : Query)
  | selectById (entity : Entity) (id : Value)
  | deleteById (entity : Entity) (id : Value)
  | insert (entity : Entity) (row : Row)
  | insertAll (entity : Entity) (rows : List Row)
  | update (entity : Entity) (row : Row)
  | patch (entity : Entity) (row : Row)
  | patchWhere (entity : Entity) (row : Row) (query : Query)

inductive Answer where
  | plan (plan : Plan)
  | layout (layout : Layout)
  | text (text : String)
  | fragment (fragment : Fragment)
  | optional (fragment? : Option Fragment)
deriving DecidableEq

namespace Operation

def types : Operation -> List QueryType
  | .plan type => [type]
  | .condition query => query.types
  | .select _ query => query.types
  | .count _ query => query.types
  | .delete _ query => query.types
  | .patchWhere _ _ query => query.types
  | _ => []

def entities : Operation -> List Entity
  | .layout entity => [entity]
  | .select entity _ => [entity]
  | .count entity _ => [entity]
  | .delete entity _ => [entity]
  | .selectById entity _ => [entity]
  | .deleteById entity _ => [entity]
  | .insert entity _ => [entity]
  | .insertAll entity _ => [entity]
  | .update entity _ => [entity]
  | .patch entity _ => [entity]
  | .patchWhere entity _ _ => [entity]
  | _ => []

def run : Operation -> Run Answer
  | .plan type => do return .plan (← Session.plan type)
  | .layout entity => do return .layout (← Session.layout entity)
  | .condition query => do return .fragment (← Session.condition query)
  | .orderBy query => do return .text (← Session.orderBy query)
  | .select entity query => do return .fragment (← Statement.select entity query)
  | .count entity query => do return .fragment (← Statement.count entity query)
  | .delete entity query => do return .fragment (← Statement.delete entity query)
  | .selectById entity id => do return .fragment (← Statement.selectById entity id)
  | .deleteById entity id => do return .fragment (← Statement.deleteById entity id)
  | .insert entity row => do return .fragment (← Statement.insert entity row)
  | .insertAll entity rows => do return .optional (← Statement.insertAll entity rows)
  | .update entity row => do return .fragment (← Statement.update entity row)
  | .patch entity row => do return .optional (← Statement.patch entity row)
  | .patchWhere entity row query => do
      return .optional (← Statement.patchWhere entity row query)

def runAll : List Operation -> Run (List Answer)
  | [] => return []
  | operation :: operations => do
      let answer ← operation.run
      let answers ← runAll operations
      return answer :: answers

end Operation

def QueryType.StepsAre (naming : Naming) (ok : Step -> Prop) (type : QueryType) : Prop :=
  ∀ planned ∈ (Plan.build naming type).fields, ok planned.step

instance (naming : Naming) (ok : Step -> Prop) [DecidablePred ok] :
    DecidablePred (QueryType.StepsAre naming ok) :=
  fun type => inferInstanceAs
    (Decidable (∀ planned ∈ (Plan.build naming type).fields, ok planned.step))

namespace Session

def fresh (naming : Naming) : Session :=
  { naming := naming }

/-!
# Relations along runs
-/

structure Composes (relation : Session -> Session -> Prop) : Prop where
  refl : ∀ session, relation session session
  trans : ∀ {first second third : Session},
    relation first second -> relation second third -> relation first third

def Keeps {α : Type} (relation : Session -> Session -> Prop) (run : Run α) : Prop :=
  ∀ session, relation session (after run session)

section

variable {relation : Session -> Session -> Prop}

namespace Keeps

variable {α β : Type}

theorem pure
    (h : Composes relation)
    (x : α) :
    Keeps relation (Pure.pure x) :=
  h.refl

theorem bind
    {run : Run α} {next : α -> Run β}
    (h : Composes relation)
    (hrun : Keeps relation run)
    (hnext : ∀ x, Keeps relation (next x)) :
    Keeps relation (run >>= next) :=
  fun session => h.trans (hrun session) (hnext _ _)

theorem map
    {run : Run α}
    (h : Composes relation)
    (hrun : Keeps relation run)
    (f : α -> β) :
    Keeps relation (run >>= fun x => Pure.pure (f x)) :=
  hrun.bind h fun x => .pure h (f x)

end Keeps

theorem keeps_run
    (h : Composes relation)
    {operation : Operation}
    (hplan : ∀ type ∈ operation.types, Keeps relation (plan type))
    (hlayout : ∀ entity ∈ operation.entities, Keeps relation (layout entity))
    (hcondition : ∀ query : Query, query.types ⊆ operation.types ->
      Keeps relation (condition query))
    (horder : ∀ query, Keeps relation (orderBy query)) :
    Keeps relation operation.run := by
  have hlaid : ∀ {entity : Entity} {α : Type} {next : Layout -> Run α},
      operation.entities = [entity] -> (∀ layout, Keeps relation (next layout)) ->
        Keeps relation (layout entity >>= next) := by
    intro entity α next hentities hnext
    exact (hlayout entity (by simp [hentities])).bind h hnext
  cases operation with
  | plan type => exact (hplan type (List.mem_singleton_self type)).map h _
  | layout entity => exact hlaid rfl fun layout => .pure h _
  | condition query => exact (hcondition query (List.Subset.refl _)).map h _
  | orderBy query => exact (horder query).map h _
  | select entity query =>
      refine (hlaid rfl fun layout => ?_).map h _
      exact (hcondition query (List.Subset.refl _)).bind h fun condition =>
        (horder query).map h _
  | count entity query =>
      refine (hlaid rfl fun layout => ?_).map h _
      exact (hcondition query (List.Subset.refl _)).map h _
  | delete entity query =>
      refine (hlaid rfl fun layout => ?_).map h _
      exact (hcondition query (List.Subset.refl _)).map h _
  | selectById entity id => exact (hlaid rfl fun layout => .pure h _).map h _
  | deleteById entity id => exact (hlaid rfl fun layout => .pure h _).map h _
  | insert entity row => exact (hlaid rfl fun layout => .pure h _).map h _
  | update entity row => exact (hlaid rfl fun layout => .pure h _).map h _
  | patch entity row => exact (hlaid rfl fun layout => .pure h _).map h _
  | insertAll entity rows =>
      refine Keeps.map h ?_ _
      unfold Statement.insertAll
      split
      · exact .pure h none
      · exact hlaid rfl fun layout => .pure h _
  | patchWhere entity row query =>
      refine (hlaid rfl fun layout => ?_).map h _
      cases Statement.assignment? layout row with
      | none => exact .pure h none
      | some fragment => exact (hcondition query (List.Subset.refl _)).map h _

theorem keeps_runAll
    (h : Composes relation)
    {operations : List Operation}
    (hrun : ∀ operation ∈ operations, Keeps relation operation.run) :
    Keeps relation (Operation.runAll operations) := by
  induction operations with
  | nil => exact .pure h []
  | cons operation operations ih =>
      refine (hrun operation List.mem_cons_self).bind h fun answer => ?_
      exact (ih fun other hother => hrun other (List.mem_cons_of_mem operation hother)).map h _

end

/-!
# Plans along runs
-/

theorem Grows.composes
    (types : List QueryType) :
    Composes (Grows types) :=
  ⟨Grows.refl types, Grows.trans⟩

theorem grows_layout
    (types : List QueryType) (entity : Entity) :
    Keeps (Grows types) (layout entity) := by
  intro session
  unfold after layout
  cases h : session.layouts.find? entity.typeName with
  | none =>
      simp only [StateT.run_bind, StateT.run_get, pure_bind, h]
      exact .of_plans_eq types rfl rfl
  | some layout =>
      simp only [StateT.run_bind, StateT.run_get, pure_bind, h]
      exact .refl types session

theorem grows_condition
    (query : Query) :
    Keeps (Grows query.types) (condition query) :=
  (computes_condition query).grows

theorem keeps_orderBy
    {relation : Session -> Session -> Prop}
    (h : Composes relation)
    (hreport : ∀ events, Keeps relation (report events))
    (query : Query) :
    Keeps relation (orderBy query) := by
  unfold orderBy
  cases query.page.bind PageRequest.sort with
  | none => exact .pure h ""
  | some sort => exact (hreport _).bind h fun _ => h.refl

theorem grows_runAll
    (operations : List Operation) :
    Keeps (Grows (operations.flatMap Operation.types)) (Operation.runAll operations) := by
  have hcomposes := Grows.composes (operations.flatMap Operation.types)
  refine keeps_runAll hcomposes ?_
  intro operation hoperation
  have hwithin : operation.types ⊆ operations.flatMap Operation.types :=
    fun type htype => List.mem_flatMap.mpr ⟨operation, hoperation, htype⟩
  refine keeps_run hcomposes ?_ ?_ ?_ ?_
  · intro type htype session
    exact (grows_plan type session).mono (by simpa using hwithin htype)
  · intro entity _
    exact grows_layout _ entity
  · intro query hquery session
    exact (grows_condition query session).mono (List.Subset.trans hquery hwithin)
  · exact keeps_orderBy hcomposes fun events => (Computes.report _ events).grows

/-!
# Layouts along runs
-/

structure LaysOut (entities : List Entity) (before after : Session) : Prop where
  naming : after.naming = before.naming
  origin : ∀ {name : String} {layout : Layout},
    after.layouts.find? name = some layout ->
      before.layouts.find? name = some layout ∨
        ∃ entity ∈ entities, entity.typeName = name ∧ layout = Layout.build before.naming entity

theorem LaysOut.composes
    (entities : List Entity) :
    Composes (LaysOut entities) := by
  constructor
  · intro session
    exact ⟨rfl, Or.inl⟩
  · intro first second third h h'
    refine ⟨h'.naming.trans h.naming, ?_⟩
    intro name layout hlayout
    rcases h'.origin hlayout with hsecond | hbuilt
    · exact h.origin hsecond
    · rw [h.naming] at hbuilt
      exact Or.inr hbuilt

theorem LaysOut.of_layouts_eq
    (entities : List Entity)
    {before after : Session}
    (hnaming : after.naming = before.naming)
    (hlayouts : after.layouts = before.layouts) :
    LaysOut entities before after := by
  refine ⟨hnaming, ?_⟩
  intro name layout h
  rw [hlayouts] at h
  exact Or.inl h

def layoutOf (session : Session) (entity : Entity) : Layout :=
  (session.layouts.find? entity.typeName).getD (Layout.build session.naming entity)

theorem answer_layout
    (entity : Entity) (session : Session) :
    answer (layout entity) session = session.layoutOf entity := by
  unfold answer layout layoutOf
  cases h : session.layouts.find? entity.typeName <;>
    simp [h] <;> rfl

theorem laysOut_layout
    {entities : List Entity} {entity : Entity}
    (hentity : entity ∈ entities) :
    Keeps (LaysOut entities) (layout entity) := by
  intro session
  unfold after layout
  cases h : session.layouts.find? entity.typeName with
  | some layout =>
      simp only [StateT.run_bind, StateT.run_get, pure_bind, h]
      exact (LaysOut.composes entities).refl session
  | none =>
      simp only [StateT.run_bind, StateT.run_get, pure_bind, h]
      refine ⟨rfl, ?_⟩
      intro name found hfound
      have hinstalled : (session.layouts.install entity.typeName
          (Layout.build session.naming entity)).find? name = some found := hfound
      rw [Catalog.find?_install] at hinstalled
      cases hbefore : session.layouts.find? name with
      | some before =>
          rw [hbefore] at hinstalled
          exact Or.inl hinstalled
      | none =>
          rw [hbefore, Option.none_or] at hinstalled
          split at hinstalled
          next hname =>
            cases hinstalled
            exact Or.inr ⟨entity, hentity, hname.symm, rfl⟩
          next => cases hinstalled

theorem laysOut_computed
    {α : Type} {run : Run α} {types : List QueryType} {value : Planning -> α}
    (entities : List Entity)
    (h : Computes run types value) :
    Keeps (LaysOut entities) run :=
  fun session => .of_layouts_eq entities (h.grows session).naming (h.layouts session)

theorem laysOut_runAll
    (operations : List Operation) :
    Keeps (LaysOut (operations.flatMap Operation.entities)) (Operation.runAll operations) := by
  have hcomposes := LaysOut.composes (operations.flatMap Operation.entities)
  refine keeps_runAll hcomposes ?_
  intro operation hoperation
  refine keeps_run hcomposes ?_ ?_ ?_ ?_
  · intro type _
    exact laysOut_computed _ (computes_plan type)
  · intro entity hentity
    exact laysOut_layout (List.mem_flatMap.mpr ⟨operation, hoperation, hentity⟩)
  · intro query _
    exact laysOut_computed _ (computes_condition query)
  · exact keeps_orderBy hcomposes fun events => laysOut_computed _ (Computes.report [] events)

/-!
# Sessions that a caller can reach
-/

def reached (naming : Naming) (operations : List Operation) : Session :=
  after (Operation.runAll operations) (fresh naming)

theorem naming_reached
    (naming : Naming) (operations : List Operation) :
    (reached naming operations).naming = naming :=
  (grows_runAll operations (fresh naming)).naming

theorem reached_append
    (naming : Naming) (operations : List Operation) (operation : Operation) :
    reached naming (operations ++ [operation]) =
      after operation.run (reached naming operations) := by
  have hrun : ∀ session, after (Operation.runAll (operations ++ [operation])) session =
      after operation.run (after (Operation.runAll operations) session) := by
    induction operations with
    | nil =>
        intro session
        rfl
    | cons first operations ih =>
        intro session
        exact ih (after first.run session)
  exact hrun (fresh naming)

theorem layoutOf_reached
    {naming : Naming} {operations : List Operation} {entity : Entity}
    (h : ∀ other ∈ operations.flatMap Operation.entities,
      other.typeName = entity.typeName -> other = entity) :
    (reached naming operations).layoutOf entity = Layout.build naming entity := by
  have hlaid := laysOut_runAll operations (fresh naming)
  unfold layoutOf
  rw [naming_reached]
  cases hfound : (reached naming operations).layouts.find? entity.typeName with
  | none => rfl
  | some layout =>
      rcases hlaid.origin hfound with hfresh | ⟨other, hother, hname, hbuild⟩
      · cases hfresh
      · rw [h other hother hname] at hbuild
        exact hbuild

theorem planOf_after_reached
    {α : Type} {run : Run α} {types : List QueryType}
    (h : Keeps (Grows types) run)
    (naming : Naming) (operations : List Operation) (type : QueryType) :
    ∃ other ∈ type :: (operations.flatMap Operation.types ++ types), other.name = type.name ∧
      (after run (reached naming operations)).planOf type = Plan.build naming other := by
  have hbefore : Grows (operations.flatMap Operation.types ++ types) (fresh naming)
      (reached naming operations) :=
    (grows_runAll operations (fresh naming)).mono (by simp)
  have hrun : Grows (operations.flatMap Operation.types ++ types) (reached naming operations)
      (after run (reached naming operations)) :=
    (h (reached naming operations)).mono (by simp)
  rcases (hbefore.trans hrun).planOf_cases type with
    hfresh | ⟨other, hother, hname, hbuild⟩
  · exact ⟨type, List.mem_cons_self, rfl, hfresh⟩
  · exact ⟨other, List.mem_cons_of_mem type hother, hname, hbuild⟩

theorem steps_after_reached
    {ok : Step -> Prop} {naming : Naming} {operations : List Operation} {query : Query}
    (h : ∀ type ∈ operations.flatMap Operation.types ++ query.types,
      type.name ∈ query.types.map QueryType.name -> type.StepsAre naming ok) :
    ∀ type ∈ query.types,
      ∀ planned ∈ ((after (condition query) (reached naming operations)).planOf type).fields,
        ok planned.step := by
  intro type htype
  rcases planOf_after_reached (grows_condition query) naming operations type with
    ⟨other, hother, hname, hbuild⟩
  have hnamed : other.name ∈ query.types.map QueryType.name := by
    rw [hname]
    exact List.mem_map_of_mem htype
  rw [hbuild]
  rcases List.mem_cons.mp hother with hself | hearlier
  · rw [hself] at hnamed ⊢
    exact h type (List.mem_append_right _ htype) hnamed
  · exact h other hearlier hnamed

end Session
end Criteria
