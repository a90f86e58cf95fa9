import Criteria.Proofs.Compilation.Contributions

/-!
# Runs of a session

A run looks plans up and installs those that are missing while it compiles.  An installed plan is
never replaced, so all look-ups of a run agree with the plans that the session holds at its end,
and the clauses that the run makes are those of the query under these plans.
-/

namespace Criteria
namespace Session

/-!
# Answers and final sessions
-/

def answer {α : Type} (run : Run α) (session : Session) : α :=
  (StateT.run run session).1

def after {α : Type} (run : Run α) (session : Session) : Session :=
  (StateT.run run session).2

@[simp] theorem answer_pure
    {α : Type} (x : α) (session : Session) :
    answer (pure x) session = x :=
  rfl

@[simp] theorem answer_bind
    {α β : Type} (run : Run α) (next : α -> Run β) (session : Session) :
    answer (run >>= next) session = answer (next (answer run session)) (after run session) :=
  rfl

@[simp] theorem after_bind
    {α β : Type} (run : Run α) (next : α -> Run β) (session : Session) :
    after (run >>= next) session = after (next (answer run session)) (after run session) :=
  rfl

/-!
# Growth

The plans that a run adds are built from the types that it is asked about, under names that had
no plan before.
-/

def planOf (session : Session) : Planning :=
  fun type => (session.plans.find? type.name).getD (Plan.build session.naming type)

structure Grows (types : List QueryType) (before after : Session) : Prop where
  naming : after.naming = before.naming
  kept : ∀ {name : String} {plan : Plan},
    before.plans.find? name = some plan -> after.plans.find? name = some plan
  origin : ∀ {name : String} {plan : Plan},
    after.plans.find? name = some plan ->
      before.plans.find? name = some plan ∨
        ∃ type ∈ types, type.name = name ∧ plan = Plan.build before.naming type

namespace Grows

variable {types more : List QueryType}
variable {first second third : Session}

theorem refl
    (types : List QueryType) (session : Session) :
    Grows types session session :=
  ⟨rfl, id, Or.inl⟩

theorem of_plans_eq
    (types : List QueryType)
    (hnaming : second.naming = first.naming)
    (hplans : second.plans = first.plans) :
    Grows types first second := by
  constructor
  · exact hnaming
  · intro name plan h
    rwa [hplans]
  · intro name plan h
    rw [hplans] at h
    exact Or.inl h

theorem trans
    (h : Grows types first second)
    (h' : Grows types second third) :
    Grows types first third := by
  constructor
  · rw [h'.naming, h.naming]
  · intro name plan hplan
    exact h'.kept (h.kept hplan)
  · intro name plan hplan
    rcases h'.origin hplan with hsecond | hbuilt
    · exact h.origin hsecond
    · rw [h.naming] at hbuilt
      exact Or.inr hbuilt

theorem mono
    (h : Grows types first second)
    (hsubset : types ⊆ more) :
    Grows more first second := by
  refine ⟨h.naming, h.kept, ?_⟩
  intro name plan hplan
  rcases h.origin hplan with hfirst | ⟨type, htype, hname, hbuild⟩
  · exact Or.inl hfirst
  · exact Or.inr ⟨type, hsubset htype, hname, hbuild⟩

theorem planOf_cases
    (h : Grows types first second)
    (type : QueryType) :
    second.planOf type = first.planOf type ∨
      ∃ other ∈ types, other.name = type.name ∧
        second.planOf type = Plan.build first.naming other := by
  unfold planOf
  cases hfound : second.plans.find? type.name with
  | none =>
      cases hfirst : first.plans.find? type.name with
      | none => exact Or.inl (by rw [h.naming])
      | some plan =>
          rw [h.kept hfirst] at hfound
          cases hfound
  | some plan =>
      rcases h.origin hfound with hfirst | ⟨other, hother, hname, hbuild⟩
      · rw [hfirst]
        exact Or.inl rfl
      · exact Or.inr ⟨other, hother, hname, hbuild⟩

end Grows

/-- The sessions differ in their layouts and their logs only. -/
structure SamePlans (first second : Session) : Prop where
  naming : second.naming = first.naming
  plans : second.plans = first.plans

theorem SamePlans.planOf_eq
    {first second : Session}
    (h : SamePlans first second) :
    second.planOf = first.planOf := by
  unfold planOf
  rw [h.naming, h.plans]

/-!
# Runs that compute

A run computes a function of the plans if it answers what the function gives for the plans of
every session that its final session grows into.  Such a run looks at nothing but the plans.
-/

structure Computes {α : Type} (run : Run α) (types : List QueryType) (value : Planning -> α) :
    Prop where
  grows : ∀ session, Grows types session (after run session)
  layouts : ∀ session, (after run session).layouts = session.layouts
  agrees : ∀ {session later : Session} {more : List QueryType},
    Grows more (after run session) later -> answer run session = value later.planOf
  answers : ∀ {session other : Session}, SamePlans session other ->
    answer run other = answer run session
  leads : ∀ {session other : Session}, SamePlans session other ->
    SamePlans (after run session) (after run other)

namespace Computes

variable {α β : Type}
variable {types more : List QueryType}

theorem mono
    {run : Run α} {value : Planning -> α}
    (h : Computes run types value)
    (hsubset : types ⊆ more) :
    Computes run more value :=
  ⟨fun session => (h.grows session).mono hsubset, h.layouts, h.agrees, h.answers, h.leads⟩

theorem pure
    (types : List QueryType) (x : α) :
    Computes (Pure.pure x) types (fun _ => x) :=
  ⟨fun session => .refl types session, fun _ => rfl, fun _ => rfl, fun _ => rfl, id⟩

theorem bind
    {run : Run α} {value : Planning -> α}
    {next : α -> Run β} {nextValue : α -> Planning -> β}
    (h : Computes run types value)
    (hnext : ∀ x, Computes (next x) types (nextValue x)) :
    Computes (run >>= next) types (fun plans => nextValue (value plans) plans) := by
  constructor
  · intro session
    exact (h.grows session).trans ((hnext _).grows _)
  · intro session
    rw [after_bind, (hnext _).layouts, h.layouts]
  · intro session later more hlater
    rw [after_bind] at hlater
    have hgrows := (hnext (answer run session)).grows (after run session)
    -- the first answer is compared with the same later session as the second one
    have hfirst : answer run session = value later.planOf :=
      h.agrees ((hgrows.mono (List.subset_append_left _ more)).trans
        (hlater.mono (List.subset_append_right types _)))
    have hsecond := (hnext (answer run session)).agrees hlater
    rw [answer_bind, hsecond, hfirst]
  · intro session other hsame
    rw [answer_bind, answer_bind, h.answers hsame]
    exact (hnext _).answers (h.leads hsame)
  · intro session other hsame
    rw [after_bind, after_bind, h.answers hsame]
    exact (hnext _).leads (h.leads hsame)

theorem map
    {run : Run α} {value : Planning -> α}
    (h : Computes run types value)
    (f : α -> β) :
    Computes (run >>= fun x => Pure.pure (f x)) types (fun plans => f (value plans)) :=
  h.bind fun x => .pure types (f x)

theorem report
    (types : List QueryType) (events : List Event) :
    Computes (Session.report events) types (fun _ => ()) :=
  ⟨fun _ => .of_plans_eq types rfl rfl, fun _ => rfl, fun _ => rfl, fun _ => rfl,
    fun hsame => ⟨hsame.naming, hsame.plans⟩⟩

end Computes

/-!
# Looking a plan up
-/

theorem answer_plan
    (type : QueryType) (session : Session) :
    answer (plan type) session = session.planOf type := by
  unfold answer plan planOf
  cases h : session.plans.find? type.name <;>
    simp [h] <;> rfl

theorem naming_after_plan
    (type : QueryType) (session : Session) :
    (after (plan type) session).naming = session.naming := by
  unfold after plan
  cases h : session.plans.find? type.name <;>
    simp [h] <;> rfl

theorem layouts_after_plan
    (type : QueryType) (session : Session) :
    (after (plan type) session).layouts = session.layouts := by
  unfold after plan
  cases h : session.plans.find? type.name <;>
    simp [h] <;> rfl

theorem plans_after_plan
    (type : QueryType) (session : Session) :
    (after (plan type) session).plans =
      session.plans.install type.name (Plan.build session.naming type) := by
  unfold after plan Catalog.install
  cases h : session.plans.find? type.name <;>
    simp [h] <;> rfl

theorem grows_plan
    (type : QueryType) (session : Session) :
    Grows [type] session (after (plan type) session) := by
  constructor
  · exact naming_after_plan type session
  · intro name found h
    rw [plans_after_plan, Catalog.find?_install, h]
    rfl
  · intro name found h
    rw [plans_after_plan, Catalog.find?_install] at h
    cases hbefore : session.plans.find? name with
    | some before =>
        rw [hbefore] at h
        exact Or.inl h
    | none =>
        rw [hbefore, Option.none_or] at h
        split at h
        next hname =>
          cases h
          exact Or.inr ⟨type, List.mem_singleton_self type, hname.symm, rfl⟩
        next => cases h

theorem computes_plan
    (type : QueryType) :
    Computes (plan type) [type] (fun plans => plans type) := by
  constructor
  · exact grows_plan type
  · exact layouts_after_plan type
  · intro session later more hlater
    have hinstalled : (after (plan type) session).plans.find? type.name =
        some (session.planOf type) := by
      rw [plans_after_plan, Catalog.find?_install, if_pos rfl]
      unfold planOf
      cases session.plans.find? type.name <;> rfl
    rw [answer_plan]
    unfold planOf
    rw [hlater.kept hinstalled]
    rfl
  · intro session other hsame
    rw [answer_plan, answer_plan, hsame.planOf_eq]
  · intro session other hsame
    constructor
    · rw [naming_after_plan, naming_after_plan, hsame.naming]
    · rw [plans_after_plan, plans_after_plan, hsame.plans, hsame.naming]

end Session
end Criteria
