import Criteria.Proofs.Compilation.Traces

/-!
# Shelves

A session keeps a catalog of plans and one of layouts, and what holds of one holds of the other: an
entry is built from the first source that is looked up under its name, it is announced when it is
installed, and it stays.  Both are shelves, on which a look-up does one thing and every other act
nothing.
-/

namespace Criteria

/-!
# Entries of a catalog
-/

namespace Catalog

variable {α : Type}

def ifMissing (catalog : Catalog α) (name : String) (events : List Event) : List Event :=
  match catalog.find? name with
  | some _ => []
  | none => events

theorem mem_entries_iff
    {catalog : Catalog α} {name : String} {entry : α}
    (h : (catalog.entries.map Prod.fst).Nodup) :
    (name, entry) ∈ catalog.entries ↔ catalog.find? name = some entry :=
  (lookup_eq_some_iff_mem h).symm

theorem not_mem_keys_of_find?_eq_none
    {catalog : Catalog α} {name : String}
    (h : catalog.find? name = none) :
    name ∉ catalog.entries.map Prod.fst := by
  intro hmem
  rcases List.mem_map.mp hmem with ⟨pair, hpair, hname⟩
  have hne := List.lookup_eq_none_iff.mp h pair hpair
  rw [hname] at hne
  simp at hne

theorem nodup_install
    {catalog : Catalog α}
    (h : (catalog.entries.map Prod.fst).Nodup)
    (name : String) (entry : α) :
    ((catalog.install name entry).entries.map Prod.fst).Nodup := by
  unfold install
  cases hfound : catalog.find? name with
  | some other => exact h
  | none =>
      show ((catalog.entries ++ [(name, entry)]).map Prod.fst).Nodup
      rw [List.map_append, List.nodup_append]
      refine ⟨h, by simp, ?_⟩
      intro key hkey other hother heq
      have hname : other = name := by simpa using hother
      rw [heq, hname] at hkey
      exact not_mem_keys_of_find?_eq_none hfound hkey

end Catalog

/-!
# What acts do
-/

namespace Session

theorem after_plan_of_some
    {type : QueryType} {session : Session} {found : Plan}
    (h : session.plans.find? type.name = some found) :
    after (plan type) session = session := by
  unfold after plan
  simp only [StateT.run_bind, StateT.run_get, pure_bind, h]
  rfl

theorem after_plan_of_none
    {type : QueryType} {session : Session}
    (h : session.plans.find? type.name = none) :
    after (plan type) session =
      { session with
        plans := session.plans.install type.name (Plan.build session.naming type)
        log := session.log ++ (Plan.reports session.naming type ++
          [.planPrepared type.name (Plan.build session.naming type).fields.length]) } := by
  unfold after plan
  simp only [StateT.run_bind, StateT.run_get, pure_bind, h]
  rfl

theorem after_layout_of_some
    {entity : Entity} {session : Session} {found : Layout}
    (h : session.layouts.find? entity.typeName = some found) :
    after (layout entity) session = session := by
  unfold after layout
  simp only [StateT.run_bind, StateT.run_get, pure_bind, h]
  rfl

theorem after_layout_of_none
    {entity : Entity} {session : Session}
    (h : session.layouts.find? entity.typeName = none) :
    after (layout entity) session =
      { session with
        layouts := session.layouts.install entity.typeName (Layout.build session.naming entity)
        log := session.log ++
          [.layoutPrepared entity.typeName (Layout.build session.naming entity).table] } := by
  unfold after layout
  simp only [StateT.run_bind, StateT.run_get, pure_bind, h]
  rfl

theorem plans_after_layout
    (entity : Entity) (session : Session) :
    (after (layout entity) session).plans = session.plans := by
  cases h : session.layouts.find? entity.typeName with
  | some found => rw [after_layout_of_some h]
  | none => rw [after_layout_of_none h]

theorem layouts_after_layout
    (entity : Entity) (session : Session) :
    (after (layout entity) session).layouts =
      session.layouts.install entity.typeName (Layout.build session.naming entity) := by
  cases h : session.layouts.find? entity.typeName with
  | some found =>
      rw [after_layout_of_some h]
      unfold Catalog.install
      rw [h]
  | none => rw [after_layout_of_none h]

theorem naming_perform
    (session : Session) (act : Act) :
    (session.perform act).naming = session.naming := by
  cases act with
  | plan type => exact naming_after_plan type session
  | layout entity => exact (grows_layout [] entity session).naming
  | misfit typeName field => rfl
  | ignoreHop typeName field index path => rfl
  | dropKeys faults => rfl

def news (session : Session) : Act -> List Event
  | .plan type =>
      session.plans.ifMissing type.name (Plan.reports session.naming type ++
        [.planPrepared type.name (Plan.build session.naming type).fields.length])
  | .layout entity =>
      session.layouts.ifMissing entity.typeName
        [.layoutPrepared entity.typeName (Layout.build session.naming entity).table]
  | .misfit typeName field => [.contentMisfit typeName field]
  | .ignoreHop typeName field index path => [.hopIgnored typeName field index path]
  | .dropKeys faults => faults.map .sortKeyDropped

theorem log_perform
    (session : Session) (act : Act) :
    (session.perform act).log = session.log ++ session.news act := by
  cases act with
  | plan type =>
      show (after (plan type) session).log = _
      cases h : session.plans.find? type.name with
      | some found => simp [after_plan_of_some h, news, Catalog.ifMissing, h]
      | none => simp only [after_plan_of_none h, news, Catalog.ifMissing, h]
  | layout entity =>
      show (after (layout entity) session).log = _
      cases h : session.layouts.find? entity.typeName with
      | some found => simp [after_layout_of_some h, news, Catalog.ifMissing, h]
      | none => simp only [after_layout_of_none h, news, Catalog.ifMissing, h]
  | misfit typeName field => rfl
  | ignoreHop typeName field index path => rfl
  | dropKeys faults => rfl

end Session

/-!
# Announcements
-/

def Event.announces (message name : String) (event : Event) : Bool :=
  event.message == message && event.particulars.contains ("type_name", name)

namespace Event

theorem countP_announces_of_warnings
    {message : String} {events : List Event}
    (hmessage : message = "compiled query plan" ∨ message = "compiled entity metadata")
    (h : ∀ event ∈ events, event.level = .warn)
    (name : String) :
    events.countP (announces message name) = 0 := by
  refine List.countP_eq_zero.mpr ?_
  intro event hevent
  have hwarn := h event hevent
  have hother : event.message ≠ message := by
    rcases hmessage with hmessage | hmessage <;>
      rw [hmessage] <;>
      cases event <;>
      simp_all [level, Event.message]
  simp [announces, hother]

theorem announces_planPrepared
    (name typeName : String) (fields : Nat) :
    announces "compiled query plan" name (.planPrepared typeName fields) =
      decide (name = typeName) := by
  simp [announces, message, particulars]

theorem announces_layoutPrepared
    (name typeName table : String) :
    announces "compiled entity metadata" name (.layoutPrepared typeName table) =
      decide (name = typeName) := by
  simp [announces, message, particulars]

theorem countP_announces_install
    {α : Type} {message key name : String} {announcement : Event}
    (catalog : Catalog α) (warnings : List Event)
    (hwarnings : warnings.countP (announces message name) = 0)
    (hannouncement : announces message name announcement = decide (name = key)) :
    (catalog.ifMissing key (warnings ++ [announcement])).countP (announces message name) =
      if name = key ∧ catalog.find? name = none then 1 else 0 := by
  unfold Catalog.ifMissing
  cases hfound : catalog.find? key with
  | some found =>
      have hkept : ¬(name = key ∧ catalog.find? name = none) := by
        rintro ⟨rfl, hnone⟩
        rw [hfound] at hnone
        cases hnone
      rw [if_neg hkept]
      rfl
  | none =>
      show (warnings ++ [announcement]).countP (announces message name) = _
      rw [List.countP_append, hwarnings, List.countP_singleton, hannouncement]
      by_cases hname : name = key
      · simp [hname, hfound]
      · simp [hname]

end Event

theorem Plan.level_of_mem_reports
    {naming : Naming} {type : QueryType} {event : Event}
    (h : event ∈ Plan.reports naming type) :
    event.level = .warn := by
  rcases List.mem_filterMap.mp h with ⟨field, _, hfield⟩
  cases hstep : Step.ofField naming type.name field with
  | ok step =>
      rw [hstep] at hfield
      cases hfield
  | error fault =>
      rw [hstep] at hfield
      cases hfield
      rfl

namespace Act

def type? : Act -> Option QueryType
  | .plan type => some type
  | _ => none

def entity? : Act -> Option Entity
  | .layout entity => some entity
  | _ => none

end Act

theorem Session.level_of_mem_news
    {act : Act} {session : Session} {event : Event}
    (htype : act.type? = none)
    (hentity : act.entity? = none)
    (hevent : event ∈ session.news act) :
    event.level = .warn := by
  cases act with
  | plan type => cases htype
  | layout entity => cases hentity
  | misfit typeName field =>
      rw [List.mem_singleton.mp hevent]
      rfl
  | ignoreHop typeName field index path =>
      rw [List.mem_singleton.mp hevent]
      rfl
  | dropKeys faults =>
      rcases List.mem_map.mp hevent with ⟨fault, _, hfault⟩
      rw [← hfault]
      rfl

/-!
# Shelves
-/

/-- One of the catalogs of a session: how a source is looked up in it, and what the acts do to it. -/
structure Shelf (σ α : Type) where
  catalog : Session -> Catalog α
  key : σ -> String
  build : Naming -> σ -> α
  look : σ -> Run α
  message : String
  source? : Act -> Option σ
  catalog_fresh : ∀ naming, catalog (Session.fresh naming) = .empty
  answer_look : ∀ source session, Session.answer (look source) session =
    ((catalog session).find? (key source)).getD (build session.naming source)
  after_look : ∀ source session, ∃ act, source? act = some source ∧
    Session.after (look source) session = session.perform act
  catalog_perform : ∀ session act, catalog (session.perform act) =
    match source? act with
    | some source => (catalog session).install (key source) (build session.naming source)
    | none => catalog session
  announced : ∀ session act name,
    (session.news act).countP (Event.announces message name) =
      match source? act with
      | some source => if name = key source ∧ (catalog session).find? name = none then 1 else 0
      | none => 0

namespace Shelf

open Session

def plans : Shelf QueryType Plan where
  catalog := Session.plans
  key := QueryType.name
  build := Plan.build
  look := Session.plan
  message := "compiled query plan"
  source? := Act.type?
  catalog_fresh _ := rfl
  answer_look := answer_plan
  after_look type session := ⟨.plan type, rfl, rfl⟩
  catalog_perform session act := by
    cases act with
    | plan type => exact plans_after_plan type session
    | layout entity => exact plans_after_layout entity session
    | misfit typeName field => rfl
    | ignoreHop typeName field index path => rfl
    | dropKeys faults => rfl
  announced session act name := by
    have hwarnings : ∀ {events : List Event}, (∀ event ∈ events, event.level = .warn) ->
        events.countP (Event.announces "compiled query plan" name) = 0 :=
      fun h => Event.countP_announces_of_warnings (Or.inl rfl) h name
    cases act with
    | plan type =>
        have hreports : (Plan.reports session.naming type).countP
            (Event.announces "compiled query plan" name) = 0 :=
          hwarnings fun _ => Plan.level_of_mem_reports
        exact Event.countP_announces_install session.plans _ hreports
          (Event.announces_planPrepared name type.name (Plan.build session.naming type).fields.length)
    | layout entity =>
        cases h : session.layouts.find? entity.typeName with
        | some found => simp [news, Catalog.ifMissing, h, Act.type?]
        | none => simp [news, Catalog.ifMissing, h, Act.type?, Event.announces, Event.message]
    | misfit typeName field => exact hwarnings fun _ => level_of_mem_news rfl rfl
    | ignoreHop typeName field index path => exact hwarnings fun _ => level_of_mem_news rfl rfl
    | dropKeys faults => exact hwarnings fun _ => level_of_mem_news rfl rfl

def layouts : Shelf Entity Layout where
  catalog := Session.layouts
  key := Entity.typeName
  build := Layout.build
  look := Session.layout
  message := "compiled entity metadata"
  source? := Act.entity?
  catalog_fresh _ := rfl
  answer_look := answer_layout
  after_look entity session := ⟨.layout entity, rfl, rfl⟩
  catalog_perform session act := by
    cases act with
    | plan type => exact layouts_after_plan type session
    | layout entity => exact layouts_after_layout entity session
    | misfit typeName field => rfl
    | ignoreHop typeName field index path => rfl
    | dropKeys faults => rfl
  announced session act name := by
    have hwarnings : ∀ {events : List Event}, (∀ event ∈ events, event.level = .warn) ->
        events.countP (Event.announces "compiled entity metadata" name) = 0 :=
      fun h => Event.countP_announces_of_warnings (Or.inr rfl) h name
    cases act with
    | plan type =>
        cases h : session.plans.find? type.name with
        | some found => simp [news, Catalog.ifMissing, h, Act.entity?]
        | none =>
            have hreports : (Plan.reports session.naming type).countP
                (Event.announces "compiled entity metadata" name) = 0 :=
              hwarnings fun _ => Plan.level_of_mem_reports
            simp [news, Catalog.ifMissing, h, Act.entity?, hreports, Event.announces, Event.message]
    | layout entity =>
        exact Event.countP_announces_install session.layouts [] rfl
          (Event.announces_layoutPrepared name entity.typeName
            (Layout.build session.naming entity).table)
    | misfit typeName field => exact hwarnings fun _ => level_of_mem_news rfl rfl
    | ignoreHop typeName field index path => exact hwarnings fun _ => level_of_mem_news rfl rfl
    | dropKeys faults => exact hwarnings fun _ => level_of_mem_news rfl rfl

variable {σ α : Type}
variable {shelf : Shelf σ α} {naming : Naming} {session : Session} {sources : List σ}

/-!
# What is on a shelf
-/

def lookedUp (shelf : Shelf σ α) (acts : List Act) : List σ :=
  acts.filterMap shelf.source?

def Uniform (shelf : Shelf σ α) (sources : List σ) : Prop :=
  ∀ first ∈ sources, ∀ second ∈ sources, shelf.key first = shelf.key second -> first = second

/-- The state of a shelf after look-ups of the sources. -/
structure Tracks (shelf : Shelf σ α) (naming : Naming) (sources : List σ) (session : Session) :
    Prop where
  naming_eq : session.naming = naming
  once : ((shelf.catalog session).entries.map Prod.fst).Nodup
  origin : ∀ {name : String} {entry : α}, (shelf.catalog session).find? name = some entry ->
    ∃ source ∈ sources, shelf.key source = name ∧ entry = shelf.build naming source
  known : ∀ source ∈ sources, (shelf.catalog session).find? (shelf.key source) ≠ none
  announced : ∀ name, session.log.countP (Event.announces shelf.message name) =
    if (shelf.catalog session).find? name = none then 0 else 1

theorem tracks_fresh
    (shelf : Shelf σ α) (naming : Naming) :
    shelf.Tracks naming [] (fresh naming) := by
  constructor
  · rfl
  · rw [shelf.catalog_fresh]
    exact List.nodup_nil
  · intro name entry h
    rw [shelf.catalog_fresh] at h
    cases h
  · intro source hsource
    cases hsource
  · intro name
    rw [shelf.catalog_fresh]
    rfl

theorem Tracks.look
    (h : shelf.Tracks naming sources session)
    {act : Act} {source : σ}
    (hsource : shelf.source? act = some source) :
    shelf.Tracks naming (sources ++ [source]) (session.perform act) := by
  have hcatalog := shelf.catalog_perform session act
  have hannounced := shelf.announced session act
  rw [hsource] at hcatalog
  simp only [hsource] at hannounced
  constructor
  · rw [naming_perform, h.naming_eq]
  · rw [hcatalog]
    exact Catalog.nodup_install h.once _ _
  · intro name entry hfound
    rw [hcatalog, Catalog.find?_install] at hfound
    cases hbefore : (shelf.catalog session).find? name with
    | some before =>
        rw [hbefore] at hfound
        rcases h.origin (hbefore.trans hfound) with ⟨other, hother, hname, hentry⟩
        exact ⟨other, List.mem_append_left _ hother, hname, hentry⟩
    | none =>
        rw [hbefore, Option.none_or] at hfound
        split at hfound
        next hname =>
          cases hfound
          rw [h.naming_eq]
          exact ⟨source, by simp, hname.symm, rfl⟩
        next => cases hfound
  · intro other hother
    rw [hcatalog, Catalog.find?_install]
    rcases List.mem_append.mp hother with hearlier | hnow
    · cases hbefore : (shelf.catalog session).find? (shelf.key other) with
      | some before => simp
      | none => exact absurd hbefore (h.known other hearlier)
    · rw [List.mem_singleton.mp hnow, if_pos rfl]
      simp
  · intro name
    rw [log_perform, List.countP_append, hannounced, h.announced, hcatalog, Catalog.find?_install]
    cases hbefore : (shelf.catalog session).find? name with
    | some before => simp
    | none =>
        by_cases hname : name = shelf.key source
        · simp [hname]
        · simp [hname]

theorem Tracks.spare
    (h : shelf.Tracks naming sources session)
    {act : Act}
    (hsource : shelf.source? act = none) :
    shelf.Tracks naming sources (session.perform act) := by
  have hcatalog := shelf.catalog_perform session act
  have hannounced := shelf.announced session act
  rw [hsource] at hcatalog
  simp only [hsource] at hannounced
  constructor
  · rw [naming_perform, h.naming_eq]
  · rw [hcatalog]
    exact h.once
  · intro name entry hfound
    rw [hcatalog] at hfound
    exact h.origin hfound
  · intro source hmem
    rw [hcatalog]
    exact h.known source hmem
  · intro name
    rw [log_perform, List.countP_append, hannounced, h.announced, hcatalog, Nat.add_zero]

theorem Tracks.perform
    (h : shelf.Tracks naming sources session)
    (act : Act) :
    shelf.Tracks naming (sources ++ shelf.lookedUp [act]) (session.perform act) := by
  unfold Shelf.lookedUp
  cases hsource : shelf.source? act with
  | some source =>
      rw [List.filterMap_cons_some hsource]
      exact h.look hsource
  | none =>
      rw [List.filterMap_cons_none hsource, List.filterMap_nil, List.append_nil]
      exact h.spare hsource

theorem lookedUp_cons
    (shelf : Shelf σ α) (act : Act) (acts : List Act) :
    shelf.lookedUp (act :: acts) = shelf.lookedUp [act] ++ shelf.lookedUp acts :=
  List.filterMap_append (l := [act])

theorem Tracks.performAll
    (h : shelf.Tracks naming sources session)
    (acts : List Act) :
    shelf.Tracks naming (sources ++ shelf.lookedUp acts) (session.performAll acts) := by
  induction acts generalizing session sources with
  | nil =>
      show shelf.Tracks naming (sources ++ []) session
      rwa [List.append_nil]
  | cons act acts ih =>
      rw [lookedUp_cons, ← List.append_assoc]
      exact ih (h.perform act)

theorem Tracks.serves
    (h : shelf.Tracks naming sources session)
    {source : σ}
    (huniform : shelf.Uniform (sources ++ [source])) :
    ((shelf.catalog session).find? (shelf.key source)).getD (shelf.build session.naming source) =
      shelf.build naming source := by
  rw [h.naming_eq]
  cases hfound : (shelf.catalog session).find? (shelf.key source) with
  | none => rfl
  | some entry =>
      rcases h.origin hfound with ⟨other, hother, hname, hentry⟩
      have hsame : other = source :=
        huniform other (List.mem_append_left _ hother) source (by simp) hname
      rw [hentry, hsame]
      rfl

theorem Uniform.mono
    {more : List σ}
    (h : shelf.Uniform more)
    (hsubset : sources ⊆ more) :
    shelf.Uniform sources :=
  fun first hfirst second hsecond => h first (hsubset hfirst) second (hsubset hsecond)

end Shelf
end Criteria
