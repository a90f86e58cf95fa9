import Criteria.Proofs.Compilation.Shelves

/-!
# Catalogs along runs

If all sources that are looked up under one name are the same, a session cannot be told from a fresh
one by its answers, and after a run each catalog holds what is built from the sources that were
looked up.  If they are not, the entry that is installed first stays in force.
-/

namespace Criteria

/-!
# Shelves that hold their sources
-/

namespace Shelf

open Session

variable {σ α : Type}
variable {shelf : Shelf σ α} {naming : Naming} {session : Session} {sources : List σ}

/-- There is one entry for each name of the sources, built from the source of that name and announced
once. -/
structure Holds (shelf : Shelf σ α) (naming : Naming) (sources : List σ) (session : Session) :
    Prop where
  once : ((shelf.catalog session).entries.map Prod.fst).Nodup
  mem_iff : ∀ {name : String} {entry : α}, (name, entry) ∈ (shelf.catalog session).entries ↔
    ∃ source ∈ sources, shelf.key source = name ∧ entry = shelf.build naming source
  announced : ∀ source ∈ sources,
    session.log.countP (Event.announces shelf.message (shelf.key source)) = 1
  silent : ∀ name, (∀ source ∈ sources, shelf.key source ≠ name) ->
    session.log.countP (Event.announces shelf.message name) = 0

theorem Tracks.holds
    (h : shelf.Tracks naming sources session)
    (huniform : shelf.Uniform sources) :
    shelf.Holds naming sources session := by
  constructor
  · exact h.once
  · intro name entry
    rw [Catalog.mem_entries_iff h.once]
    constructor
    · exact h.origin
    · rintro ⟨source, hsource, hname, hentry⟩
      cases hfound : (shelf.catalog session).find? name with
      | none =>
          rw [← hname] at hfound
          exact absurd hfound (h.known source hsource)
      | some found =>
          rcases h.origin hfound with ⟨other, hother, hnamed, hbuilt⟩
          have hsame : other = source :=
            huniform other hother source hsource (hnamed.trans hname.symm)
          rw [hbuilt, hentry, hsame]
  · intro source hsource
    rw [h.announced, if_neg (h.known source hsource)]
  · intro name hname
    rw [h.announced]
    cases hfound : (shelf.catalog session).find? name with
    | none => rfl
    | some found =>
        rcases h.origin hfound with ⟨other, hother, hnamed, _⟩
        exact absurd hnamed (hname other hother)

/-!
# Entries in force
-/

/-- A name without entry gets that of the source which is looked up first.  Every entry of the first
session is found in the second, and answered to whoever looks up its name. -/
structure Rules (shelf : Shelf σ α) (before after : Session) : Prop where
  first : ∀ {source : σ}, (shelf.catalog before).find? (shelf.key source) = none ->
    (shelf.catalog (Session.after (shelf.look source) before)).find? (shelf.key source) =
      some (shelf.build before.naming source)
  kept : ∀ {name : String} {entry : α}, (shelf.catalog before).find? name = some entry ->
    (shelf.catalog after).find? name = some entry
  answered : ∀ {source : σ} {entry : α},
    (shelf.catalog before).find? (shelf.key source) = some entry ->
      answer (shelf.look source) after = entry

theorem rules_of_kept
    {before : Session}
    (h : ∀ {name : String} {entry : α}, (shelf.catalog before).find? name = some entry ->
      (shelf.catalog session).find? name = some entry) :
    shelf.Rules before session := by
  constructor
  · intro source hmissing
    rcases shelf.after_look source before with ⟨act, hsource, hafter⟩
    have hcatalog := shelf.catalog_perform before act
    simp only [hsource] at hcatalog
    rw [hafter, hcatalog, Catalog.find?_install, hmissing, if_pos rfl]
    rfl
  · exact h
  · intro source entry hbefore
    rw [shelf.answer_look, h hbefore]
    rfl

theorem Rules.composes
    (shelf : Shelf σ α) :
    Composes shelf.Rules := by
  constructor
  · intro session
    exact rules_of_kept id
  · intro first second third h h'
    exact rules_of_kept fun hfirst => h'.kept (h.kept hfirst)

theorem rules_perform
    (shelf : Shelf σ α) (session : Session) (act : Act) :
    shelf.Rules session (session.perform act) := by
  refine rules_of_kept ?_
  intro name entry hfound
  rw [shelf.catalog_perform]
  cases shelf.source? act with
  | none => exact hfound
  | some source =>
      show ((shelf.catalog session).install _ _).find? name = some entry
      rw [Catalog.find?_install, hfound]
      rfl

theorem rules_runAll
    (shelf : Shelf σ α)
    (hcondition : ∀ query, Keeps shelf.Rules (condition query))
    (hreport : ∀ events, Keeps shelf.Rules (report events))
    (operations : List Operation) :
    Keeps shelf.Rules (Operation.runAll operations) := by
  have hcomposes := Rules.composes shelf
  refine keeps_runAll hcomposes ?_
  intro operation _
  refine keeps_run hcomposes ?_ ?_ ?_ ?_
  · intro type _ session
    exact shelf.rules_perform session (.plan type)
  · intro entity _ session
    exact shelf.rules_perform session (.layout entity)
  · intro query _
    exact hcondition query
  · exact keeps_orderBy hcomposes hreport

theorem rules_plans_runAll
    (operations : List Operation) :
    Keeps plans.Rules (Operation.runAll operations) := by
  refine rules_runAll plans ?_ ?_ operations
  · intro query session
    exact rules_of_kept (grows_condition query session).kept
  · intro events session
    exact rules_of_kept id

theorem rules_layouts_runAll
    (operations : List Operation) :
    Keeps layouts.Rules (Operation.runAll operations) := by
  refine rules_runAll layouts ?_ ?_ operations
  · intro query session
    refine rules_of_kept ?_
    intro name entry hfound
    show (after (condition query) session).layouts.find? name = some entry
    rw [(computes_condition query).layouts]
    exact hfound
  · intro events session
    exact rules_of_kept id

end Shelf

/-!
# Runs of operations
-/

namespace Session

open Criteria.Shelf

variable {naming : Naming}

theorem follows_of_uniform
    {session : Session} {types : List QueryType} {entities : List Entity} {acts : List Act}
    (hplans : Shelf.plans.Tracks naming types session)
    (hlayouts : Shelf.layouts.Tracks naming entities session)
    (htypes : Shelf.plans.Uniform (types ++ Shelf.plans.lookedUp acts))
    (hentities : Shelf.layouts.Uniform (entities ++ Shelf.layouts.lookedUp acts)) :
    Follows naming session acts := by
  induction acts generalizing session types entities with
  | nil => exact trivial
  | cons act acts ih =>
      rw [lookedUp_cons, ← List.append_assoc] at htypes hentities
      refine ⟨?_, ih (hplans.perform act) (hlayouts.perform act) htypes hentities⟩
      cases act with
      | plan type => exact hplans.serves (htypes.mono (List.subset_append_left _ _))
      | layout entity => exact hlayouts.serves (hentities.mono (List.subset_append_left _ _))
      | misfit typeName field => exact hplans.naming_eq
      | ignoreHop typeName field index path => exact hplans.naming_eq
      | dropKeys faults => exact hplans.naming_eq

theorem performs_runAll
    {value : Operation -> Answer}
    (h : ∀ operation : Operation,
      Performs naming operation.run (operation.acts naming) (value operation))
    (operations : List Operation) :
    Performs naming (Operation.runAll operations)
      (operations.flatMap (Operation.acts naming)) (operations.map value) := by
  induction operations with
  | nil => exact .pure naming []
  | cons operation operations ih => exact (h operation).bind (ih.map _)

theorem after_runAll_append
    (operations later : List Operation) (session : Session) :
    after (Operation.runAll (operations ++ later)) session =
      after (Operation.runAll later) (after (Operation.runAll operations) session) := by
  induction operations generalizing session with
  | nil => rfl
  | cons operation operations ih => exact ih (after operation.run session)

/-!
# Transparency
-/

theorem catalogs_transparent
    (naming : Naming) (operations later : List Operation) :
    let acts := operations.flatMap (Operation.acts naming)
    let types := Shelf.plans.lookedUp acts
    let entities := Shelf.layouts.lookedUp acts
    let session := reached naming operations
    let final := reached naming (operations ++ later)
    (Shelf.plans.Uniform types -> Shelf.layouts.Uniform entities ->
        answer (Operation.runAll operations) (fresh naming) =
            operations.map (fun operation => answer operation.run (fresh naming)) ∧
          session = (fresh naming).performAll acts ∧
            Shelf.plans.Holds naming types session ∧
              Shelf.layouts.Holds naming entities session) ∧
      Shelf.plans.Rules session final ∧
        Shelf.layouts.Rules session final ∧
          ∀ query, answer (condition query) final =
              conjunction (query.clausesBy (after (condition query) final).planOf) ∧
            ∀ {type : QueryType} {plan : Plan}, session.plans.find? type.name = some plan ->
              (after (condition query) final).planOf type = plan := by
  intro acts types entities session final
  have hfinal : final = after (Operation.runAll later) session :=
    after_runAll_append operations later (fresh naming)
  rw [hfinal]
  have hplans := rules_plans_runAll later session
  refine ⟨?_, hplans, rules_layouts_runAll later session, ?_⟩
  · intro htypes hentities
    have hnoPlans := Shelf.plans.tracks_fresh naming
    have hnoLayouts := Shelf.layouts.tracks_fresh naming
    rcases Classical.axiomOfChoice (performs_run naming) with ⟨value, hvalue⟩
    have hall := performs_runAll hvalue operations
    have hfollows : Follows naming (fresh naming) acts :=
      follows_of_uniform hnoPlans hnoLayouts htypes hentities
    have hsession : session = (fresh naming).performAll acts := hall.after_eq hfollows
    refine ⟨?_, hsession, ?_, ?_⟩
    · rw [hall.answer_eq hfollows]
      refine List.map_congr_left ?_
      intro operation hoperation
      have hwithin : operation.acts naming ⊆ acts :=
        fun act hact => List.mem_flatMap.mpr ⟨operation, hoperation, hact⟩
      have halone : Follows naming (fresh naming) (operation.acts naming) :=
        follows_of_uniform hnoPlans hnoLayouts
          (htypes.mono (List.filterMap_subset _ hwithin))
          (hentities.mono (List.filterMap_subset _ hwithin))
      exact ((hvalue operation).answer_eq halone).symm
    · rw [hsession]
      exact (hnoPlans.performAll acts).holds htypes
    · rw [hsession]
      exact (hnoLayouts.performAll acts).holds hentities
  · intro query
    refine ⟨condition_eq query _, ?_⟩
    intro type plan hfound
    unfold planOf
    rw [(grows_condition query _).kept (hplans.kept hfound)]
    rfl

def bookEntity : Entity :=
  .mk "BookEntity" "BookEntity" none [.mk "id" none .identity, .mk "title" none .column]

def shelvedAuthors : List Operation :=
  let authorTypes : FieldType × FieldType :=
    (⟨"name_start", none, .scalar⟩, ⟨"books_or", none, .group .or .queries⟩)
  let bookTypes : FieldType × FieldType :=
    (⟨"author", none, .path "book->author_id,author"⟩, ⟨"sequel_and", none, .group .and .ofQuery⟩)
  let author := fun name books => Query.mk "AuthorQuery"
    [.mk authorTypes.1 name, .mk authorTypes.2 books] none
  let book := fun writer sequel => Query.mk "BookQuery"
    [.mk bookTypes.1 writer, .mk bookTypes.2 sequel] none
  let bare := author (.scalar (.text "A")) .absent
  let last := book (.query bare) .absent
  let nested := author .absent (.queries [book .absent (.query last), last])
  [.condition nested, .select bookEntity last, .plan bare.type, .selectById bookEntity (.int 3)]

theorem catalogs_transparent_shelvedAuthors :
    let acts := shelvedAuthors.flatMap (Operation.acts {})
    Shelf.plans.Uniform (Shelf.plans.lookedUp acts) ∧
      Shelf.layouts.Uniform (Shelf.layouts.lookedUp acts) ∧
        answer (Operation.runAll shelvedAuthors) (fresh {}) =
            shelvedAuthors.map (fun operation => answer operation.run (fresh {})) ∧
          Shelf.plans.Holds {} (Shelf.plans.lookedUp acts) (reached {} shelvedAuthors) := by
  intro acts
  have htypes : Shelf.plans.Uniform (Shelf.plans.lookedUp acts) := by
    unfold Shelf.Uniform
    decide +kernel
  have hentities : Shelf.layouts.Uniform (Shelf.layouts.lookedUp acts) := by
    have hlooked : Shelf.layouts.lookedUp acts = [bookEntity, bookEntity] := by rfl
    rw [hlooked]
    intro first hfirst second hsecond _
    simp_all
  have h := (catalogs_transparent {} shelvedAuthors []).left htypes hentities
  exact ⟨htypes, hentities, h.left, h.right.right.left⟩

end Session
end Criteria
