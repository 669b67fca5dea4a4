import RequestQuery.Proofs.CallHistory
import RequestQuery.Proofs.FilterTree

namespace RequestQuery

/-- What a call that succeeds does: it appends conditions, sort keys and loads, and a page takes the
place of the row window. -/
structure Effect where
  conditions : List Predicate
  orders : List OrderKey
  eagerLoads : List EagerLoad
  page : Option Page

/-- The parts of a query that one call can be about. -/
inductive QueryPart where
  | conditions
  | order
  | window
deriving DecidableEq

namespace Effect

def none : Effect :=
  ⟨[], [], [], .none⟩

def ofCondition (p : Option Predicate) : Effect :=
  { none with conditions := p.toList }

def ofPlan (plan : SortPlan) : Effect :=
  { none with
    orders := plan.steps.filterMap SortStep.order?
    eagerLoads := plan.steps.filterMap SortStep.load? }

def ofPage (page : Page) : Effect :=
  { none with page := page }

def apply (f : Effect) (q : Query) : Query where
  source := q.source
  conditions := q.conditions ++ f.conditions.map fun p => (.and, p)
  orders := q.orders ++ f.orders
  eagerLoads := q.eagerLoads ++ f.eagerLoads
  limit := (f.page.map Page.size).or q.limit
  offset := (f.page.map Page.offset).or q.offset

/-- The effect leaves all other parts alone. -/
structure IsAbout (f : Effect) (part : QueryPart) : Prop where
  conditions : part ≠ .conditions → f.conditions = []
  orders : part ≠ .order → f.orders = []
  eagerLoads : part ≠ .order → f.eagerLoads = []
  page : part ≠ .window → f.page = .none

variable {f g : Effect} {part other : QueryPart} {q : Query}

@[simp] theorem source_apply (f : Effect) (q : Query) : (f.apply q).source = q.source :=
  rfl

@[simp] theorem none_apply (q : Query) : none.apply q = q := by
  simp [none, apply]

theorem ofCondition_apply (p : Option Predicate) (q : Query) :
    (ofCondition p).apply q = q.push? .and p := by
  cases p with
  | none => exact none_apply q
  | some p => simp [ofCondition, none, apply, Query.push?, Query.push_eq_record, Query.record]

theorem ofPlan_apply (plan : SortPlan) (q : Query) : (ofPlan plan).apply q = plan.apply q := by
  simp only [ofPlan, none, SortPlan.apply]
  induction plan.steps generalizing q with
  | nil => exact none_apply q
  | cons step rest ih =>
      rw [List.foldl_cons, ← ih]
      cases step <;>
        simp [apply, SortPlan.applyStep, Query.orderBy, Query.withRelation, List.filterMap_cons,
          SortStep.order?, SortStep.load?]

theorem ofPage_apply (page : Page) (q : Query) : (ofPage page).apply q = page.apply q := by
  simp [ofPage, none, apply, Page.apply, Query.setLimit, Query.setOffset]

theorem isAbout_none (part : QueryPart) : none.IsAbout part :=
  ⟨fun _ => rfl, fun _ => rfl, fun _ => rfl, fun _ => rfl⟩

theorem apply_comm (hf : f.IsAbout part) (hg : g.IsAbout other) (hne : part ≠ other) (q : Query) :
    g.apply (f.apply q) = f.apply (g.apply q) := by
  have hconditions : f.conditions = [] ∨ g.conditions = [] := by
    by_cases h : part = .conditions
    · exact .inr (hg.conditions fun hother => hne (h.trans hother.symm))
    · exact .inl (hf.conditions h)
  have horders : f.orders = [] ∧ f.eagerLoads = [] ∨ g.orders = [] ∧ g.eagerLoads = [] := by
    by_cases h : part = .order
    · have hother : other ≠ .order := fun hother => hne (h.trans hother.symm)
      exact .inr ⟨hg.orders hother, hg.eagerLoads hother⟩
    · exact .inl ⟨hf.orders h, hf.eagerLoads h⟩
  have hpage : f.page = .none ∨ g.page = .none := by
    by_cases h : part = .window
    · exact .inr (hg.page fun hother => hne (h.trans hother.symm))
    · exact .inl (hf.page h)
  simp only [apply, Query.mk.injEq, true_and]
  refine ⟨?_, ?_, ?_, ?_, ?_⟩
  · rcases hconditions with h | h <;> simp [h]
  · rcases horders with h | h <;> simp [h.1]
  · rcases horders with h | h <;> simp [h.2]
  · rcases hpage with h | h <;> simp [h]
  · rcases hpage with h | h <;> simp [h]

end Effect

namespace Engine

/-- The part of a query that a call is about. A request is about all of them. -/
def Call.part? : Call → Option QueryPart
  | .filter _ | .filterSpec _ | .preset _ | .search .. => some .conditions
  | .sort .. => some .order
  | .paginate .. => some .window
  | .request .. => none

def requestPage? (e : Engine) (r : Request) : Option Page :=
  if r.page.isSome || r.perPage.isSome then some (e.resolvePage r.page r.perPage) else none

def planEffect (e : Engine) (r : Request) (plan : RequestPlan) : Effect where
  conditions := plan.preset.toList ++ plan.filters.toList ++ plan.search.toList
  orders := plan.sort.steps.filterMap SortStep.order?
  eagerLoads := plan.sort.steps.filterMap SortStep.load?
  page := e.requestPage? r

/-- What a call does to all queries on a source, or why it fails on them. -/
def effect (e : Engine) (source : Source) : Call → Except QueryError Effect
  | .filter input => ((e.buildInput source input).map .ofCondition).mapError .filter
  | .filterSpec spec => ((e.buildFilter source spec).map .ofCondition).mapError .filter
  | .preset name => ((e.buildPreset source name).map .ofCondition).mapError .filter
  | .search raw fields mode =>
    ((e.buildSearch source raw fields mode).map .ofCondition).mapError .search
  | .sort input allowed =>
    ((SortPlan.ofInput source e.snapshot input allowed).map .ofPlan).mapError .sort
  | .paginate number size => .ok (.ofPage (e.resolvePage number size))
  | .request queryString allowed =>
    let r := e.parseRequest source queryString
    (e.planRequest source r allowed).map (e.planEffect r)

/-- A call appends what it builds and nothing more. Filters, presets and searches record the one
condition that they build, if any, as it is. -/
inductive Changes (e : Engine) (q : Query) : Call → Query → Prop
  | filter {input p} : e.buildInput q.source input = .ok p →
      Changes e q (.filter input)
        { q with conditions := q.conditions ++ p.toList.map fun p => (.and, p) }
  | filterSpec {spec p} : e.buildFilter q.source spec = .ok p →
      Changes e q (.filterSpec spec)
        { q with conditions := q.conditions ++ p.toList.map fun p => (.and, p) }
  | preset {name p} : e.buildPreset q.source name = .ok p →
      Changes e q (.preset name)
        { q with conditions := q.conditions ++ p.toList.map fun p => (.and, p) }
  | search {raw fields mode p} : e.buildSearch q.source raw fields mode = .ok p →
      Changes e q (.search raw fields mode)
        { q with conditions := q.conditions ++ p.toList.map fun p => (.and, p) }
  | sort {input allowed} (orders loads) :
      Changes e q (.sort input allowed)
        { q with orders := q.orders ++ orders, eagerLoads := q.eagerLoads ++ loads }
  | paginate {number size} (limit offset) :
      Changes e q (.paginate number size) { q with limit := limit, offset := offset }
  | request {queryString allowed} (ps : List Predicate) (orders loads limit offset) :
      Changes e q (.request queryString allowed)
        { source := q.source, conditions := q.conditions ++ ps.map fun p => (.and, p),
          orders := q.orders ++ orders, eagerLoads := q.eagerLoads ++ loads,
          limit := limit, offset := offset }

variable {e : Engine} {source : Source} {q : Query}

theorem map_mapError_map {α β γ ε ε' : Type} {f : α → β} {g : β → γ} {k : ε → ε'}
    (x : Except ε α) : ((x.map f).mapError k).map g = (x.map (g ∘ f)).mapError k := by
  cases x <;> rfl

theorem planEffect_apply (e : Engine) (r : Request) (plan : RequestPlan) (q : Query) :
    (e.planEffect r plan).apply q =
      e.paginateRequest
        (plan.sort.apply (((q.push? .and plan.preset).push? .and plan.filters).push? .and
          plan.search)) r := by
  have hpage (q : Query) : ({ Effect.none with page := e.requestPage? r }).apply q =
      e.paginateRequest q r := by
    unfold requestPage? paginateRequest
    split
    · exact Effect.ofPage_apply _ q
    · exact Effect.none_apply q
  rw [← hpage, ← Effect.ofPlan_apply, ← Effect.ofCondition_apply, ← Effect.ofCondition_apply,
    ← Effect.ofCondition_apply]
  simp [planEffect, Effect.apply, Effect.ofCondition, Effect.ofPlan, Effect.none]

/-- A call does the same to all queries on a source. -/
theorem perform_eq_map_effect (e : Engine) (q : Query) (call : Call) :
    e.perform q call = (e.effect q.source call).map fun f => f.apply q := by
  have hcondition : ((fun f : Effect => f.apply q) ∘ Effect.ofCondition) = q.push? .and := by
    funext p
    exact Effect.ofCondition_apply p q
  cases call with
  | filter | filterSpec | preset | search =>
      rw [effect, map_mapError_map, hcondition, perform_eq_match]
  | sort input allowed =>
      have hplan : ((fun f : Effect => f.apply q) ∘ Effect.ofPlan) = fun plan => plan.apply q := by
        funext plan
        exact Effect.ofPlan_apply plan q
      rw [effect, map_mapError_map, hplan, perform_eq_match]
  | paginate number size => exact congrArg Except.ok (Effect.ofPage_apply _ q).symm
  | request queryString allowed =>
      rw [perform_request, applyRequest_eq_map, effect]
      cases e.planRequest q.source (e.parseRequest q.source queryString) allowed with
      | error err => rfl
      | ok plan => exact congrArg Except.ok (planEffect_apply e _ plan q).symm

theorem isAbout_of_effect {call : Call} {part : QueryPart} {f : Effect}
    (hpart : call.part? = some part) (h : e.effect source call = .ok f) : f.IsAbout part := by
  have hcondition {ε : Type} {r : Except ε (Option Predicate)} {k : ε → QueryError}
      (h : (r.map Effect.ofCondition).mapError k = .ok f) : f.IsAbout .conditions := by
    obtain ⟨p, -, rfl⟩ := map_eq_ok_iff.mp (mapError_eq_ok_iff.mp h)
    exact ⟨fun h => absurd rfl h, fun _ => rfl, fun _ => rfl, fun _ => rfl⟩
  cases call with
  | filter | filterSpec | preset | search =>
      cases hpart
      exact hcondition h
  | sort input allowed =>
      cases hpart
      obtain ⟨plan, -, rfl⟩ := map_eq_ok_iff.mp (mapError_eq_ok_iff.mp h)
      exact ⟨fun _ => rfl, fun h => absurd rfl h, fun h => absurd rfl h, fun _ => rfl⟩
  | paginate number size =>
      cases hpart
      cases h
      exact ⟨fun _ => rfl, fun _ => rfl, fun _ => rfl, fun h => absurd rfl h⟩
  | request => cases hpart

theorem changes_of_effect {call : Call} {f : Effect} (h : e.effect q.source call = .ok f) :
    e.Changes q call (f.apply q) := by
  have hcondition {ε : Type} {r : Except ε (Option Predicate)} {k : ε → QueryError}
      (h : (r.map Effect.ofCondition).mapError k = .ok f) : ∃ p, r = .ok p ∧
        f.apply q = { q with conditions := q.conditions ++ p.toList.map fun p => (.and, p) } := by
    obtain ⟨p, hp, rfl⟩ := map_eq_ok_iff.mp (mapError_eq_ok_iff.mp h)
    exact ⟨p, hp, by simp [Effect.ofCondition, Effect.none, Effect.apply]⟩
  cases call with
  | filter input =>
      obtain ⟨p, hp, happly⟩ := hcondition h
      rw [happly]
      exact .filter hp
  | filterSpec spec =>
      obtain ⟨p, hp, happly⟩ := hcondition h
      rw [happly]
      exact .filterSpec hp
  | preset name =>
      obtain ⟨p, hp, happly⟩ := hcondition h
      rw [happly]
      exact .preset hp
  | search raw fields mode =>
      obtain ⟨p, hp, happly⟩ := hcondition h
      rw [happly]
      exact .search hp
  | sort input allowed =>
      obtain ⟨plan, -, rfl⟩ := map_eq_ok_iff.mp (mapError_eq_ok_iff.mp h)
      have hchanges : e.Changes q (.sort input allowed) _ :=
        .sort (Effect.ofPlan plan).orders (Effect.ofPlan plan).eagerLoads
      simpa [Effect.ofPlan, Effect.none, Effect.apply] using hchanges
  | paginate number size =>
      cases h
      have hchanges : e.Changes q (.paginate number size) _ :=
        .paginate (some (e.resolvePage number size).size) (some (e.resolvePage number size).offset)
      simpa [Effect.ofPage, Effect.none, Effect.apply] using hchanges
  | request queryString allowed => exact .request f.conditions f.orders f.eagerLoads _ _

theorem step_eq_apply (e : Engine) (q : Query) (call : Call) :
    e.step q call = ((e.effect q.source call).toOption.getD .none).apply q := by
  rw [step_eq_match, perform_eq_map_effect]
  cases e.effect q.source call with
  | error err => exact (Effect.none_apply q).symm
  | ok f => rfl

def Succeeds (e : Engine) (q : Query) (call : Call) : Prop :=
  ∃ q', e.perform q call = .ok q'

theorem succeeds_iff_of_source_eq (e : Engine) (call : Call) {q q' : Query}
    (h : q'.source = q.source) : e.Succeeds q' call ↔ e.Succeeds q call := by
  simp only [Succeeds, perform_eq_map_effect, exists_map_eq_ok_iff, h]

theorem step_comm {d : Engine} {a b : Call} {part other : QueryPart} (ha : a.part? = some part)
    (hb : b.part? = some other) (hne : part ≠ other) (q : Query) :
    d.step (e.step q a) b = e.step (d.step q b) a := by
  have habout {e : Engine} {call : Call} {part : QueryPart} (hpart : call.part? = some part) :
      ((e.effect q.source call).toOption.getD .none).IsAbout part := by
    cases heffect : e.effect q.source call with
    | error err => exact Effect.isAbout_none part
    | ok f => exact isAbout_of_effect hpart heffect
  simp only [step_eq_apply, Effect.source_apply]
  exact Effect.apply_comm (habout ha) (habout hb) hne q

end Engine

namespace Query

/-- A query that has all of the first one at its start. The row window may have changed. -/
structure IsStartOf (q q' : Query) : Prop where
  source : q'.source = q.source
  conditions : q.conditions <+: q'.conditions
  orders : q.orders <+: q'.orders
  eagerLoads : q.eagerLoads <+: q'.eagerLoads

variable {q : Query}

theorem IsStartOf.refl (q : Query) : q.IsStartOf q :=
  ⟨rfl, List.prefix_rfl, List.prefix_rfl, List.prefix_rfl⟩

theorem IsStartOf.trans {q' q'' : Query} (h : q.IsStartOf q') (h' : q'.IsStartOf q'') :
    q.IsStartOf q'' where
  source := h'.source.trans h.source
  conditions := h.conditions.trans h'.conditions
  orders := h.orders.trans h'.orders
  eagerLoads := h.eagerLoads.trans h'.eagerLoads

theorem IsStartOf.apply (f : Effect) (q : Query) : q.IsStartOf (f.apply q) :=
  ⟨rfl, List.prefix_append _ _, List.prefix_append _ _, List.prefix_append _ _⟩

/-- The calls of a history without those that fail. -/
def successful (q : Query) : List (Engine × Engine.Call) → List (Engine × Engine.Call)
  | [] => []
  | (e, call) :: rest =>
    match e.perform q call with
    | .ok q' => (e, call) :: successful q' rest
    | .error _ => successful q rest

theorem after_append (q : Query) (done rest : List (Engine × Engine.Call)) :
    q.after (done ++ rest) = (q.after done).after rest :=
  List.foldl_append

theorem after_singleton (q : Query) (call : Engine × Engine.Call) :
    q.after [call] = call.1.step q call.2 :=
  rfl

theorem isStartOf_after (q : Query) (history : List (Engine × Engine.Call)) :
    q.IsStartOf (q.after history) := by
  refine after_induction (motive := q.IsStartOf) (.refl q) fun q' call _ hstart => ?_
  rw [Engine.step_eq_apply]
  exact hstart.trans (.apply _ q')

theorem foldlM_successful (q : Query) (history : List (Engine × Engine.Call)) :
    (q.successful history).foldlM (fun q call => call.1.perform q call.2) q =
      .ok (q.after history) := by
  induction history generalizing q with
  | nil => rfl
  | cons head rest ih =>
      obtain ⟨e, call⟩ := head
      have hafter : q.after ((e, call) :: rest) = (e.step q call).after rest := rfl
      rw [successful, hafter, Engine.step_eq_match]
      cases hperform : e.perform q call with
      | error err => exact ih q
      | ok q' =>
          rw [List.foldlM_cons, hperform]
          exact ih q'

/-- In a history, a call that succeeds changes only what it is about, and one that fails changes
nothing. All that a query holds at some point stays at the start of what it holds later, the calls
that fail make no difference to the others, and neither does the order of two neighbours about
different parts. -/
theorem changes_after (q : Query) (history : List (Engine × Engine.Call)) :
    (∀ done call rest, history = done ++ call :: rest →
      match call.1.perform (q.after done) call.2 with
      | .ok q' => q.after (done ++ [call]) = q' ∧ call.1.Changes (q.after done) call.2 q'
      | .error _ => q.after (done ++ [call]) = q.after done) ∧
    (∀ done rest, history = done ++ rest → (q.after done).IsStartOf (q.after history)) ∧
    (q.successful history).foldlM (fun q call => call.1.perform q call.2) q =
      .ok (q.after history) ∧
    ∀ done a b rest part other, history = done ++ a :: b :: rest → a.2.part? = some part →
      b.2.part? = some other → part ≠ other →
      (b.1.Succeeds (q.after done) b.2 ↔ b.1.Succeeds (q.after (done ++ [a])) b.2) ∧
      (a.1.Succeeds (q.after (done ++ [b])) a.2 ↔ a.1.Succeeds (q.after done) a.2) ∧
      q.after (done ++ b :: a :: rest) = q.after history := by
  refine ⟨?_, ?_, foldlM_successful q history, ?_⟩
  · intro done call rest _
    rw [after_append, after_singleton, Engine.step_eq_match]
    cases hperform : call.1.perform (q.after done) call.2 with
    | error err => rfl
    | ok q' =>
        rw [Engine.perform_eq_map_effect] at hperform
        obtain ⟨f, hf, rfl⟩ := map_eq_ok_iff.mp hperform
        exact ⟨rfl, Engine.changes_of_effect hf⟩
  · rintro done rest rfl
    rw [after_append]
    exact isStartOf_after (q.after done) rest
  · rintro done a b rest part other rfl ha hb hne
    have hsource (call : Engine × Engine.Call) :
        (q.after (done ++ [call])).source = (q.after done).source := by
      rw [after_append]
      exact (isStartOf_after (q.after done) [call]).source
    refine ⟨(Engine.succeeds_iff_of_source_eq b.1 b.2 (hsource a)).symm,
      Engine.succeeds_iff_of_source_eq a.1 a.2 (hsource b), ?_⟩
    have hcomm : (q.after done).after [b, a] = (q.after done).after [a, b] :=
      Engine.step_comm hb ha hne.symm (q.after done)
    calc q.after (done ++ b :: a :: rest)
        = ((q.after done).after [b, a]).after rest := after_append q done (b :: a :: rest)
      _ = ((q.after done).after [a, b]).after rest := by rw [hcomm]
      _ = q.after (done ++ a :: b :: rest) := (after_append q done (a :: b :: rest)).symm

theorem changes_after_posts :
    let e : Engine := ⟨FilterContext.posts.snapshot, [], 0⟩
    let done : List (Engine × Engine.Call) :=
      [(e, .filter (.object [("replies.author.name", .string "a")])),
        (e, .filter (.object [("ghost.name", .string "b")])),
        (e, .search "quick fox" none (some "or"))]
    let sort : Engine × Engine.Call := (e, .sort (.delimited "-author.name,title") none)
    let page : Engine × Engine.Call := (e, .paginate (some 3) none)
    let q := ofSource Source.posts
    (q.after (done ++ [sort, page])).conditions.length = 2 ∧
      sort.2.part? = some .order ∧ page.2.part? = some .window ∧
      q.after (done ++ [page, sort]) = q.after (done ++ [sort, page]) := by
  intro e done sort page q
  have hconditions : (q.after (done ++ [sort, page])).conditions.length = 2 := by decide +kernel
  have hne : QueryPart.order ≠ .window := by decide
  exact ⟨hconditions, rfl, rfl,
    ((changes_after q (done ++ [sort, page])).2.2.2 done sort page [] .order .window rfl rfl rfl
      hne).2.2⟩

end Query

end RequestQuery
