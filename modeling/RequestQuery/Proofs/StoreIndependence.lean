import RequestQuery.Proofs.CallEffects
import RequestQuery.Proofs.Placeholders
import RequestQuery.Proofs.SortSteps
import RequestQuery.Proofs.Writability

namespace RequestQuery

open Json (Value)

namespace Predicate

mutual

/-- The condition with a case-insensitive match in place of each plain one that lowers both
sides. -/
def native : Predicate → Predicate
  | pattern column .like text true => pattern column .ilike text false
  | pattern column .notLike text true => pattern column .notIlike text false
  | related relation inner => related relation inner.native
  | group connective members => group connective (natives members)
  | p => p

def natives : List Predicate → List Predicate
  | [] => []
  | p :: rest => p.native :: natives rest

end

theorem natives_eq_map (members : List Predicate) : natives members = members.map native := by
  induction members with
  | nil => rfl
  | cons p rest ih => rw [natives, ih, List.map_cons]

theorem native_group (c : Connective) (members : List Predicate) :
    (group c members).native = group c (members.map native) := by
  rw [native, natives_eq_map]

theorem map_native_join (c : Connective) (ps : List Predicate) :
    (join c ps).map native = join c (ps.map native) := by
  match ps with
  | [] => rfl
  | [p] => rfl
  | p :: q :: rest => exact congrArg some (native_group c (p :: q :: rest))

theorem native_foldr_related (relations : List String) (inner : Predicate) :
    (relations.foldr related inner).native = relations.foldr related inner.native := by
  induction relations with
  | nil => rfl
  | cons relation rest ih => rw [List.foldr_cons, native, ih, List.foldr_cons]

theorem boundValues_native (p : Predicate) : p.native.boundValues = p.boundValues := by
  induction p with
  | compare | member | between | null => rfl
  | pattern column op text caseInsensitive => cases op <;> cases caseInsensitive <;> rfl
  | related relation inner ih => rw [native, boundValues, ih, boundValues]
  | group c members ih =>
      rw [native_group, boundValues, boundValues, boundValuesOf_eq_flatMap,
        boundValuesOf_eq_flatMap, List.flatMap_map]
      exact List.flatMap_congr ih

end Predicate

theorem Predicate.map_native_flatMap_toList (rs : List (Option Predicate)) :
    (rs.flatMap Option.toList).map native = (rs.map (Option.map native)).flatMap Option.toList := by
  rw [List.map_flatMap, List.flatMap_map]
  congr 1
  funext r
  cases r <;> rfl

theorem Predicate.map_native_mapM {α ε : Type} {f g : α → Except ε (Option Predicate)} {as : List α}
    (h : ∀ a ∈ as, g a = (f a).map (Option.map native)) :
    (as.mapM g).map (List.flatMap Option.toList) =
      ((as.mapM f).map (List.flatMap Option.toList)).map (List.map native) := by
  rw [mapM_eq_map_mapM h]
  exact (map_map_of_comm _ _ map_native_flatMap_toList _).symm

namespace OperatorSite

variable (site : OperatorSite) (rule : Option CastRule) (op : StoreOperator) (column : String)

theorem map_native_comparison (v : Value) :
    (site.comparison rule op column v).map Predicate.native =
      site.comparison rule op column v := by
  unfold comparison
  split
  · split <;> rfl
  · cases site.cast rule v <;> rfl

theorem map_native_pattern (style : PatternStyle) (v : Value) :
    (site.pattern false op style column v).map Predicate.native =
      site.pattern true op style column v := by
  unfold pattern
  cases Operand.text? v with
  | none => rfl
  | some text => cases op <;> rfl

theorem map_native_membership (dedupe : Bool) (values : List Value) :
    (site.membership rule dedupe op column values).map Predicate.native =
      site.membership rule dedupe op column values := by
  unfold membership
  cases site.castAll rule values <;> rfl

theorem map_native_range (strict : Bool) (low high : Value) :
    (site.range rule strict op column low high).map Predicate.native =
      site.range rule strict op column low high := by
  unfold range
  cases site.cast rule low with
  | error e => rfl
  | ok low =>
      cases site.cast rule high with
      | error e => rfl
      | ok high =>
          dsimp only
          cases site.checkBounds strict low high <;> rfl

theorem map_native_relativeDate (snapshot : Snapshot) (now : Int) (period : Period)
    (operand : Operand) :
    (site.relativeDate snapshot now op period column operand).map Predicate.native =
      site.relativeDate snapshot now op period column operand := by
  unfold relativeDate
  cases site.dayCount operand with
  | error e => rfl
  | ok count =>
      dsimp only
      cases period.textRange? count now snapshot.zone snapshot.settings.dates.pattern <;> rfl

end OperatorSite

/-- The same model of the same catalog in another store. -/
def Source.on (s : Source) (d : Dialect) : Source :=
  { s with dialect := d }

namespace FilterContext

def on (ctx : FilterContext) (d : Dialect) : FilterContext :=
  { ctx with source := ctx.source.on d }

@[simp] theorem snapshot_on (ctx : FilterContext) (d : Dialect) :
    (ctx.on d).snapshot = ctx.snapshot :=
  rfl

@[simp] theorem handlers_on (ctx : FilterContext) (d : Dialect) :
    (ctx.on d).handlers = ctx.handlers :=
  rfl

@[simp] theorem checkField_on (ctx : FilterContext) (d : Dialect) :
    (ctx.on d).checkField = ctx.checkField :=
  rfl

@[simp] theorem checkDepth_on (ctx : FilterContext) (d : Dialect) :
    (ctx.on d).checkDepth = ctx.checkDepth :=
  rfl

variable {ctx : FilterContext}

theorem applyShaped_postgres (site : OperatorSite) (rule : Option CastRule) (o : Operator)
    (column : String) (operand : Operand) :
    (ctx.on .postgres).applyShaped site rule o column operand =
      ((ctx.on .sqlite).applyShaped site rule o column operand).map Predicate.native := by
  symm
  simp only [applyShaped]
  split
  · exact site.map_native_comparison ..
  · exact site.map_native_pattern ..
  · exact site.map_native_membership ..
  · exact site.map_native_range ..
  · rfl
  · exact site.map_native_relativeDate ..
  · rfl

section

variable (hhandlers : ctx.handlers = [])
include hhandlers

theorem applyOperator_postgres (m : Model) (column key : String) (v : Value) (path : String) :
    (ctx.on .postgres).applyOperator m column key v path =
      ((ctx.on .sqlite).applyOperator m column key v path).map Predicate.native := by
  have hnone (d : Dialect) (site : OperatorSite) (name : String) :
      (ctx.on d).applyHandler site name column v =
        .error (.unsupportedOperator site.path site.key) := by
    simp [applyHandler, hhandlers]
  simp only [applyOperator, snapshot_on, hnone]
  cases ctx.snapshot.operators.get? key with
  | none =>
      dsimp only
      cases ctx.snapshot.settings.customFilters.lookup key <;> rfl
  | some o =>
      dsimp only
      cases Operand.ofValue o.kind.shape v with
      | error found => rfl
      | ok operand => exact applyShaped_postgres ..

theorem applyCondition_postgres (m : Model) (column : String) (condition : Condition)
    (path : String) :
    (ctx.on .postgres).applyCondition m column condition path =
      ((ctx.on .sqlite).applyCondition m column condition path).map
        (Option.map Predicate.native) := by
  have hoperator := applyOperator_postgres hhandlers m column
  have hsingle (key : String) (v : Value) :
      ((ctx.on .postgres).applyOperator m column key v path).map some =
        (((ctx.on .sqlite).applyOperator m column key v path).map some).map
          (Option.map Predicate.native) := by
    rw [hoperator]
    cases (ctx.on .sqlite).applyOperator m column key v path <;> rfl
  cases condition with
  | operators c entries =>
      rw [applyCondition, applyCondition, applyOperators_eq_mapM, applyOperators_eq_mapM,
        mapM_eq_map_mapM fun e _ => hoperator e.1 e.2 path]
      exact (map_map_of_comm _ _ (Predicate.map_native_join c) _).symm
  | literal v =>
      cases v with
      | null => rfl
      | array items =>
          simp only [applyCondition, applyLiteral]
          cases Operand.dropBlank items with
          | nil => rfl
          | cons item rest => exact hsingle "in" _
      | _ => exact hsingle "eq" _

theorem evalField_postgres (depth : Nat) (f : FieldFilter) :
    (ctx.on .postgres).evalField depth f =
      ((ctx.on .sqlite).evalField depth f).map (Option.map Predicate.native) := by
  have hsource (d : Dialect) : (ctx.on d).source.catalog = ctx.source.catalog ∧
      (ctx.on d).source.model = ctx.source.model := ⟨rfl, rfl⟩
  simp only [evalField, evalDotted, checkField_on, checkDepth_on, (hsource _).1, (hsource _).2,
    applyCondition_postgres hhandlers]
  cases ctx.checkField f.path with
  | error e => rfl
  | ok _ =>
      dsimp only
      split
      · cases FieldPath.resolve ctx.source.catalog ctx.source.model f.path with
        | error e => rfl
        | ok p =>
            dsimp only
            cases ctx.checkDepth f.path (depth + p.depth) with
            | error e => rfl
            | ok _ =>
                refine (map_map_of_comm _ _ (fun inner => ?_) _).symm
                cases inner with
                | none => rfl
                | some q => exact congrArg some (Predicate.native_foldr_related p.relations q)
      · rfl

theorem evalNode_postgres (n : FilterNode) : ∀ depth, (ctx.on .postgres).evalNode depth n =
    ((ctx.on .sqlite).evalNode depth n).map (Option.map Predicate.native) := by
  induction n using FilterNode.treeInduction (G := fun g => ∀ depth,
    (ctx.on .postgres).evalGroup depth g =
      ((ctx.on .sqlite).evalGroup depth g).map (Option.map Predicate.native)) with
  | field f => exact fun depth => evalField_postgres hhandlers depth f
  | group g ih => exact fun depth => ih (depth + 1)
  | mk c filters nested ihf ihg =>
      rename_i depth
      have hmembers : (ctx.on .postgres).evalNodes depth filters =
          ((ctx.on .sqlite).evalNodes depth filters).map (List.map Predicate.native) := by
        rw [evalNodes_eq_mapM, evalNodes_eq_mapM]
        exact Predicate.map_native_mapM fun n hn => ihf n hn depth
      have hgroups : (ctx.on .postgres).evalGroups (depth + 1) nested =
          ((ctx.on .sqlite).evalGroups (depth + 1) nested).map (List.map Predicate.native) := by
        rw [evalGroups_eq_mapM, evalGroups_eq_mapM]
        exact Predicate.map_native_mapM fun g hg => ihg g hg (depth + 1)
      simp only [evalGroup, checkDepth_on, hmembers, hgroups]
      cases ctx.checkDepth FilterSpec.groupKey depth with
      | error e => rfl
      | ok _ =>
          dsimp only
          cases (ctx.on .sqlite).evalNodes depth filters with
          | error e => rfl
          | ok members =>
              refine (map_map_of_comm _ _ (fun groups => ?_) _).symm
              rw [Predicate.map_native_join, List.map_append, ← Predicate.map_native_join]
              cases Predicate.join c members <;> rfl

theorem evaluate_postgres (spec : FilterSpec) :
    (ctx.on .postgres).evaluate spec =
      ((ctx.on .sqlite).evaluate spec).map (Option.map Predicate.native) := by
  have hnodes : (ctx.on .postgres).evalNodes 0 spec =
      ((ctx.on .sqlite).evalNodes 0 spec).map (List.map Predicate.native) := by
    rw [evalNodes_eq_mapM, evalNodes_eq_mapM]
    exact Predicate.map_native_mapM fun n _ => evalNode_postgres hhandlers n 0
  have hevaluate (d : Dialect) : (ctx.on d).evaluate spec =
      if ctx.snapshot.settings.maxFilters < spec.length then
        .error (.tooMany spec.length ctx.snapshot.settings.maxFilters)
      else ((ctx.on d).evalNodes 0 spec).map (Predicate.join .and) := rfl
  rw [hevaluate, hevaluate, hnodes]
  split
  · rfl
  · exact (map_map_of_comm _ _ (Predicate.map_native_join .and) _).symm

end

end FilterContext

namespace Search

variable (source : Source)

theorem resolveFields_on (d : Dialect) (fields : List String) :
    resolveFields (source.on d) fields = resolveFields source fields := by
  induction fields with
  | nil => rfl
  | cons field rest ih =>
      rw [resolveFields, resolveFields, ih]
      rfl

theorem map_native_termPredicate (caseSensitive : Bool) (paths : List FieldPath) (term : String) :
    (termPredicate (matcher caseSensitive false).1 (matcher caseSensitive false).2 paths term).map
        Predicate.native =
      termPredicate (matcher caseSensitive true).1 (matcher caseSensitive true).2 paths term := by
  rw [termPredicate, Predicate.map_native_join, List.map_map]
  congr 2
  funext p
  rw [Function.comp_apply, fieldPredicate, FieldPath.wrap, Predicate.native_foldr_related]
  cases caseSensitive <;> rfl

theorem predicate_postgres (terms fields : List String) (mode : Connective)
    (caseSensitive : Bool) :
    predicate (source.on .postgres) terms fields mode caseSensitive =
      (predicate (source.on .sqlite) terms fields mode caseSensitive).map
        (Option.map Predicate.native) := by
  simp only [predicate, resolveFields_on]
  split
  · rfl
  · cases resolveFields source fields with
    | error e => rfl
    | ok paths =>
        refine congrArg Except.ok ?_
        dsimp only
        rw [Predicate.map_native_join, List.map_filterMap]
        simp only [Source.on, Dialect.hasNativeIlike, map_native_termPredicate]

theorem build_postgres (settings : SearchSettings) (raw : String) (fields : Option (List String))
    (mode : Option String) :
    build (source.on .postgres) settings raw fields mode =
      (build (source.on .sqlite) settings raw fields mode).map (Option.map Predicate.native) := by
  unfold build
  split
  · rfl
  · split
    · rfl
    · rfl
    · exact predicate_postgres source ..

end Search

namespace SortPlan

variable (source : Source) (d : Dialect) (snapshot : Snapshot) (allowed : Option AllowedSorts)

theorem parseAll_on (raws : List String) :
    parseAll (source.on d) snapshot allowed raws = parseAll source snapshot allowed raws := by
  induction raws with
  | nil => rfl
  | cons raw rest ih =>
      rw [parseAll, parseAll, ih]
      rfl

theorem stepsFor_on (ds : List SortDirective) :
    stepsFor (source.on d) allowed ds = stepsFor source allowed ds := by
  have hsteps : directiveSteps (source.on d) allowed = directiveSteps source allowed := rfl
  rw [stepsFor_eq_mapM, stepsFor_eq_mapM, hsteps]

theorem ofInput_on (input : SortInput) :
    ofInput (source.on d) snapshot input allowed = ofInput source snapshot input allowed := by
  simp only [ofInput, parseAll_on, stepsFor_on]

end SortPlan

def Effect.native (f : Effect) : Effect :=
  { f with conditions := f.conditions.map Predicate.native }

namespace Engine

def RequestPlan.native (plan : RequestPlan) : RequestPlan where
  preset := plan.preset.map Predicate.native
  filters := plan.filters.map Predicate.native
  search := plan.search.map Predicate.native
  sort := plan.sort

variable {e : Engine} (source : Source)

theorem buildSearch_postgres (raw : String) (fields : Option (List String)) (mode : Option String) :
    e.buildSearch (source.on .postgres) raw fields mode =
      (e.buildSearch (source.on .sqlite) raw fields mode).map (Option.map Predicate.native) :=
  Search.build_postgres source ..

theorem requestSearch_postgres (r : Request) :
    e.requestSearch (source.on .postgres) r =
      (e.requestSearch (source.on .sqlite) r).map (Option.map Predicate.native) := by
  unfold requestSearch
  cases r.search with
  | none => rfl
  | some raw => exact buildSearch_postgres source ..

section

variable (hhandlers : e.handlers = [])
include hhandlers

theorem buildFilter_postgres (spec : FilterSpec) :
    e.buildFilter (source.on .postgres) spec =
      (e.buildFilter (source.on .sqlite) spec).map (Option.map Predicate.native) :=
  @FilterContext.evaluate_postgres (e.filterContext source) hhandlers spec

theorem buildInput_postgres (input : Value) :
    e.buildInput (source.on .postgres) input =
      (e.buildInput (source.on .sqlite) input).map (Option.map Predicate.native) := by
  unfold buildInput
  split
  · rfl
  · exact buildFilter_postgres source hhandlers _

theorem buildPreset_postgres (name : String) :
    e.buildPreset (source.on .postgres) name =
      (e.buildPreset (source.on .sqlite) name).map (Option.map Predicate.native) := by
  unfold buildPreset
  split
  · rfl
  · exact buildInput_postgres source hhandlers _

theorem requestPreset_postgres (r : Request) :
    e.requestPreset (source.on .postgres) r =
      (e.requestPreset (source.on .sqlite) r).map (Option.map Predicate.native) := by
  unfold requestPreset
  cases r.preset with
  | none => rfl
  | some name => exact buildPreset_postgres source hhandlers name

theorem planRequest_postgres (r : Request) (allowed : Option AllowedSorts) :
    e.planRequest (source.on .postgres) r allowed =
      (e.planRequest (source.on .sqlite) r allowed).map RequestPlan.native := by
  simp only [planRequest, requestPreset_postgres source hhandlers,
    buildInput_postgres source hhandlers, requestSearch_postgres, SortPlan.ofInput_on]
  cases e.requestPreset (source.on .sqlite) r with
  | error err => rfl
  | ok preset =>
      cases e.buildInput (source.on .sqlite) r.filterValue with
      | error err => rfl
      | ok filters =>
          cases e.requestSearch (source.on .sqlite) r with
          | error err => rfl
          | ok search =>
              cases SortPlan.ofInput source e.snapshot (r.sortInput e.snapshot) allowed <;> rfl

/-- A call does the same in both stores, or fails with the same error. -/
theorem effect_postgres (call : Call) :
    e.effect (source.on .postgres) call =
      (e.effect (source.on .sqlite) call).map Effect.native := by
  have hcondition {ε : Type} (x : Except ε (Option Predicate)) (k : ε → QueryError) :
      ((x.map (Option.map Predicate.native)).map Effect.ofCondition).mapError k =
        ((x.map Effect.ofCondition).mapError k).map Effect.native := by
    rcases x with err | _ | p <;> rfl
  cases call with
  | filter input => rw [effect, buildInput_postgres source hhandlers, hcondition, effect]
  | filterSpec spec => rw [effect, buildFilter_postgres source hhandlers, hcondition, effect]
  | preset name => rw [effect, buildPreset_postgres source hhandlers, hcondition, effect]
  | search raw fields mode => rw [effect, buildSearch_postgres, hcondition, effect]
  | sort input allowed =>
      rw [effect, effect, SortPlan.ofInput_on, SortPlan.ofInput_on]
      cases SortPlan.ofInput source e.snapshot input allowed <;> rfl
  | paginate number size => rfl
  | request queryString allowed =>
      have hrequest (d : Dialect) : e.parseRequest (source.on d) queryString =
          e.parseRequest source queryString := rfl
      simp only [effect, hrequest, planRequest_postgres source hhandlers]
      refine (map_map_of_comm _ _ (fun plan => ?_) _).symm
      obtain ⟨preset, filters, search, sort⟩ := plan
      simp only [planEffect, RequestPlan.native, Effect.native, List.map_append]
      congr 1
      cases preset <;> cases filters <;> cases search <;> rfl

end

end Engine

namespace Query

/-- The query in the other store, once its conditions have been put for that. -/
def native (q : Query) : Query :=
  { q with
    source := q.source.on .postgres
    conditions := q.conditions.map (Prod.map id Predicate.native) }

theorem native_apply (f : Effect) (q : Query) : (f.apply q).native = f.native.apply q.native := by
  simp [native, Effect.apply, Effect.native, Function.comp_def]

variable {q : Query}

theorem perform_native {e : Engine} (hhandlers : e.handlers = [])
    (hsource : q.source.dialect = .sqlite) (call : Engine.Call) :
    e.perform q.native call = (e.perform q call).map native := by
  have hsqlite : q.source.on .sqlite = q.source := by
    rw [← hsource]
    rfl
  have heffect : e.effect q.native.source call = (e.effect q.source call).map Effect.native := by
    have h := Engine.effect_postgres q.source hhandlers call
    rwa [hsqlite] at h
  rw [Engine.perform_eq_map_effect, Engine.perform_eq_map_effect, heffect]
  exact (map_map_of_comm _ _ (fun f => native_apply f q) _).symm

theorem after_native {history : List (Engine × Engine.Call)}
    (h : ∀ call ∈ history, call.1.handlers = []) (hsource : q.source.dialect = .sqlite) :
    q.native.after history = (q.after history).native := by
  induction history generalizing q with
  | nil => rfl
  | cons call rest ih =>
      rw [List.forall_mem_cons] at h
      have hstep : call.1.step q.native call.2 = (call.1.step q call.2).native := by
        rw [Engine.step_eq_match, Engine.step_eq_match, perform_native h.1 hsource]
        cases call.1.perform q call.2 <;> rfl
      have hnext : (call.1.step q call.2).source.dialect = .sqlite := by
        rw [Engine.step_eq_apply, Effect.source_apply, hsource]
      have hafter (q : Query) : q.after (call :: rest) = (call.1.step q call.2).after rest := rfl
      rw [hafter, hafter, hstep, ih h.2 hnext]

theorem boundValues_native (q : Query) :
    (q.native.conditions.flatMap fun c => c.2.boundValues) =
      q.conditions.flatMap fun c => c.2.boundValues := by
  simp [native, List.flatMap_map, Predicate.boundValues_native]

/-- The same history in both stores: every call fails in both, with the same error, or in neither,
and what the queries hold afterwards is the same but for the way in which case is disregarded. The
statements bind the same values. -/
theorem after_postgres (catalog : Catalog) (m : Model) {history : List (Engine × Engine.Call)}
    (h : ∀ call ∈ history, call.1.handlers = []) :
    let lite := ofSource ⟨catalog, m, .sqlite⟩
    let postgres := ofSource ⟨catalog, m, .postgres⟩
    (∀ done call rest, history = done ++ call :: rest → ∀ err,
      call.1.perform (postgres.after done) call.2 = .error err ↔
        call.1.perform (lite.after done) call.2 = .error err) ∧
    (postgres.after history).conditions =
      (lite.after history).conditions.map (Prod.map id Predicate.native) ∧
    (postgres.after history).orders = (lite.after history).orders ∧
    (postgres.after history).eagerLoads = (lite.after history).eagerLoads ∧
    (postgres.after history).limit = (lite.after history).limit ∧
    (postgres.after history).offset = (lite.after history).offset ∧
    ∃ f g, (postgres.after history).statement = .ok f ∧ (lite.after history).statement = .ok g ∧
      f.params = g.params := by
  intro lite postgres
  have hafter {done : List (Engine × Engine.Call)} (h : ∀ call ∈ done, call.1.handlers = []) :
      postgres.after done = (lite.after done).native := after_native (q := lite) h rfl
  have hstatement : ∃ f g, (postgres.after history).statement = .ok f ∧
      (lite.after history).statement = .ok g ∧ f.params = g.params := by
    obtain ⟨ts, hts⟩ := exists_statementTokens_after ⟨catalog, m, .postgres⟩ h
    obtain ⟨us, hus⟩ := exists_statementTokens_after ⟨catalog, m, .sqlite⟩ h
    refine ⟨.ofTokens ts, .ofTokens us, by rw [statement_eq_map, hts]; rfl,
      by rw [statement_eq_map, hus]; rfl, ?_⟩
    calc Statement.params ts
        = ((postgres.after history).conditions.flatMap fun c => c.2.boundValues).map
            Param.ofValue := params_statementTokens hts
      _ = ((lite.after history).conditions.flatMap fun c => c.2.boundValues).map
            Param.ofValue := by rw [hafter h, boundValues_native]
      _ = Statement.params us := (params_statementTokens hus).symm
  rw [hafter h] at hstatement ⊢
  refine ⟨?_, rfl, rfl, rfl, rfl, rfl, hstatement⟩
  rintro done call rest rfl err
  rw [List.forall_mem_append, List.forall_mem_cons] at h
  have hsource : (lite.after done).source.dialect = .sqlite := by
    rw [(isStartOf_after lite done).source]
    rfl
  rw [hafter h.1, perform_native h.2.1 hsource]
  cases call.1.perform (lite.after done) call.2 <;> simp [Except.map]

theorem after_postgres_posts :
    let e : Engine := ⟨FilterContext.posts.snapshot, [], 0⟩
    let history : List (Engine × Engine.Call) :=
      [(e, .filter (.object [("title", .object [("near", .string "x")])])),
        (e, .filter (.object [("author.name", .object [("not_ilike", .string "x")])]))]
    let after (d : Dialect) := (ofSource (Source.posts.on d)).after history
    (∀ call ∈ history, call.1.handlers = []) ∧
      (after .sqlite).conditions =
        [(.and, .related "author" (.pattern "name" .notLike "%x%" true))] ∧
      (after .postgres).conditions =
        [(.and, .related "author" (.pattern "name" .notIlike "%x%" false))] := by
  intro e history after
  have hhandlers : ∀ call ∈ history, call.1.handlers = [] := by simp [history, e]
  have hlite : (after .sqlite).conditions =
      [(.and, .related "author" (.pattern "name" .notLike "%x%" true))] := rfl
  refine ⟨hhandlers, hlite, ?_⟩
  have hconditions := (after_postgres Source.posts.catalog Source.posts.model hhandlers).2.1
  exact hconditions.trans (congrArg _ hlite)

end Query

end RequestQuery
