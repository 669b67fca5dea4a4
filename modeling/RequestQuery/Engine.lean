import RequestQuery.Edit
import RequestQuery.Filter.Evaluation
import RequestQuery.Page
import RequestQuery.Request
import RequestQuery.Search.Predicate
import RequestQuery.Sort.Plan

namespace RequestQuery

open Json (Value)

/-- Why a call fails. -/
inductive QueryError where
  | filter (e : FilterError)
  | search (e : SearchError)
  | sort (e : SortError)
  | settings (e : SettingsError)
deriving DecidableEq, Repr

/-- The kind of an error, by which callers tell errors apart. -/
def QueryError.kind : QueryError → String
  | filter e => e.kind
  | search e => e.kind
  | sort e => e.kind
  | settings e => e.kind

def QueryError.message : QueryError → String
  | filter e => e.message
  | search e => e.message
  | sort e => e.message
  | settings e => e.message

/-- Whether the request is to blame, and not the configuration. -/
def QueryError.isRequestError : QueryError → Bool
  | settings _ => false
  | _ => true

/-- Settings in force, handlers, and the current instant. -/
structure Engine where
  snapshot : Snapshot
  handlers : FilterHandlers
  now : Int

namespace Engine

def filterContext (e : Engine) (source : Source) : FilterContext :=
  ⟨e.snapshot, source, e.handlers, e.now⟩

def buildFilter (e : Engine) (source : Source) (spec : FilterSpec) :
    Except FilterError (Option Predicate) :=
  (e.filterContext source).evaluate spec

/-- The condition of a filter as it comes from a request. -/
def buildInput (e : Engine) (source : Source) (input : Value) :
    Except FilterError (Option Predicate) :=
  match FilterSpec.ofValue input with
  | .error err => .error err
  | .ok spec => e.buildFilter source spec

def buildPreset (e : Engine) (source : Source) (name : String) :
    Except FilterError (Option Predicate) :=
  match e.snapshot.settings.presets.lookup name with
  | none => .error (.unknownPreset name)
  | some input => e.buildInput source input

def buildSearch (e : Engine) (source : Source) (raw : String) (fields : Option (List String))
    (mode : Option String) : Except SearchError (Option Predicate) :=
  Search.build source e.snapshot.settings.search raw fields mode

/-- Appends the condition that is built for the source of a query, if there is one. -/
def append {ε : Type} (build : Source → Except ε (Option Predicate)) : Edit Query ε Unit := do
  let q ← get
  let condition ← ofExcept (build q.source)
  modify fun q => q.push? .and condition

/-- Applies a filter as it comes from a request. -/
def filter (e : Engine) (q : Query) (input : Value) : Except FilterError Query :=
  (append fun source => e.buildInput source input).result q

/-- Applies a filter that has been read already. -/
def filterSpec (e : Engine) (q : Query) (spec : FilterSpec) : Except FilterError Query :=
  (append fun source => e.buildFilter source spec).result q

def applyPreset (e : Engine) (q : Query) (name : String) : Except FilterError Query :=
  (append fun source => e.buildPreset source name).result q

def search (e : Engine) (q : Query) (raw : String) (fields : Option (List String))
    (mode : Option String) : Except SearchError Query :=
  (append fun source => e.buildSearch source raw fields mode).result q

def searchTerms (e : Engine) (raw : String) : Except SearchError (List String) :=
  Search.terms e.snapshot.settings.search raw

/-- Appends the steps of a sort plan, and gives the directives that it was made from. -/
def sortInPlace (e : Engine) (input : SortInput) (allowed : Option AllowedSorts) :
    Edit Query SortError (List SortDirective) := do
  let q ← get
  let plan ← ofExcept (SortPlan.ofInput q.source e.snapshot input allowed)
  modify plan.apply
  return plan.directives

def sort (e : Engine) (q : Query) (input : SortInput) (allowed : Option AllowedSorts) :
    Except SortError (Query × List SortDirective) :=
  (e.sortInPlace input allowed).outcome q

def resolvePage (e : Engine) (number size : Option Nat) : Page :=
  Page.resolve e.snapshot.settings.pagination number size

def paginate (e : Engine) (q : Query) (number size : Option Nat) : Query :=
  (e.resolvePage number size).apply q

/-- Applies the page of a request, if it asks for one. -/
def paginateRequest (e : Engine) (q : Query) (r : Request) : Query :=
  if r.page.isSome || r.perPage.isSome then e.paginate q r.page r.perPage else q

def requestPreset (e : Engine) (source : Source) (r : Request) :
    Except FilterError (Option Predicate) :=
  match r.preset with
  | some name => e.buildPreset source name
  | none => .ok none

def requestSearch (e : Engine) (source : Source) (r : Request) :
    Except SearchError (Option Predicate) :=
  match r.search with
  | some raw => e.buildSearch source raw none none
  | none => .ok none

/-- Reads the query string of a request for a source. -/
def parseRequest (e : Engine) (source : Source) (queryString : String) : Request :=
  Request.parse e.snapshot source.model.searchParamName queryString

/-- Applies a request: its preset, filters, search, sort keys and page, in this order. Nothing is
appended before all of them have been built. -/
def requestInPlace (e : Engine) (queryString : String) (allowed : Option AllowedSorts) :
    Edit Query QueryError Request := do
  let q ← get
  let r := e.parseRequest q.source queryString
  let preset ← ofExcept ((e.requestPreset q.source r).mapError .filter)
  let filters ← ofExcept ((e.buildInput q.source r.filterValue).mapError .filter)
  let search ← ofExcept ((e.requestSearch q.source r).mapError .search)
  let sort ← ofExcept
    ((SortPlan.ofInput q.source e.snapshot (r.sortInput e.snapshot) allowed).mapError .sort)
  modify fun q => q.push? .and preset
  modify fun q => q.push? .and filters
  modify fun q => q.push? .and search
  modify sort.apply
  modify fun q => e.paginateRequest q r
  return r

def applyRequest (e : Engine) (q : Query) (queryString : String) (allowed : Option AllowedSorts) :
    Except QueryError (Query × Request) :=
  (e.requestInPlace queryString allowed).outcome q

/-- What callers ask of an engine for a query. -/
inductive Call where
  | filter (input : Value)
  | filterSpec (spec : FilterSpec)
  | preset (name : String)
  | search (raw : String) (fields : Option (List String)) (mode : Option String)
  | sort (input : SortInput) (allowed : Option AllowedSorts)
  | paginate (number size : Option Nat)
  | request (queryString : String) (allowed : Option AllowedSorts)

/-- Answers a call on the query that is there. -/
def answer (e : Engine) : Call → Edit Query QueryError Unit
  | .filter input => (append fun source => e.buildInput source input).adaptExcept .filter
  | .filterSpec spec => (append fun source => e.buildFilter source spec).adaptExcept .filter
  | .preset name => (append fun source => e.buildPreset source name).adaptExcept .filter
  | .search raw fields mode =>
    (append fun source => e.buildSearch source raw fields mode).adaptExcept .search
  | .sort input allowed => discard ((e.sortInPlace input allowed).adaptExcept .sort)
  | .paginate number size => modify fun q => e.paginate q number size
  | .request queryString allowed => discard (e.requestInPlace queryString allowed)

/-- The query after a call that succeeds, or the error of the call. -/
def perform (e : Engine) (q : Query) (call : Call) : Except QueryError Query :=
  (e.answer call).result q

/-- The query that a call leaves, whether it fails or not. -/
def step (e : Engine) (q : Query) (call : Call) : Query :=
  (e.answer call).leave q

end Engine

end RequestQuery
