import RequestQuery.Calendar.Range
import RequestQuery.FieldPath
import RequestQuery.Filter.Operand
import RequestQuery.Filter.Spec
import RequestQuery.Settings.Snapshot
import RequestQuery.Source

namespace RequestQuery

open Json (Value)

/-- A handler builds the condition of an operator key that is no operator. -/
structure FilterHandler where
  /-- Refuses an operand, with a reason. -/
  check : Value → Except String Unit
  /-- The condition on a column of the model in scope. -/
  build : String → Value → Predicate

abbrev FilterHandlers := List (String × FilterHandler)

/-- What a filter is evaluated in: the settings in force, the source, the handlers and the current
instant. -/
structure FilterContext where
  snapshot : Snapshot
  source : Source
  handlers : FilterHandlers
  /-- The current instant, in seconds of the epoch. -/
  now : Int

/-- Where an error arose: the path as the request writes it, and the operator key. -/
structure OperatorSite where
  path : String
  key : String

namespace OperatorSite

def badOperand (site : OperatorSite) (valueType : String) (fault : OperandFault) : FilterError :=
  .badOperand site.path site.key valueType fault

def cast (site : OperatorSite) (rule : Option CastRule) (v : Value) : Except FilterError Value :=
  match castBy rule v with
  | .ok w => .ok w
  | .error fault => .error (site.badOperand v.describe (.cast fault))

/-- All operands cast, or the first error. -/
def castAll (site : OperatorSite) (rule : Option CastRule) :
    List Value → Except FilterError (List Value)
  | [] => .ok []
  | v :: rest =>
    match site.cast rule v with
    | .error e => .error e
    | .ok w => (site.castAll rule rest).map fun ws => w :: ws

/-- Equality, inequality and order. Null is only equal or unequal. -/
def comparison (site : OperatorSite) (rule : Option CastRule) (op : StoreOperator)
    (column : String) (v : Value) : Except FilterError Predicate :=
  if v.isNull then
    match op with
    | .eq | .ne => .ok (.null column op.isNegated)
    | _ => .error (site.badOperand "null" .unorderedNull)
  else (site.cast rule v).map fun w => .compare column op w

/-- The operator that a store understands, and whether it has to lower both sides. -/
def emulate (nativeIlike : Bool) (op : StoreOperator) : StoreOperator × Bool :=
  if op.isCaseInsensitive && !nativeIlike then
    (if op.isNegated then .notLike else .like, true)
  else (op, false)

def pattern (site : OperatorSite) (nativeIlike : Bool) (op : StoreOperator) (style : PatternStyle)
    (column : String) (v : Value) : Except FilterError Predicate :=
  match Operand.text? v with
  | none => .error (site.badOperand v.describe .notText)
  | some text =>
    let (op, caseInsensitive) := emulate nativeIlike op
    .ok (.pattern column op (Pattern.ofText style text) caseInsensitive)

def membership (site : OperatorSite) (rule : Option CastRule) (dedupe : Bool) (op : StoreOperator)
    (column : String) (values : List Value) : Except FilterError Predicate :=
  (site.castAll rule values).map fun ws =>
    .member column (if dedupe then Operand.dedupe ws else ws) op.isNegated

/-- Bounds that are both numbers have to be in order; strict settings allow no other bounds. -/
def checkBounds (site : OperatorSite) (strict : Bool) (low high : Value) :
    Except FilterError Unit :=
  match Operand.bound? low, Operand.bound? high with
  | some l, some h =>
    if h < l then .error (site.badOperand "number" .reversedBounds) else .ok ()
  | _, _ =>
    if strict then
      .error (site.badOperand (low.describe ++ " and " ++ high.describe) .nonNumericBounds)
    else .ok ()

def range (site : OperatorSite) (rule : Option CastRule) (strict : Bool) (op : StoreOperator)
    (column : String) (low high : Value) : Except FilterError Predicate :=
  match site.cast rule low with
  | .error e => .error e
  | .ok low =>
    match site.cast rule high with
    | .error e => .error e
    | .ok high =>
      (site.checkBounds strict low high).map fun _ => .between column low high op.isNegated

/-- The number of days that a period is given; a period that takes none has zero. -/
def dayCount (site : OperatorSite) : Operand → Except FilterError Nat
  | .single v =>
    match Operand.dayCount? v with
    | some n => .ok n
    | none => .error (site.badOperand v.describe .notDayCount)
  | _ => .ok 0

def relativeDate (site : OperatorSite) (snapshot : Snapshot) (now : Int) (op : StoreOperator)
    (period : Period) (column : String) (operand : Operand) : Except FilterError Predicate :=
  match site.dayCount operand with
  | .error e => .error e
  | .ok count =>
    match period.textRange? count now snapshot.zone snapshot.settings.dates.pattern with
    | none => .error (site.badOperand "number" .datesOutOfBounds)
    | some (low, high) => .ok (.between column (.string low) (.string high) op.isNegated)

end OperatorSite

namespace FilterContext

def applyHandler (ctx : FilterContext) (site : OperatorSite) (name column : String) (v : Value) :
    Except FilterError Predicate :=
  match ctx.handlers.lookup name with
  | none => .error (.unsupportedOperator site.path site.key)
  | some handler =>
    match handler.check v with
    | .error reason => .error (.rejected site.path name reason)
    | .ok _ => .ok (handler.build column v)

def applyShaped (ctx : FilterContext) (site : OperatorSite) (rule : Option CastRule) (o : Operator)
    (column : String) (operand : Operand) : Except FilterError Predicate :=
  let settings := ctx.snapshot.settings
  match o.kind, operand with
  | .comparison, .single v => site.comparison rule o.store column v
  | .pattern style, .single v =>
    site.pattern ctx.source.dialect.hasNativeIlike o.store style column v
  | .membership, .list vs => site.membership rule settings.operands.dedupeIn o.store column vs
  | .range, .pair low high =>
    site.range rule settings.operands.strictBetween o.store column low high
  | .nullCheck, .none => .ok (.null column o.store.isNegated)
  | .relativeDate period, operand =>
    site.relativeDate ctx.snapshot ctx.now o.store period column operand
  | kind, operand => .error (.badShape site.path site.key kind.shape operand.describe)

/-- Applies the operator under a key to a value. A key that is no operator may have a handler. -/
def applyOperator (ctx : FilterContext) (m : Model) (column key : String) (v : Value)
    (path : String) : Except FilterError Predicate :=
  let site : OperatorSite := ⟨path, key⟩
  match ctx.snapshot.operators.get? key with
  | some o =>
    match Operand.ofValue o.kind.shape v with
    | .error found => .error (.badShape path o.key o.kind.shape found)
    | .ok operand => ctx.applyShaped site (m.castFor column) o column operand
  | none =>
    match ctx.snapshot.settings.customFilters.lookup key with
    | some handler => ctx.applyHandler site handler column v
    | none => .error (.unsupportedOperator path key)

/-- Applies a literal: null is a null check, a list means membership and leaves nothing when all its
items are blank, anything else means equality. -/
def applyLiteral (ctx : FilterContext) (m : Model) (column : String) (v : Value) (path : String) :
    Except FilterError (Option Predicate) :=
  match v with
  | .null => .ok (some (.null column false))
  | .array items =>
    match Operand.dropBlank items with
    | [] => .ok none
    | items => (ctx.applyOperator m column "in" (.array items) path).map some
  | v => (ctx.applyOperator m column "eq" v path).map some

/-- Applies operators one after the other, up to the first error. -/
def applyOperators (ctx : FilterContext) (m : Model) (column path : String) :
    List (String × Value) → Except FilterError (List Predicate)
  | [] => .ok []
  | (key, v) :: rest =>
    match ctx.applyOperator m column key v path with
    | .error e => .error e
    | .ok p => (ctx.applyOperators m column path rest).map fun ps => p :: ps

def applyCondition (ctx : FilterContext) (m : Model) (column : String) (condition : Condition)
    (path : String) : Except FilterError (Option Predicate) :=
  match condition with
  | .literal v => ctx.applyLiteral m column v path
  | .operators connective entries =>
    (ctx.applyOperators m column path entries).map (Predicate.join connective)

end FilterContext

end RequestQuery
