namespace RequestQuery.Json

/-- A number is an integer or a binary64 value; `1` and `1.0` are different values. -/
inductive Number where
  | int (n : Int)
  | float (x : Float)
deriving DecidableEq

/-- A JSON value. The entries of an object keep the order in which their keys first appeared. -/
inductive Value where
  | null
  | bool (b : Bool)
  | number (n : Number)
  | string (s : String)
  | array (items : List Value)
  | object (entries : List (String × Value))
deriving Inhabited

/-- The entries of an object, in order. -/
abbrev Entries := List (String × Value)

namespace Number

/-- The number as a binary64 value, the nearest one for an integer. -/
def toFloat : Number → Float
  | int n => Float.ofInt n
  | float x => x

/-- Numeric equality within one of the two kinds. -/
def same : Number → Number → Bool
  | int m, int n => m == n
  | float x, float y => x == y
  | _, _ => false

end Number

namespace Entries

def hasKey (entries : Entries) (key : String) : Bool :=
  entries.any (·.1 == key)

/-- Gives a key a value: in the key's place if it occurs, else at the end. -/
def put (entries : Entries) (key : String) (value : Value) : Entries :=
  match entries with
  | [] => [(key, value)]
  | (k, v) :: rest => if k == key then (k, value) :: rest else (k, v) :: put rest key value

def ofList (entries : List (String × Value)) : Entries :=
  entries.foldl (fun es (k, v) => put es k v) []

theorem lookup_put_self (entries : Entries) (key : String) (value : Value) :
    (put entries key value).lookup key = some value := by
  induction entries with
  | nil => simp [put]
  | cons e rest ih =>
    obtain ⟨k, v⟩ := e
    simp only [put]
    split
    · next h => simp [show key = k from (beq_iff_eq.1 h).symm]
    · next h =>
      have hne : (key == k) = false := by
        simp only [beq_eq_false_iff_ne]
        exact fun he => h (by simp [he])
      simp [List.lookup_cons, hne, ih]

theorem lookup_put_of_ne (entries : Entries) {key other : String} (value : Value)
    (h : other ≠ key) : (put entries key value).lookup other = entries.lookup other := by
  induction entries with
  | nil => simp [put, List.lookup_cons, beq_false_of_ne h]
  | cons e rest ih =>
    obtain ⟨k, v⟩ := e
    simp only [put]
    split
    · next hk =>
      have hne : (other == k) = false := by
        simp only [beq_eq_false_iff_ne]
        exact fun he => h (he.trans (beq_iff_eq.1 hk))
      simp [List.lookup_cons, hne]
    · simp [List.lookup_cons, ih]

end Entries

namespace Value

def isNull : Value → Bool
  | null => true
  | _ => false

def isArray : Value → Bool
  | array _ => true
  | _ => false

def isObject : Value → Bool
  | object _ => true
  | _ => false

/-- The integer, when it fits a signed 64-bit word. -/
def toSigned64? : Value → Option Int
  | number (.int n) => if -Int.pow 2 63 ≤ n ∧ n < Int.pow 2 63 then some n else none
  | _ => none

/-- The integer, when it fits an unsigned 64-bit word. -/
def toUnsigned64? : Value → Option Nat
  | number (.int n) => if 0 ≤ n ∧ n < Int.pow 2 64 then some n.toNat else none
  | _ => none

def toString? : Value → Option String
  | string s => some s
  | _ => none

def get? : Value → String → Option Value
  | object entries, key => entries.lookup key
  | _, _ => none

mutual

/-- Equality of values; the order of an object's entries does not count. -/
def same : Value → Value → Bool
  | null, null => true
  | bool a, bool b => a == b
  | number a, number b => a.same b
  | string a, string b => a == b
  | array xs, array ys => sameItems xs ys
  | object es, object fs => es.length == fs.length && sameEntries es fs
  | _, _ => false

def sameItems : List Value → List Value → Bool
  | [], [] => true
  | x :: xs, y :: ys => x.same y && sameItems xs ys
  | _, _ => false

/-- Whether every entry of the first list has an equal one under its key in the second. -/
def sameEntries : List (String × Value) → List (String × Value) → Bool
  | [], _ => true
  | (k, v) :: es, fs =>
    (match fs.lookup k with
      | some w => v.same w
      | none => false) && sameEntries es fs

end

mutual

/-- The value with one entry for every key of an object. -/
def merged : Value → Value
  | array items => array (mergedItems items)
  | object entries => object (Entries.ofList (mergedEntries entries))
  | v => v

def mergedItems : List Value → List Value
  | [] => []
  | v :: vs => v.merged :: mergedItems vs

def mergedEntries : List (String × Value) → List (String × Value)
  | [] => []
  | (k, v) :: es => (k, v.merged) :: mergedEntries es

end

end Value

end RequestQuery.Json
