import RequestQuery.Json.Printer

namespace RequestQuery

open Json (Value)

/-- A value bound to a placeholder of a statement. -/
inductive Param where
  | string (s : String)
  | integer (n : Int)
  | float (x : Float)
  | null
deriving DecidableEq

namespace Param

/-- A truth value is bound as 0 or 1, an integer that a signed 64-bit word cannot hold as a float,
and a list or object as its JSON text. -/
def ofValue : Value → Param
  | .null => null
  | .bool b => integer (if b then 1 else 0)
  | .number (.int n) =>
    if -Int.pow 2 63 ≤ n ∧ n < Int.pow 2 63 then integer n else float (Float.ofInt n)
  | .number (.float x) => float x
  | .string s => string s
  | v => string v.render

/-- Numbers are written without an exponent, and a whole number without a point. -/
def layout : Decimal.Layout :=
  ⟨fun _ => true, [], .up⟩

/-- The characters of a string literal: a quote is written twice. -/
def quoteChars (s : List Char) : List Char :=
  s.flatMap fun c => if c == '\'' then ['\'', '\''] else [c]

/-- The value as a literal of the statement language. -/
def literal : Param → String
  | string s => String.ofList ('\'' :: quoteChars s.toList ++ ['\''])
  | integer n => toString n
  | float x => String.ofList (layout.write x)
  | null => "NULL"

end Param

end RequestQuery
