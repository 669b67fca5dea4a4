import RequestQuery.Query
import RequestQuery.Settings.Basic

namespace RequestQuery

/-- Which rows of the result a request asks for. -/
structure Page where
  /-- The number of the page, from 1 on. -/
  number : Nat
  /-- The number of rows on it. -/
  size : Nat
deriving DecidableEq, Repr

namespace Page

/-- The largest offset, that of an unsigned 64-bit word. -/
def maxOffset : Nat :=
  Nat.pow 2 64 - 1

/-- The page for what a request asks. Page numbers start at 1, a size that is missing or zero is the
configured one, and no page is larger than the settings allow. -/
def resolve (settings : PageSettings) (number size : Option Nat) : Page where
  number := max (number.getD 1) 1
  size :=
    min (match size with
      | some 0 | none => settings.perPage
      | some n => n) settings.maxPerPage

/-- The number of rows before the page, as far as it can be counted. -/
def offset (p : Page) : Nat :=
  min ((p.number - 1) * p.size) maxOffset

def apply (p : Page) (q : Query) : Query :=
  (q.setLimit p.size).setOffset p.offset

end Page

end RequestQuery
