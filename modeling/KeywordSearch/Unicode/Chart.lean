/-!
# Charts of code points

A property of characters is written down as a list of spans of code points in
ascending order, so that a look-up stops at the first span that begins beyond
the code point in question.  A `Chart` attaches a value to each span, `Spans`
records membership alone, and a `Listing` gives every code point of a span a
sequence of its own.
-/

set_option autoImplicit false

namespace KeywordSearch.Unicode

/-- Consecutive code points, both ends included, that share a value. -/
structure Span (α : Type) where
  first : Nat
  last : Nat
  value : α

/-- Spans with their values, in ascending order. -/
abbrev Chart (α : Type) := List (Span α)

/-- The span that holds a code point, as the distance from its first code
point together with its value. -/
def Chart.find? {α : Type} : Chart α → Nat → Option (Nat × α)
  | [], _ => none
  | span :: rest, n =>
    if n < span.first then none
    else if n ≤ span.last then some (n - span.first, span.value)
    else Chart.find? rest n

/-- Spans of code points as their first and last members, in ascending order. -/
abbrev Spans := List (Nat × Nat)

/-- Whether a code point lies in one of the spans. -/
def Spans.contains : Spans → Nat → Bool
  | [], _ => false
  | (first, last) :: rest, n =>
    if n < first then false
    else if n ≤ last then true
    else Spans.contains rest n

/-- Runs of consecutive code points, each given by its first member and the
sequences that belong to its members in order; the runs ascend. -/
abbrev Listing := List (Nat × List (List Nat))

/-- The sequence that belongs to a code point. -/
def Listing.find? : Listing → Nat → Option (List Nat)
  | [], _ => none
  | (first, sequences) :: rest, n =>
    if n < first then none
    else match sequences[n - first]? with
      | some sequence => some sequence
      | none => Listing.find? rest n

end KeywordSearch.Unicode
