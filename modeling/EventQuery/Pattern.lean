import EventQuery.Comparison
import EventQuery.Delta

/-!
Patterns: the trees that a query is made of.

A pattern is a condition on one field of the events of a stream, or is put
together from other patterns: by `and` and `or`, in sequence, in parallel, with
a distance or a width in time, or as the states of a switch. A stream may itself
be filtered by a pattern.

* `Pattern.conj` and `Pattern.disj` combine any positive number of patterns by
  folding to the right; one pattern stays as it is.
* `Pattern.after`, `within`, `min`, `max` and `lasting` wrap a pattern, and
  `Pattern.followedBy` makes or extends a sequence.
-/

namespace EventQuery

/-- How the parts of a parallel pattern relate. -/
inductive Parallel where
  | any
  | all
  | during
deriving Repr, DecidableEq

/-- The name of a relation of parallel parts. -/
def Parallel.name : Parallel → String
  | any => "any"
  | all => "all"
  | during => "during"

mutual

/-- A pattern over event streams. -/
inductive Pattern where
  /-- The spans in which a condition holds. -/
  | condition (cond : Condition)
  | and (lhs rhs : Pattern)
  | or (lhs rhs : Pattern)
  /-- Each part follows the one before it. -/
  | serial (parts : List Pattern)
  /-- The parts are matched side by side. -/
  | parallel (kind : Parallel) (parts : List Pattern)
  /-- The distance to the span before. -/
  | spacing (inner : Pattern) (after within : Option Delta)
  /-- The length of the span. -/
  | width (inner : Pattern) (min max : Option Delta)
  /-- States that one stream passes through. -/
  | switch (stream : Stream) (states : List Pattern)

/-- A comparison of one event field, found by its path, with a literal; bound to
a stream or not. -/
inductive Condition where
  | mk (path : List String) (op : Operator) (operand : Scalar) (stream : Option Stream)

/-- A named source of events, with a filter or without. -/
inductive Stream where
  | mk (name : String) (filter : Option Pattern)

end

namespace Stream

/-- The stream with this name and no filter. -/
def named (name : String) : Stream := mk name none

/-- The name of a stream. -/
def name : Stream → String
  | mk name _ => name

/-- The filter of a stream. -/
def filter? : Stream → Option Pattern
  | mk _ filter => filter

/-- The stream with another filter. -/
def withFilter (s : Stream) (filter : Pattern) : Stream := mk s.name (some filter)

end Stream

namespace Condition

/-- The path of the field. -/
def path : Condition → List String
  | mk path _ _ _ => path

/-- The comparison operator. -/
def op : Condition → Operator
  | mk _ op _ _ => op

/-- The literal that the field is compared with. -/
def operand : Condition → Scalar
  | mk _ _ operand _ => operand

/-- The stream that the condition is bound to. -/
def stream? : Condition → Option Stream
  | mk _ _ _ stream => stream

end Condition

/-! ### Combining patterns -/

namespace Pattern

/-- A list that starts with `first`, joined from the right. -/
def foldRight (join : Pattern → Pattern → Pattern) (first : Pattern) : List Pattern → Pattern
  | [] => first
  | next :: rest => join first (foldRight join next rest)

/-- All of the patterns hold; there has to be one. -/
def conj : List Pattern → Except QueryError Pattern
  | [] => .error (.emptyCombinator .and)
  | first :: rest => .ok (foldRight .and first rest)

/-- One of the patterns holds; there has to be one. -/
def disj : List Pattern → Except QueryError Pattern
  | [] => .error (.emptyCombinator .or)
  | first :: rest => .ok (foldRight .or first rest)

/-- At least this long after the span before. -/
def after (p : Pattern) (d : Delta) : Pattern := spacing p (some d) none

/-- At most this long after the span before. -/
def within (p : Pattern) (d : Delta) : Pattern := spacing p none (some d)

/-- At least this long. -/
def min (p : Pattern) (d : Delta) : Pattern := width p (some d) none

/-- At most this long. -/
def max (p : Pattern) (d : Delta) : Pattern := width p none (some d)

/-- Between two lengths. -/
def lasting (p : Pattern) (min max : Delta) : Pattern := width p (some min) (some max)

/-- The pattern `next` after this one. A sequence is extended; anything else
starts a sequence of two. -/
def followedBy (p next : Pattern) : Pattern :=
  match p with
  | serial parts => serial (parts ++ [next])
  | _ => serial [p, next]

end Pattern

/-! ### Equality -/

/-- Equality of optional deltas. -/
def Delta.equalOption : Option Delta → Option Delta → Bool
  | none, none => true
  | some d, some e => d.equal e
  | _, _ => false

mutual

/-- Equality of patterns: the same tree with equal literals and deltas. -/
def Pattern.equal : Pattern → Pattern → Bool
  | .condition c, .condition d => c.equal d
  | .and a b, .and c d => a.equal c && b.equal d
  | .or a b, .or c d => a.equal c && b.equal d
  | .serial ps, .serial qs => equalPatterns ps qs
  | .parallel k ps, .parallel l qs => k == l && equalPatterns ps qs
  | .spacing p a w, .spacing q b v =>
    p.equal q && Delta.equalOption a b && Delta.equalOption w v
  | .width p a b, .width q c d => p.equal q && Delta.equalOption a c && Delta.equalOption b d
  | .switch s ps, .switch t qs => s.equal t && equalPatterns ps qs
  | _, _ => false

/-- Two lists of patterns agree position by position. -/
def equalPatterns : List Pattern → List Pattern → Bool
  | [], [] => true
  | p :: ps, q :: qs => p.equal q && equalPatterns ps qs
  | _, _ => false

/-- Equality of conditions. -/
def Condition.equal : Condition → Condition → Bool
  | .mk p o x none, .mk q o' y none => p == q && o == o' && x.equal y
  | .mk p o x (some s), .mk q o' y (some t) => p == q && o == o' && x.equal y && s.equal t
  | _, _ => false

/-- Equality of streams. -/
def Stream.equal : Stream → Stream → Bool
  | .mk n none, .mk m none => n == m
  | .mk n (some f), .mk m (some g) => n == m && f.equal g
  | _, _ => false

end

end EventQuery
