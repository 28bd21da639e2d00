import Highlighter.CharSet
import Highlighter.Pattern

/-!
Regular expressions in the form in which they are read. Here a run of characters is one item, a
repetition keeps its bounds, and groups that capture are told apart. From this form a pattern is made in
which every repetition is spelled out.

The form matters for one rule. Where all of several alternatives are sequences that begin with the same
items, these items are matched once, and the choice is made behind them: `a.*b|a.*c` is `a.*(?:b|c)`. How
far `.*` reaches is then decided before the choice. Items are the same if they are built in the same way;
sets are the same if they have the same members, and a group that captures is never the same as another.
-/

namespace Highlighter

/-- A regular expression as it is written. A sequence has no sequence and nothing empty as its first item,
    and no two runs of characters in a row; a choice has no choice as its first alternative. -/
inductive Expression where
  | empty
  | text (cs : List Char)
  | set (s : CharSet)
  | assertion (a : Assertion)
  | counted (preference : Preference) (least : Nat) (most : Option Nat) (body : Expression)
  | capture (number : Nat) (body : Expression)
  | seq (first rest : Expression)
  | either (first rest : Expression)
  deriving DecidableEq, Repr

namespace Expression

/-- Whether two expressions are built in the same way from the same sets. -/
def same : Expression → Expression → Bool
  | empty, empty => true
  | text a, text b => a == b
  | set a, set b => a.same b
  | assertion a, assertion b => a == b
  | counted p least most a, counted q low high b => p == q && least == low && most == high && a.same b
  | capture n a, capture m b => n == m && a.same b
  | seq a b, seq c d => a.same c && b.same d
  | either a b, either c d => a.same c && b.same d
  | _, _ => false

/-- Whether the expression can match nothing but the empty text. -/
def matchesOnlyEmpty : Expression → Bool
  | empty | assertion _ => true
  | text _ | set _ => false
  | counted _ _ most e => most.isSome && e.matchesOnlyEmpty
  | capture _ e => e.matchesOnlyEmpty
  | seq a b | either a b => a.matchesOnlyEmpty && b.matchesOnlyEmpty

/-- The number of parts that the expression has once its repetitions are spelled out. -/
def size : Expression → Nat
  | empty | set _ | assertion _ => 1
  | text cs => cs.length
  | counted _ least none e => max least 1 * e.size + 1
  | counted _ least (some most) e => most * e.size + (most - least) + 1
  | capture _ e => e.size
  | seq a b | either a b => a.size + b.size + 1

/-- The items of a sequence; anything else but the empty expression is one item. -/
def items : Expression → List Expression
  | empty => []
  | seq first rest => first :: rest.items
  | e => [e]

/-- The alternatives of a choice; anything else is one alternative. -/
def alternatives : Expression → List Expression
  | either first rest => first :: rest.alternatives
  | e => [e]

/-- Puts an item in front of others. Runs of characters that meet become one. -/
def addItem : Expression → List Expression → List Expression
  | text a, text b :: es => text (a ++ b) :: es
  | e, es => e :: es

/-- The expression of items that stand one after the other. -/
def ofItems : List Expression → Expression
  | [] => empty
  | [e] => e
  | e :: es => seq e (ofItems es)

/-- The expression of alternatives, the preferred one first. -/
def ofAlternatives : List Expression → Expression
  | [] => set .empty
  | [e] => e
  | e :: es => either e (ofAlternatives es)

/-- Some expressions one after the other. -/
def sequence (es : List Expression) : Expression := ofItems ((es.flatMap items).foldr addItem [])

/-- The expression of a set. A set of one character is that character. -/
def ofSet (s : CharSet) : Expression :=
  match s.onlyMember? with
  | some c => text [c]
  | none => set s

/-- The set of the character that the expression is, if it is one. -/
def charSet? : Expression → Option CharSet
  | text [c] => some (.single c)
  | _ => none

/-- The set that the expression is, if it is one. -/
def set? : Expression → Option CharSet
  | set s => some s
  | _ => none

/-- The union of some sets. -/
def unionOf : List CharSet → CharSet
  | [] => .empty
  | [s] => s
  | s :: sets => .union s (unionOf sets)

/-- A choice between alternatives none of which is a choice. Single characters form a set, and so do sets:
    it does not matter which of them is preferred. -/
def choose (es : List Expression) : Expression :=
  match es.mapM charSet? with
  | some sets => ofSet (unionOf sets)
  | none =>
    match es.mapM set? with
    | some sets => ofSet (unionOf sets)
    | none => ofAlternatives es

/-- The items with which both of two sequences begin. -/
def sharedItems : List Expression → List Expression → List Expression
  | a :: as, b :: bs => if a.same b then a :: sharedItems as bs else []
  | _, _ => []

/-- The items with which all of some sequences begin. -/
def sharedByAll : List (List Expression) → List Expression
  | [] => []
  | first :: others => others.foldl sharedItems first

/-- A choice between some expressions, the first of which is preferred. Sequences that begin with the same
    items share them, and the choice is made behind them. -/
def choice (es : List Expression) : Expression :=
  let es := es.flatMap alternatives
  let sequences := es.map items
  let shared := if sequences.all (1 < ·.length) then sharedByAll sequences else []
  if shared.isEmpty then choose es
  else
    let endings := sequences.map fun items => ofItems (items.drop shared.length)
    sequence (shared ++ [choose (endings.flatMap alternatives)])

/-- At least `least` matches of an expression, and at most `most` where that is given. An expression that
    matches only the empty text is not repeated more than once. -/
def repeated (preference : Preference) (least : Nat) (most : Option Nat) (e : Expression) : Expression :=
  let (least, most) := if e.matchesOnlyEmpty then (min least 1, some (min (most.getD 1) 1)) else (least, most)
  if most = some 0 then empty
  else if least = 1 ∧ most = some 1 then e
  else counted preference least most e

/-- A pattern behind another one, if there is one. -/
def link : Option Pattern → Pattern → Pattern
  | none, p => p
  | some before, p => .seq before p

/-- The pattern of characters behind another one. -/
def linkText (before : Option Pattern) : List Char → Pattern
  | [] => before.getD .empty
  | [c] => link before (.char c)
  | c :: cs => linkText (some (link before (.char c))) cs

/-- The pattern of an expression behind another pattern. -/
def patternAfter : (before : Option Pattern) → Expression → Pattern
  | before, empty => before.getD .empty
  | before, text cs => linkText before cs
  | before, set s => link before (.set s)
  | before, assertion a => link before (.assertion a)
  | before, counted preference least most e =>
    link before (.counted preference (e.patternAfter none) least most)
  | before, capture _ e => link before (e.patternAfter none)
  | before, seq first rest => rest.patternAfter (some (first.patternAfter before))
  | before, either first rest => link before (.orElse (first.patternAfter none) (rest.patternAfter none))

/-- The pattern of an expression. -/
def pattern (e : Expression) : Pattern := e.patternAfter none

end Expression

end Highlighter
