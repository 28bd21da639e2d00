import Highlighter.Unicode

/-!
Sets of characters, as regular expressions write them: ranges, Unicode properties, the set operations
and the closure under letter case.

The members of a set can be listed as ascending ranges of code points that neither overlap nor touch. Two
descriptions with the same ranges describe the same set, and a set has one member if it has one range of one
member.
-/

namespace Highlighter

/-! ## Sets of characters -/

/-- The Unicode properties that a pattern can name. -/
inductive CharProperty where
  | letter
  | number
  | uppercase
  | lowercase
  | decimalDigit
  | whiteSpace
  | word
  deriving DecidableEq, Repr

/-- Whether a character has the property. -/
def CharProperty.holds : CharProperty → Char → Bool
  | .letter, c => Unicode.isLetter c
  | .number, c => Unicode.isNumber c
  | .uppercase, c => Unicode.isUppercase c
  | .lowercase, c => Unicode.isLowercase c
  | .decimalDigit, c => Unicode.isDecimalDigit c
  | .whiteSpace, c => Unicode.isWhiteSpace c
  | .word, c => Unicode.isWord c

/-- A description of a set of characters. -/
inductive CharSet where
  | empty
  | range (low high : Char)
  | property (p : CharProperty)
  | union (a b : CharSet)
  | inter (a b : CharSet)
  | compl (a : CharSet)
  | caseless (a : CharSet)
  deriving DecidableEq, Repr

namespace CharSet

/-- The set of one character. -/
def single (c : Char) : CharSet := range c c

/-- Every character. -/
def all : CharSet := compl empty

/-- The first set without the members of the second. -/
def sdiff (a b : CharSet) : CharSet := inter a (compl b)

/-- The characters that belong to exactly one of the two sets. -/
def symmDiff (a b : CharSet) : CharSet := union (sdiff a b) (sdiff b a)

/-- Whether the set has the character as a member. -/
def contains : CharSet → Char → Bool
  | empty, _ => false
  | range low high, c => low.toNat ≤ c.toNat && c.toNat ≤ high.toNat
  | property p, c => p.holds c
  | union a b, c => a.contains c || b.contains c
  | inter a b, c => a.contains c && b.contains c
  | compl a, c => !a.contains c
  | caseless a, c => (Unicode.caseVariants c).any a.contains

theorem contains_single (a c : Char) : (single a).contains c = (c == a) := by
  rw [Bool.eq_iff_iff]
  simp only [single, contains, Bool.and_eq_true, decide_eq_true_eq, beq_iff_eq]
  rw [← Char.toNat_inj]
  omega

end CharSet

/-! ## Sets as ranges -/

/-- Ascending ranges of code points, each given by its first and last member. -/
abbrev CodeRanges := List (Nat × Nat)

namespace CodeRanges

/-- The largest code point. -/
def last : Nat := 0x10FFFF

/-- The code point after `n`. No character lies between `0xD7FF` and `0xE000`. -/
def next (n : Nat) : Nat := if n = 0xD7FF then 0xE000 else n + 1

/-- The code point before `n`. -/
def previous (n : Nat) : Nat := if n = 0xE000 then 0xD7FF else n - 1

/-- The ranges of two lists in one list, by their first members. Each round takes one range, so `fuel`
    rounds are enough for as many ranges. -/
def interleave : (fuel : Nat) → CodeRanges → CodeRanges → CodeRanges
  | 0, _, _ => []
  | _ + 1, [], bs => bs
  | _ + 1, as, [] => as
  | fuel + 1, a :: as, b :: bs =>
    if a.1 ≤ b.1 then a :: interleave fuel as (b :: bs) else b :: interleave fuel (a :: as) bs

/-- Puts a range in front of ranges that begin no earlier, and makes one range of those that overlap or
    touch. -/
def join (low high : Nat) : CodeRanges → CodeRanges
  | [] => [(low, high)]
  | (l, h) :: rest => if l ≤ high + 1 then join low (max high h) rest else (low, high) :: join l h rest

/-- The ranges of the members of either of two sets. -/
def union (a b : CodeRanges) : CodeRanges :=
  match interleave (a.length + b.length) a b with
  | [] => []
  | (low, high) :: rest => join low high rest

/-- The ranges between the given ones, from `low` on. -/
def gaps (low : Nat) : CodeRanges → CodeRanges
  | [] => if low ≤ last then [(low, last)] else []
  | (l, h) :: rest => if low < l then (low, previous l) :: gaps (next h) rest else gaps (next h) rest

/-- The ranges of the characters outside of a set. -/
def compl (a : CodeRanges) : CodeRanges := gaps 0 a

/-- The ranges of the members of both of two sets. -/
def inter (a b : CodeRanges) : CodeRanges := compl (union (compl a) (compl b))

/-- The ranges of some code points. -/
def ofCodes (ns : List Nat) : CodeRanges :=
  match (ns.map fun n => (n, n)).mergeSort (fun a b => a.1 ≤ b.1) with
  | [] => []
  | (low, high) :: rest => join low high rest

/-- The ranges of the characters that differ from members of a set in case only, with the members. -/
def caseless (a : CodeRanges) : CodeRanges :=
  let holds := Unicode.inRanges a
  let foldings := ofCodes (Unicode.foldingPairs.filterMap fun (n, target) =>
    if holds n || holds target then some target else none)
  union a (ofCodes (Unicode.foldingPairs.flatMap fun (n, target) =>
    if Unicode.inRanges foldings target then [n, target] else []))

end CodeRanges

/-- The ranges of the characters with a property. -/
def CharProperty.ranges : CharProperty → CodeRanges
  | .letter => Unicode.letterRanges
  | .number => Unicode.numberRanges
  | .uppercase => Unicode.uppercaseRanges
  | .lowercase => Unicode.lowercaseRanges
  | .decimalDigit => Unicode.decimalDigitRanges
  | .whiteSpace => Unicode.whiteSpaceRanges
  | .word => Unicode.wordRanges

namespace CharSet

/-- The ranges of the set's members. -/
def ranges : CharSet → CodeRanges
  | empty => []
  | range low high => if low ≤ high then [(low.toNat, high.toNat)] else []
  | property p => p.ranges
  | union a b => a.ranges.union b.ranges
  | inter a b => a.ranges.inter b.ranges
  | compl a => a.ranges.compl
  | caseless a => a.ranges.caseless

/-- Whether two descriptions describe the same set. -/
def same (a b : CharSet) : Bool := a == b || a.ranges == b.ranges

/-- The only member of a set. -/
def onlyMember? (s : CharSet) : Option Char :=
  match s.ranges with
  | [(low, high)] => if low = high then some (Char.ofNat low) else none
  | _ => none

end CharSet

end Highlighter
