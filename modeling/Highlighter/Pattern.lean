import Highlighter.CharSet

/-!
Regular expressions: what a pattern matches at a given place, and in which order of preference.

A pattern can end its match at several places; `Pattern.ends` lists them in the order of preference, each once,
and the match is the first of them: of two alternatives the left one is preferred, and a repetition prefers more
rounds or fewer as written. What lies before a place stays visible to the assertions, so a place keeps the
character in front of it. `Trail` keeps places without repeats; `Trail.covers_cover` says that nothing but the
place itself is taken for listed once it is added.

A round of a repetition may use no character. Going round without a character must end, and where it ends
decides which match is preferred. The rule is that no branching of the pattern is passed twice at one place: a
way that comes back to a branching it has passed since the last character is given up, and the next way is
tried. `Pattern.waypoints` lists the places that are reached under this rule, in the order of preference, each
with the branchings that were passed there. Of several ways to one place only the first is followed further.
Whatever another one could add has been listed by then, or lies behind a branching that it must not pass again.

A place is never listed twice, and a repetition never continues twice from one place, so the work is bounded by
a power of the length of the text, however the repetitions are nested. `Pattern.first?` finds the first of the
places without listing those that only the end of the pattern would add.
-/

namespace Highlighter

/-! ## Patterns -/

/-- A condition on a place in a text, decided by the characters on its two sides. -/
inductive Assertion where
  | textStart
  | textEnd
  | lineStart
  | lineEnd
  | wordBoundary
  | noWordBoundary
  deriving DecidableEq, Repr

/-- Whether a repetition prefers more rounds or fewer. -/
inductive Preference where
  | more
  | fewer
  deriving DecidableEq, Repr

/-- A regular expression whose alternatives and repetitions are ordered by preference. A repetition is
    either a `star`, any number of rounds of a body that always uses a character, or a `loop`, one round or
    more of any body. -/
inductive Pattern where
  | empty
  | set (s : CharSet)
  | assertion (a : Assertion)
  | seq (first second : Pattern)
  | either (preferred other : Pattern)
  | star (preference : Preference) (body : Pattern)
  | loop (preference : Preference) (body : Pattern)
  deriving DecidableEq, Repr

namespace Pattern

/-- The pattern of one character. -/
def char (c : Char) : Pattern := set (.single c)

/-- A choice in which the first pattern is preferred. Of two sets of characters at most one way to match
    exists whichever comes first, so they form one set. -/
def orElse : Pattern → Pattern → Pattern
  | set a, set b => set (.union a b)
  | p, q => either p q

/-- `n` matches of the body. -/
def times (body : Pattern) : Nat → Pattern
  | 0 => empty
  | 1 => body
  | n + 1 => seq (times body n) body

/-- The pattern or nothing. -/
def optional (preference : Preference) (p : Pattern) : Pattern :=
  match preference with
  | .more => either p empty
  | .fewer => either empty p

/-- At most `n` matches of the body. -/
def upTo (preference : Preference) (body : Pattern) : Nat → Pattern
  | 0 => empty
  | 1 => optional preference body
  | n + 1 => optional preference (seq body (upTo preference body n))

/-- Whether a match of the pattern may use no character. -/
def canBeEmpty : Pattern → Bool
  | set _ => false
  | empty | assertion _ | star _ _ => true
  | seq p q => p.canBeEmpty && q.canBeEmpty
  | either p q => p.canBeEmpty || q.canBeEmpty
  | loop _ p => p.canBeEmpty

/-- One match of the body or more. -/
def oneOrMore (preference : Preference) : Pattern → Pattern
  | set m => seq (set m) (star preference (set m))
  | body => loop preference body

/-- `least` matches of the body or more. -/
def atLeast (preference : Preference) (body : Pattern) : (least : Nat) → Pattern
  | 0 =>
    if body.canBeEmpty then optional preference (oneOrMore preference body)
    else star preference body
  | 1 => oneOrMore preference body
  | n + 2 => seq (times body (n + 1)) (oneOrMore preference body)

/-- At least `least` matches of the body, and at most `most` where that is given. -/
def counted (preference : Preference) (body : Pattern) (least : Nat) (most : Option Nat) : Pattern :=
  match least, most with
  | least, none => atLeast preference body least
  | 0, some most => upTo preference body most
  | least, some most =>
    if least = most then times body least
    else seq (times body least) (upTo preference body (most - least))

/-- The number of parts the pattern is made of. -/
def size : Pattern → Nat
  | empty | set _ | assertion _ => 1
  | seq p q | either p q => p.size + q.size + 1
  | star _ p | loop _ p => p.size + 1

end Pattern

/-! ## Spots -/

/-- A place inside a text, reached by a match that has used `used` characters. -/
structure Spot where
  /-- The character before the place, if there is one. -/
  before : Option Char
  /-- The characters after the place. -/
  rest : List Char
  /-- How many characters lie between the start of the match and the place. -/
  used : Nat
  deriving DecidableEq, Repr

/-- Whether a neighbour of a place is a word character; the ends of the text are not. -/
def isWordSide : Option Char → Bool
  | some c => Unicode.isWord c
  | none => false

/-- Whether the assertion holds at the place. A line ends before a line feed or at the end of the text. -/
def Assertion.holds (a : Assertion) (s : Spot) : Bool :=
  match a with
  | .textStart => s.before.isNone
  | .textEnd => s.rest.isEmpty
  | .lineStart => s.before.isNone || s.before == some '\n'
  | .lineEnd => s.rest.isEmpty || s.rest.head? == some '\n'
  | .wordBoundary => isWordSide s.before != isWordSide s.rest.head?
  | .noWordBoundary => isWordSide s.before == isWordSide s.rest.head?

/-- Places in the order in which they were listed, without repeats. -/
structure Trail where
  /-- The places, newest first. -/
  spots : List Spot
  /-- The numbers of characters that the places have used, as ranges of their first and last. -/
  ranges : List (Nat × Nat)
  deriving DecidableEq, Repr

namespace Trail

/-- No place. -/
def empty : Trail := ⟨[], []⟩

/-- Whether a number lies in one of some ranges. -/
def covers (ranges : List (Nat × Nat)) (n : Nat) : Bool :=
  ranges.any fun (low, high) => low ≤ n && n ≤ high

/-- Ranges that cover one more number. Places are mostly listed one after the other, so the newest range is
    extended where that is possible. -/
def cover (n : Nat) : List (Nat × Nat) → List (Nat × Nat)
  | [] => [(n, n)]
  | (low, high) :: ranges =>
    if n + 1 = low then (n, high) :: ranges
    else if n = high + 1 then (low, n) :: ranges
    else (n, n) :: (low, high) :: ranges

/-- Whether a place is listed. -/
def has (t : Trail) (s : Spot) : Bool := covers t.ranges s.used

/-- The trail with one more place, unless it is listed already. -/
def add (t : Trail) (s : Spot) : Trail := if t.has s then t else ⟨s :: t.spots, cover s.used t.ranges⟩

/-- The places in the order in which they were listed. -/
def toList (t : Trail) : List Spot := t.spots.reverse

theorem covers_cons (low high m : Nat) (ranges : List (Nat × Nat)) :
    covers ((low, high) :: ranges) m = true ↔ (low ≤ m ∧ m ≤ high) ∨ covers ranges m = true := by
  simp [covers]

theorem covers_cover {n m : Nat} {ranges : List (Nat × Nat)} (ordered : ∀ r ∈ ranges, r.1 ≤ r.2) :
    covers (cover n ranges) m = true ↔ m = n ∨ covers ranges m = true := by
  match ranges with
  | [] => simp only [cover, covers_cons]; exact or_congr_left (by omega)
  | (low, high) :: ranges =>
    have := ordered (low, high) (by simp)
    simp only [cover]
    split
    · rw [covers_cons, covers_cons, ← or_assoc]; exact or_congr_left (by omega)
    · split
      · rw [covers_cons, covers_cons, ← or_assoc]; exact or_congr_left (by omega)
      · rw [covers_cons]; exact or_congr_left (by omega)

end Trail

namespace Spot

/-- The places without repeats, in the order in which each is first seen. -/
def distinct (spots : List Spot) : List Spot := (spots.foldl Trail.add .empty).toList

/-- The place behind the next character, if that is in the set. -/
def past (m : CharSet) (s : Spot) : List Spot :=
  match s.rest with
  | [] => []
  | c :: rest => if m.contains c then [⟨some c, rest, s.used + 1⟩] else []

/-- The places that `step` reaches from some of the given ones. From a single place nothing can be reached
    twice. -/
def andThen (step : Spot → List Spot) : List Spot → List Spot
  | [] => []
  | [s] => step s
  | spots => distinct (spots.flatMap step)

end Spot

/-! ## Rounds -/

/-- A place on the way through a repetition. -/
structure Waypoint where
  /-- The place. -/
  spot : Spot
  /-- The branchings passed since the last character. A branching is known by the steps from it up to the
      whole pattern: whether it lies in the second part or not. -/
  passed : List (List Bool)
  deriving DecidableEq, Repr

namespace Waypoint

/-- The waypoint with one more branching passed. -/
def pass (branching : List Bool) (s : Waypoint) : Waypoint := { s with passed := branching :: s.passed }

/-- The waypoints at different places, of each place the first one. -/
def distinct (ways : List Waypoint) : List Waypoint :=
  (ways.foldl (fun (seen, listed) s =>
    if Trail.covers seen s.spot.used then (seen, listed)
    else (Trail.cover s.spot.used seen, s :: listed)) (([], []) : List (Nat × Nat) × List Waypoint)).2.reverse

end Waypoint

/-- How far the rounds of a repetition have been followed. -/
structure Rounds where
  /-- The numbers of characters used where a round has ended, as ranges of their first and last. -/
  entered : List (Nat × Nat)
  /-- The waypoints where the repetition may end, newest first. -/
  listed : List Waypoint
  deriving DecidableEq, Repr

namespace Rounds

/-- No round yet. -/
def start : Rounds := ⟨[], []⟩

/-- One more waypoint where the repetition may end. -/
def list (r : Rounds) (s : Waypoint) : Rounds := { r with listed := s :: r.listed }

/-- One more place where a round has ended. -/
def enter (r : Rounds) (s : Waypoint) : Rounds := { r with entered := Trail.cover s.spot.used r.entered }

/-- Follows the rounds from a waypoint where one has ended; `branching` is the choice between a further
    round and the end of the repetition. The recursion takes one character of `fuel` for each round: rounds
    inside one another end at different places, so there are no more of them than characters, but for the
    last, behind which no place is new. -/
def follow (preference : Preference) (branching : List Bool) (step : Waypoint → List Waypoint) :
    (fuel : List Char) → Rounds → Waypoint → Rounds
  | fuel, r, s =>
    if s.passed.contains branching || Trail.covers r.entered s.spot.used then r
    else
      let here := s.pass branching
      let r := r.enter s
      match fuel, preference with
      | [], _ => r.list here
      | _ :: fuel, .more => ((step here).foldl (follow preference branching step fuel) r).list here
      | _ :: fuel, .fewer => (step here).foldl (follow preference branching step fuel) (r.list here)

end Rounds

namespace Pattern

/-- The waypoints where a match from the given one can end, the preferred one first. `path` leads from the
    pattern up to the whole repetition. -/
def waypoints : Pattern → (path : List Bool) → Waypoint → List Waypoint
  | empty, _, s => [s]
  | set m, _, s => (s.spot.past m).map (⟨·, []⟩)
  | assertion a, _, s => if a.holds s.spot then [s] else []
  | seq p q, path, s =>
    Waypoint.distinct ((p.waypoints (false :: path) s).flatMap (q.waypoints (true :: path)))
  | either p q, path, s =>
    if s.passed.contains path then []
    else
      let here := s.pass path
      Waypoint.distinct (p.waypoints (false :: path) here ++ q.waypoints (true :: path) here)
  | star preference p, path, s =>
    (Rounds.follow preference path (p.waypoints (false :: path)) s.spot.rest .start s).listed.reverse
  | loop preference p, path, s =>
    ((p.waypoints (false :: path) s).foldl
      (Rounds.follow preference path (p.waypoints (false :: path)) s.spot.rest) .start).listed.reverse

end Pattern

/-! ## Matching -/

namespace Spot

/-- The place itself and those reached by stepping over characters of a set, farthest first, in front of
    `nearer`. -/
def runOver (member : Char → Bool) (nearer : List Spot) (before : Option Char) :
    List Char → Nat → List Spot
  | [], used => ⟨before, [], used⟩ :: nearer
  | c :: rest, used =>
    if member c then runOver member (⟨before, c :: rest, used⟩ :: nearer) (some c) rest (used + 1)
    else ⟨before, c :: rest, used⟩ :: nearer

/-- The farthest place reached by stepping over characters of a set. -/
def farthest (member : Char → Bool) (before : Option Char) : List Char → Nat → Spot
  | [], used => ⟨before, [], used⟩
  | c :: rest, used =>
    if member c then farthest member (some c) rest (used + 1) else ⟨before, c :: rest, used⟩

/-- Lists the places reached by repeating `step`, which uses a character each time. Where more rounds are
    preferred, everything that further rounds reach comes before the place itself, otherwise behind it. The
    recursion takes one character of `fuel` for each round. -/
def repeated (preference : Preference) (step : Spot → List Spot) :
    (fuel : List Char) → Trail → Spot → Trail
  | fuel, seen, s =>
    if seen.has s then seen
    else
      match fuel, preference with
      | [], _ => seen.add s
      | _ :: fuel, .more => ((step s).foldl (repeated preference step fuel) seen).add s
      | _ :: fuel, .fewer => (step s).foldl (repeated preference step fuel) (seen.add s)

end Spot

namespace Pattern

/-- The places where a match from the given place can end, the preferred one first. -/
def ends : Pattern → Spot → List Spot
  | empty, s => [s]
  | set m, s => s.past m
  | assertion a, s => if a.holds s then [s] else []
  | seq p q, s => Spot.andThen q.ends (p.ends s)
  | either p q, s => Spot.distinct (p.ends s ++ q.ends s)
  | star .more (set m), s => Spot.runOver m.contains [] s.before s.rest s.used
  | star .fewer (set m), s => (Spot.runOver m.contains [] s.before s.rest s.used).reverse
  | star preference p, s => (Spot.repeated preference p.ends s.rest .empty s).toList
  | loop preference p, s =>
    if p.canBeEmpty then ((loop preference p).waypoints [] ⟨s, []⟩).map (·.spot)
    else ((p.ends s).foldl (Spot.repeated preference p.ends s.rest) .empty).toList

/-- The place where the preferred match from the given place ends. -/
def first? : Pattern → Spot → Option Spot
  | seq p q, s => (p.ends s).findSome? q.first?
  | either p q, s =>
    match p.first? s with
    | some e => some e
    | none => q.first? s
  | star .more (set m), s => some (Spot.farthest m.contains s.before s.rest s.used)
  | p, s => (p.ends s).head?

/-- The number of characters in the preferred match at the start of `rest`, where `before` is the
    character in front of it. -/
def matchLength? (p : Pattern) (before : Option Char) (rest : List Char) : Option Nat :=
  (p.first? ⟨before, rest, 0⟩).map (·.used)

end Pattern

end Highlighter
