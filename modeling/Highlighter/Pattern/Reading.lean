import Highlighter.Pattern.Lexeme

/-!
Reading a pattern from its text. The pieces are taken from left to right; an opening parenthesis starts a
new draft on top of the drafts of the groups around it, and a closing one turns the top draft into an
item of the group below.
-/

namespace Highlighter

namespace Pattern

/-- An expression that has been read. -/
structure Part where
  expression : Expression
  /-- How many groups, repetitions, sequences and choices lie inside one another as it is written. -/
  depth : Nat
  deriving DecidableEq, Repr

namespace Part

/-- The depth of the deepest of some parts. -/
def deepest (parts : List Part) : Nat := parts.foldl (fun depth p => max depth p.depth) 0

/-- Parts that stand one after the other. -/
def sequence (parts : List Part) : Part :=
  ⟨.sequence (parts.map (·.expression)), deepest parts + if parts.length < 2 then 0 else 1⟩

/-- A choice between parts. -/
def choice (parts : List Part) : Part := ⟨.choice (parts.map (·.expression)), deepest parts + 1⟩

/-- A part that is repeated. -/
def repeated (preference : Preference) (least : Nat) (most : Option Nat) (p : Part) : Part :=
  ⟨.repeated preference least most p.expression, p.depth + 1⟩

/-- A part in parentheses, which capture if they have a number. -/
def group (number : Option Nat) (p : Part) : Part :=
  ⟨match number with
    | none => p.expression
    | some number => .capture number p.expression,
   p.depth + 1⟩

end Part

/-- A group of which the end has not been read. -/
structure Draft where
  /-- The number of the group if it captures. -/
  number : Option Nat
  /-- The flags in force. -/
  flags : Flags
  /-- The alternatives before the last bar, newest first. -/
  branches : List Part
  /-- The items since the last bar, newest first. -/
  items : List Part
  /-- Whether the newest item can be repeated. -/
  repeatable : Bool
  deriving DecidableEq, Repr

namespace Draft

/-- A group without content. -/
def start (number : Option Nat) (flags : Flags) : Draft := ⟨number, flags, [], [], false⟩

/-- The items since the last bar. -/
def branch (d : Draft) : Part := .sequence d.items.reverse

/-- What the group contains. -/
def content (d : Draft) : Part :=
  if d.branches.isEmpty then d.branch else .choice (d.branch :: d.branches).reverse

/-- One more item. -/
def add (d : Draft) (p : Part) : Draft := { d with items := p :: d.items, repeatable := true }

/-- A bar behind the items. -/
def addBar (d : Draft) : Draft :=
  { d with branches := d.branch :: d.branches, items := [], repeatable := false }

/-- New flags for what follows. Their place counts as an item, but it cannot be repeated. -/
def setFlags (d : Draft) (flags : Flags) : Draft :=
  { d with flags := flags, items := ⟨.empty, 0⟩ :: d.items, repeatable := false }

end Draft

/-- What has been read of a pattern's text. -/
structure Reading where
  /-- The innermost open group, or the whole pattern. -/
  current : Draft
  /-- The groups around it, the innermost first. -/
  outer : List Draft
  /-- How many groups that capture have been opened. -/
  captures : Nat
  /-- The names given to groups. -/
  names : List (List Char)
  deriving DecidableEq, Repr

namespace Reading

/-- The most parts that a repetition may spell out. -/
def largestSize : Nat := 327680

/-- The deepest nesting of groups, repetitions, sequences and choices. -/
def largestDepth : Nat := 250

/-- Opens a group inside the innermost one. -/
def openGroup (r : Reading) (number : Option Nat) (flags : Flags) : Reading :=
  { r with current := .start number flags, outer := r.current :: r.outer }

/-- Opens a group that captures. -/
def openCapture (r : Reading) (flags : Flags) : Reading :=
  { r.openGroup (some r.captures) flags with captures := r.captures + 1 }

/-- The reading after one more piece. -/
def add (r : Reading) : Lexeme → Option Reading
  | .atom e => some { r with current := r.current.add ⟨e, 0⟩ }
  | .counted preference least most =>
    match r.current.repeatable, r.current.items with
    | true, body :: items =>
      let repetition := body.repeated preference least most
      if largestSize < repetition.expression.size then none
      else some { r with current := { r.current with items := items }.add repetition }
    | _, _ => none
  | .bar => some { r with current := r.current.addBar }
  | .openGroup flags => some (r.openGroup none flags)
  | .openCapture none flags => some (r.openCapture flags)
  | .openCapture (some name) flags =>
    if name ∈ r.names then none else some { r.openCapture flags with names := name :: r.names }
  | .closeGroup =>
    match r.outer with
    | [] => none
    | around :: outer =>
      some { r with current := around.add (r.current.content.group r.current.number), outer := outer }
  | .setFlags flags => some { r with current := r.current.setFlags flags }

/-- The expression that was read, unless a group is still open or the nesting is too deep. -/
def finish (r : Reading) : Option Expression :=
  let whole := r.current.content
  if r.outer.isEmpty ∧ whole.depth ≤ largestDepth then some whole.expression else none

/-- Reads the rest of the text. Each round reads at least one character, so `fuel` rounds are enough for
    as many characters. -/
def readAll : (fuel : Nat) → Reading → List Char → Option Expression
  | _, r, [] => r.finish
  | 0, _, _ :: _ => none
  | fuel + 1, r, c :: cs => do
    let (piece, rest) ← Lexeme.read r.current.flags (c :: cs)
    readAll fuel (← r.add piece) rest

end Reading

/-- The pattern that a list of characters writes, or `none` if they are not the text of a pattern. -/
def ofChars? (cs : List Char) : Option Pattern :=
  (Reading.readAll cs.length ⟨.start none .none, [], 0, []⟩ cs).map (·.pattern)

/-- The pattern that a text writes, or `none` if it is not the text of a pattern. -/
def parse? (text : String) : Option Pattern := ofChars? text.toList

end Pattern

end Highlighter
