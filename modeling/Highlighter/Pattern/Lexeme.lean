import Highlighter.Pattern
import Highlighter.Pattern.Expression

/-!
The pieces that the text of a pattern is made of. What a piece means can depend on the flags in force where
it stands.

A backslash introduces a character given by name, number or itself, a class of characters, or an assertion. A
bracketed set is made of characters, ranges, escapes, named ASCII classes, nested brackets and negation, and of
the operations `&&`, `--` and `~~`, which join everything written to their left with what follows up to the next
operation.
-/

namespace Highlighter

/-! ## Escapes -/

/-- The meaning of an escape. -/
inductive Escape where
  | char (c : Char)
  | property (p : CharProperty) (negated : Bool)
  | assertion (a : Assertion)
  deriving DecidableEq, Repr

/-- The value of a hexadecimal digit. -/
def hexValue? (c : Char) : Option Nat :=
  if '0' ≤ c ∧ c ≤ '9' then some (c.toNat - 48)
  else if 'a' ≤ c ∧ c ≤ 'f' then some (c.toNat - 87)
  else if 'A' ≤ c ∧ c ≤ 'F' then some (c.toNat - 55)
  else none

/-- The number written by hexadecimal digits, most significant first, after those worth `high`. -/
def hexNumber? (high : Nat) : List Char → Option Nat
  | [] => some high
  | c :: cs => (hexValue? c).bind fun d => hexNumber? (16 * high + d) cs

/-- The character with a given number, unless the number is out of range or a surrogate. -/
def charOfNumber? (n : Nat) : Option Char := if n.isValidChar then some (Char.ofNat n) else none

namespace Escape

/-- Reads a character number: either digits in braces, or exactly `width` digits. -/
def readNumber (width : Nat) : List Char → Option (Escape × List Char)
  | '{' :: cs =>
    let digits := cs.takeWhile (· != '}')
    match cs.dropWhile (· != '}') with
    | _ :: rest =>
      if digits.isEmpty then none
      else do
        let c ← charOfNumber? (← hexNumber? 0 digits)
        some (.char c, rest)
    | [] => none
  | cs =>
    if cs.length < width then none
    else do
      let c ← charOfNumber? (← hexNumber? 0 (cs.take width))
      some (.char c, cs.drop width)

/-- The name of a property without what does not matter in it: case, spaces, underscores, hyphens, characters
    beyond ASCII, and the word `is` in front. -/
def plainName (name : List Char) : List Char :=
  let name := match name with
    | i :: s :: rest => if i.toLower = 'i' ∧ s.toLower = 's' then rest else name
    | _ => name
  (name.filter fun c => c != ' ' && c != '_' && c != '-' && c.toNat < 128).map Char.toLower

/-- The property of a given name. -/
def propertyNamed? (name : List Char) : Option CharProperty :=
  match plainName name with
  | ['l'] | ['l', 'e', 't', 't', 'e', 'r'] => some .letter
  | ['n'] | ['n', 'u', 'm', 'b', 'e', 'r'] => some .number
  | ['l', 'u'] | ['u', 'p', 'p', 'e', 'r', 'c', 'a', 's', 'e', 'l', 'e', 't', 't', 'e', 'r'] =>
    some .uppercase
  | ['l', 'l'] | ['l', 'o', 'w', 'e', 'r', 'c', 'a', 's', 'e', 'l', 'e', 't', 't', 'e', 'r'] =>
    some .lowercase
  | ['n', 'd'] | ['d', 'e', 'c', 'i', 'm', 'a', 'l', 'n', 'u', 'm', 'b', 'e', 'r'] => some .decimalDigit
  | _ => none

/-- Reads the name of a property: one letter, or any name in braces. -/
def readProperty (negated : Bool) : List Char → Option (Escape × List Char)
  | '{' :: cs =>
    match cs.dropWhile (· != '}') with
    | _ :: rest => (propertyNamed? (cs.takeWhile (· != '}'))).map fun p => (.property p negated, rest)
    | [] => none
  | c :: rest => (propertyNamed? [c]).map fun p => (.property p negated, rest)
  | [] => none

/-- Whether a backslash makes the character stand for itself. Letters and digits are kept for escapes
    with a meaning of their own, and so are angle brackets. -/
def standsForItself (c : Char) : Bool :=
  c.toNat < 128 && !c.isAlphanum && c != '<' && c != '>'

/-- Reads the escape that follows a backslash. -/
def read : List Char → Option (Escape × List Char)
  | [] => none
  | 'a' :: cs => some (.char '\x07', cs)
  | 'f' :: cs => some (.char '\x0c', cs)
  | 'n' :: cs => some (.char '\n', cs)
  | 'r' :: cs => some (.char '\r', cs)
  | 't' :: cs => some (.char '\t', cs)
  | 'v' :: cs => some (.char '\x0b', cs)
  | 'x' :: cs => readNumber 2 cs
  | 'u' :: cs => readNumber 4 cs
  | 'U' :: cs => readNumber 8 cs
  | 'd' :: cs => some (.property .decimalDigit false, cs)
  | 'D' :: cs => some (.property .decimalDigit true, cs)
  | 's' :: cs => some (.property .whiteSpace false, cs)
  | 'S' :: cs => some (.property .whiteSpace true, cs)
  | 'w' :: cs => some (.property .word false, cs)
  | 'W' :: cs => some (.property .word true, cs)
  | 'p' :: cs => readProperty false cs
  | 'P' :: cs => readProperty true cs
  | 'A' :: cs => some (.assertion .textStart, cs)
  | 'z' :: cs => some (.assertion .textEnd, cs)
  | 'b' :: cs => some (.assertion .wordBoundary, cs)
  | 'B' :: cs => some (.assertion .noWordBoundary, cs)
  | c :: cs => if standsForItself c then some (.char c, cs) else none

end Escape

/-- The set of a property or of its complement. Where case does not matter, the property is closed under
    case before the complement is taken. -/
def CharSet.ofProperty (caseless : Bool) (p : CharProperty) (negated : Bool) : CharSet :=
  let members := if caseless then CharSet.caseless (.property p) else .property p
  if negated then .compl members else members

/-! ## Brackets -/

/-- The operations between parts of a bracketed set. -/
inductive SetOperation where
  | intersection
  | difference
  | symmetricDifference
  deriving DecidableEq, Repr

/-- The set that an operation yields. -/
def SetOperation.apply : SetOperation → CharSet → CharSet → CharSet
  | .intersection, a, b => .inter a b
  | .difference, a, b => .sdiff a b
  | .symmetricDifference, a, b => .symmDiff a b

/-- A bracketed set of which the closing bracket has not been read. -/
structure Bracket where
  /-- Whether the set is the complement of what the bracket lists. -/
  negated : Bool
  /-- The part before the last operation, and that operation. -/
  pending : Option (CharSet × SetOperation)
  /-- The union of what was read since. -/
  items : CharSet
  deriving DecidableEq, Repr

namespace Bracket

/-- One more item. -/
def add (b : Bracket) (s : CharSet) : Bracket :=
  { b with items := if b.items = .empty then s else .union b.items s }

/-- What the bracket lists so far. -/
def listed (caseless : Bool) (b : Bracket) : CharSet :=
  let items := if caseless then .caseless b.items else b.items
  match b.pending with
  | none => items
  | some (left, operation) => operation.apply left items

/-- An operation after what was read. -/
def operate (caseless : Bool) (operation : SetOperation) (b : Bracket) : Bracket :=
  { b with pending := some (b.listed caseless, operation), items := .empty }

/-- The set that the closed bracket stands for. -/
def close (caseless : Bool) (b : Bracket) : CharSet :=
  if b.negated then .compl (b.listed caseless) else b.listed caseless

/-- The hyphens at the start of a bracket, which are characters. -/
def readHyphens (b : Bracket) : List Char → Bracket × List Char
  | '-' :: cs => readHyphens (b.add (.single '-')) cs
  | cs => (b, cs)

/-- Reads what directly follows an opening bracket: the sign of a complement, and the characters that
    would mean something else further on, which are hyphens and then, if there are none, a closing bracket. -/
def readStart (cs : List Char) : Bracket × List Char :=
  let (negated, cs) := match cs with
    | '^' :: cs => (true, cs)
    | cs => (false, cs)
  match readHyphens ⟨negated, none, .empty⟩ cs with
  | (⟨negated, none, .empty⟩, ']' :: cs) => (⟨negated, none, .single ']'⟩, cs)
  | opened => opened

/-- The members of a named ASCII class. -/
def asciiClass? (name : List Char) : Option CharSet :=
  let digit := CharSet.range '0' '9'
  let lower := CharSet.range 'a' 'z'
  let upper := CharSet.range 'A' 'Z'
  let alpha := CharSet.union upper lower
  if name = ['a', 'l', 'n', 'u', 'm'] then some (.union digit alpha)
  else if name = ['a', 'l', 'p', 'h', 'a'] then some alpha
  else if name = ['a', 's', 'c', 'i', 'i'] then some (.range '\x00' '\x7f')
  else if name = ['b', 'l', 'a', 'n', 'k'] then some (.union (.single '\t') (.single ' '))
  else if name = ['c', 'n', 't', 'r', 'l'] then some (.union (.range '\x00' '\x1f') (.single '\x7f'))
  else if name = ['d', 'i', 'g', 'i', 't'] then some digit
  else if name = ['g', 'r', 'a', 'p', 'h'] then some (.range '!' '~')
  else if name = ['l', 'o', 'w', 'e', 'r'] then some lower
  else if name = ['p', 'r', 'i', 'n', 't'] then some (.range ' ' '~')
  else if name = ['p', 'u', 'n', 'c', 't'] then
    some (.union (.range '!' '/') (.union (.range ':' '@') (.union (.range '[' '\x60') (.range '\x7b' '~'))))
  else if name = ['s', 'p', 'a', 'c', 'e'] then some (.union (.range '\t' '\r') (.single ' '))
  else if name = ['u', 'p', 'p', 'e', 'r'] then some upper
  else if name = ['w', 'o', 'r', 'd'] then some (.union digit (.union alpha (.single '_')))
  else if name = ['x', 'd', 'i', 'g', 'i', 't'] then
    some (.union digit (.union (.range 'A' 'F') (.range 'a' 'f')))
  else none

/-- Reads a named ASCII class, after the bracket that opens it: a colon, perhaps the sign of a
    complement, the name, a colon and a bracket. -/
def readAsciiClass? : List Char → Option (CharSet × List Char)
  | ':' :: cs =>
    let (negated, cs) := match cs with
      | '^' :: cs => (true, cs)
      | cs => (false, cs)
    match cs.dropWhile (· != ':') with
    | ':' :: ']' :: rest =>
      (asciiClass? (cs.takeWhile (· != ':'))).map fun s => (if negated then .compl s else s, rest)
    | _ => none
  | _ => none

/-- Reads one end of a range, or an item that is no range: a character or an escape. Assertions have no
    place in a set. -/
def readEnd : List Char → Option (Escape × List Char)
  | [] => none
  | '\\' :: cs =>
    match Escape.read cs with
    | some (.assertion _, _) => none
    | other => other
  | c :: cs => some (.char c, cs)

/-- Reads an item: one character or class, or a range. A hyphen makes a range unless the bracket or the
    operation `--` follows it; the ends of a range are characters in ascending order. -/
def readItem (caseless : Bool) (cs : List Char) : Option (CharSet × List Char) := do
  let (first, rest) ← readEnd cs
  let alone : CharSet := match first with
    | .property p negated => .ofProperty caseless p negated
    | .char c => .single c
    | .assertion _ => .empty
  match rest with
  | '-' :: ']' :: _ | '-' :: '-' :: _ => some (alone, rest)
  | '-' :: more =>
    match first, ← readEnd more with
    | .char low, (.char high, rest) => if low ≤ high then some (.range low high, rest) else none
    | _, _ => none
  | _ => some (alone, rest)

/-- Reads the rest of a bracketed set. `outer` holds the brackets around `b`, the innermost first; each
    round reads at least one character, so `fuel` rounds are enough for as many characters. -/
def readRest (caseless : Bool) :
    (fuel : Nat) → (b : Bracket) → (outer : List Bracket) → List Char → Option (CharSet × List Char)
  | 0, _, _, _ => none
  | fuel + 1, b, outer, cs =>
    match cs with
    | '[' :: cs =>
      match readAsciiClass? cs with
      | some (s, rest) => readRest caseless fuel (b.add s) outer rest
      | none =>
        let (opened, rest) := readStart cs
        readRest caseless fuel opened (b :: outer) rest
    | ']' :: cs =>
      match outer with
      | [] => some (b.close caseless, cs)
      | around :: outer => readRest caseless fuel (around.add (b.close caseless)) outer cs
    | '&' :: '&' :: cs => readRest caseless fuel (b.operate caseless .intersection) outer cs
    | '-' :: '-' :: cs => readRest caseless fuel (b.operate caseless .difference) outer cs
    | '~' :: '~' :: cs => readRest caseless fuel (b.operate caseless .symmetricDifference) outer cs
    | cs => do
      let (s, rest) ← readItem caseless cs
      readRest caseless fuel (b.add s) outer rest

/-- Reads a bracketed set after its opening bracket. -/
def read (caseless : Bool) (cs : List Char) : Option (CharSet × List Char) :=
  let (opened, rest) := readStart cs
  readRest caseless (rest.length + 1) opened [] rest

end Bracket

/-! ## Lexemes -/

namespace Pattern

/-- The flags that change what the text of a pattern means. -/
structure Flags where
  /-- `i`: letters stand for both their cases. -/
  caseless : Bool
  /-- `m`: `^` and `$` match at the ends of each line. -/
  multiline : Bool
  /-- `s`: the dot stands for line feeds as well. -/
  dotAll : Bool
  deriving DecidableEq, Repr

/-- No flag is set. -/
def Flags.none : Flags := ⟨false, false, false⟩

/-- The flags after one of them is set or cleared, if the letter names a flag. -/
def Flags.assign? (f : Flags) (letter : Char) (value : Bool) : Option Flags :=
  if letter = 'i' then some { f with caseless := value }
  else if letter = 'm' then some { f with multiline := value }
  else if letter = 's' then some { f with dotAll := value }
  else Option.none

/-- A piece of a pattern's text. -/
inductive Lexeme where
  /-- Something that matches on its own. -/
  | atom (e : Expression)
  /-- A repetition of what stands before it. -/
  | counted (preference : Preference) (least : Nat) (most : Option Nat)
  /-- The bar between alternatives. -/
  | bar
  /-- The start of a group, with the flags inside it. -/
  | openGroup (flags : Flags)
  /-- The start of a group that captures, with its name and the flags inside it. -/
  | openCapture (name : Option (List Char)) (flags : Flags)
  /-- The end of a group. -/
  | closeGroup
  /-- New flags for the rest of the group. -/
  | setFlags (flags : Flags)
  deriving DecidableEq, Repr

namespace Lexeme

/-- The largest number that a repetition can be given. -/
def largestCount : Nat := 4294967295

/-- The value of a run of decimal digits. -/
def decimalValue (digits : List Char) : Nat := digits.foldl (fun n c => 10 * n + (c.toNat - 48)) 0

/-- Reads a decimal number with blanks around it. -/
def readCount (cs : List Char) : Option (Nat × List Char) :=
  let cs := cs.dropWhile Unicode.isWhiteSpace
  let digits := cs.takeWhile Char.isDigit
  if digits.isEmpty ∨ largestCount < decimalValue digits then none
  else some (decimalValue digits, (cs.dropWhile Char.isDigit).dropWhile Unicode.isWhiteSpace)

/-- Reads the mark of a repetition that prefers fewer rounds. -/
def readPreference : List Char → Preference × List Char
  | '?' :: cs => (.fewer, cs)
  | cs => (.more, cs)

/-- The repetition with the preference written after it. -/
def countedBy (least : Nat) (most : Option Nat) (cs : List Char) : Lexeme × List Char :=
  let (preference, rest) := readPreference cs
  (.counted preference least most, rest)

/-- Reads a repetition in braces, after the opening one: a number, a lower bound, or two bounds in
    ascending order. -/
def readBraces (cs : List Char) : Option (Lexeme × List Char) := do
  let (least, rest) ← readCount cs
  match rest with
  | '}' :: rest => some (countedBy least (some least) rest)
  | ',' :: '}' :: rest => some (countedBy least none rest)
  | ',' :: rest =>
    match ← readCount rest with
    | (most, '}' :: rest) => if least ≤ most then some (countedBy least (some most) rest) else none
    | _ => none
  | _ => none

/-- Whether the characters can be the name of a group: a letter or an underscore, followed by letters,
    numbers, underscores, dots and square brackets. -/
def isGroupName : List Char → Bool
  | [] => false
  | c :: cs => (c == '_' || Unicode.isLetter c) &&
    cs.all fun c => c == '_' || c == '.' || c == '[' || c == ']' || Unicode.isLetter c || Unicode.isNumber c

/-- Reads the name of a group, up to the angle bracket that closes it. -/
def readGroupName (flags : Flags) (cs : List Char) : Option (Lexeme × List Char) :=
  match cs.dropWhile (· != '>') with
  | _ :: rest =>
    let name := cs.takeWhile (· != '>')
    if isGroupName name then some (.openCapture (some name) flags, rest) else none
  | [] => none

/-- Reads flags up to the colon that opens a group or the parenthesis that ends the list. Each letter
    stands at most once; those after a hyphen are cleared, and a hyphen has a letter after it. -/
def readFlags (flags : Flags) (seen : List Char) (negated afterHyphen : Bool) :
    List Char → Option (Lexeme × List Char)
  | [] => none
  | ':' :: cs => if afterHyphen then none else some (.openGroup flags, cs)
  | ')' :: cs => if afterHyphen ∨ seen.isEmpty then none else some (.setFlags flags, cs)
  | '-' :: cs => if negated then none else readFlags flags seen true true cs
  | c :: cs =>
    if c ∈ seen then none
    else
      match flags.assign? c (!negated) with
      | some flags => readFlags flags (c :: seen) negated false cs
      | none => none

/-- Reads what an opening parenthesis introduces. -/
def readGroup (flags : Flags) : List Char → Option (Lexeme × List Char)
  | '?' :: 'P' :: '<' :: cs => readGroupName flags cs
  | '?' :: '<' :: cs => readGroupName flags cs
  | '?' :: cs => readFlags flags [] false false cs
  | cs => some (.openCapture none flags, cs)

/-- The expression of one written character. -/
def literal (flags : Flags) (c : Char) : Expression :=
  if flags.caseless ∧ Unicode.caseVariants c ≠ [c] then .set (.caseless (.single c)) else .text [c]

/-- The expression of an escape. -/
def ofEscape (flags : Flags) : Escape → Expression
  | .char c => literal flags c
  | .property p negated => .set (.ofProperty flags.caseless p negated)
  | .assertion a => .assertion a

/-- Reads the next piece of a pattern's text. -/
def read (flags : Flags) : List Char → Option (Lexeme × List Char)
  | [] => none
  | '|' :: cs => some (.bar, cs)
  | '(' :: cs => readGroup flags cs
  | ')' :: cs => some (.closeGroup, cs)
  | '*' :: cs => some (countedBy 0 none cs)
  | '+' :: cs => some (countedBy 1 none cs)
  | '?' :: cs => some (countedBy 0 (some 1) cs)
  | '{' :: cs => readBraces cs
  | '[' :: cs => (Bracket.read flags.caseless cs).map fun (s, rest) => (.atom (.ofSet s), rest)
  | '.' :: cs => some (.atom (.set (if flags.dotAll then .all else .compl (.single '\n'))), cs)
  | '^' :: cs => some (.atom (.assertion (if flags.multiline then .lineStart else .textStart)), cs)
  | '$' :: cs => some (.atom (.assertion (if flags.multiline then .lineEnd else .textEnd)), cs)
  | '\\' :: cs => (Escape.read cs).map fun (e, rest) => (.atom (ofEscape flags e), rest)
  | c :: cs => some (.atom (literal flags c), cs)

end Lexeme

end Pattern

end Highlighter
