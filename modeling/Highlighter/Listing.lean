/-!
Listings of the names that the GameMaker runtime defines, which are read into three sets of words.

A listing is a text with one name at the start of each line, a run of ASCII letters, digits and underscores;
lines that begin otherwise are ignored. A `#` anywhere after the name marks a constant, a `&` without a `#` a
deprecated name, and neither an ordinary builtin. Where a name is listed more than once, its first line counts.
-/

namespace Highlighter

/-! ## Vocabularies -/

/-- A set of words, kept in ascending order of their characters. -/
structure Vocabulary where
  toList : List String
  deriving DecidableEq, Repr

namespace Vocabulary

/-- The set without words. -/
def empty : Vocabulary := ⟨[]⟩

/-- Whether a word belongs to the set. -/
def contains (v : Vocabulary) (word : String) : Bool := v.toList.contains word

/-- Whether the set has no word. -/
def isEmpty (v : Vocabulary) : Bool := v.toList.isEmpty

/-- An ascending list with a word at its place; a word that is there already is not repeated. -/
def insertInto (word : String) : List String → List String
  | [] => [word]
  | w :: words =>
    if word < w then word :: w :: words
    else if word = w then w :: words
    else w :: insertInto word words

/-- The set with one more word. -/
def insert (v : Vocabulary) (word : String) : Vocabulary := ⟨insertInto word v.toList⟩

/-- The set of the listed words. -/
def ofList (words : List String) : Vocabulary := words.foldl insert empty

/-- The words of both sets. -/
def union (v w : Vocabulary) : Vocabulary := w.toList.foldl insert v

theorem mem_insertInto {w word : String} {words : List String} :
    w ∈ insertInto word words ↔ w = word ∨ w ∈ words := by
  induction words with
  | nil => simp [insertInto]
  | cons x words ih =>
    rw [insertInto]
    split
    · simp
    · split
      · rename_i same
        simp [same]
      · simp [ih, or_left_comm]

theorem contains_insert (v : Vocabulary) (word w : String) :
    (v.insert word).contains w = (w == word || v.contains w) := by
  rw [Bool.eq_iff_iff]
  simp [contains, insert, mem_insertInto]

theorem contains_foldl_insert (words : List String) (w : String) :
    ∀ v : Vocabulary, (words.foldl insert v).contains w = (v.contains w || words.contains w) := by
  induction words with
  | nil => intro v; simp
  | cons word words ih =>
    intro v
    rw [List.foldl_cons, ih, contains_insert, List.contains_cons, Bool.or_comm (w == word), Bool.or_assoc]

theorem contains_ofList (words : List String) (w : String) : (ofList words).contains w = words.contains w :=
  contains_foldl_insert words w empty

theorem contains_union (v u : Vocabulary) (w : String) : (v.union u).contains w = (v.contains w || u.contains w) :=
  contains_foldl_insert u.toList w v

end Vocabulary

/-! ## Listings -/

/-- The role of a listed name. -/
inductive Role where
  | constant
  | deprecated
  | builtin
  deriving DecidableEq, Repr

/-- The listed names of each role. -/
structure Listing where
  constants : Vocabulary
  deprecated : Vocabulary
  builtins : Vocabulary
  deriving DecidableEq, Repr

/-- Whether a character can stand in a listed name. -/
def isNameChar (c : Char) : Bool := c.isAlphanum || c == '_'

namespace Listing

/-- The listing without names. -/
def empty : Listing := ⟨.empty, .empty, .empty⟩

/-- Whether no name is listed. -/
def isEmpty (l : Listing) : Bool := l.constants.isEmpty && l.deprecated.isEmpty && l.builtins.isEmpty

/-- The role of a name, if it is listed. A name in several of the sets is a constant rather than a
    deprecated name, and a deprecated name rather than a builtin. -/
def roleOf? (l : Listing) (name : String) : Option Role :=
  if l.constants.contains name then some .constant
  else if l.deprecated.contains name then some .deprecated
  else if l.builtins.contains name then some .builtin
  else none

/-- The listing with one more name, unless it is listed already. -/
def add (l : Listing) (name : String) (role : Role) : Listing :=
  if (l.roleOf? name).isSome then l
  else
    match role with
    | .constant => { l with constants := l.constants.insert name }
    | .deprecated => { l with deprecated := l.deprecated.insert name }
    | .builtin => { l with builtins := l.builtins.insert name }

/-- What has been read of the present line. -/
inductive Line where
  /-- Only characters of a name so far, newest first. -/
  | name (chars : List Char)
  /-- A name and something after it, which gives the name a role. -/
  | entry (name : List Char) (role : Role)
  /-- A line that begins otherwise. -/
  | other
  deriving DecidableEq, Repr

/-- The role after one more character behind the name. -/
def markedBy (role : Role) (c : Char) : Role :=
  match role, c with
  | _, '#' => .constant
  | .builtin, '&' => .deprecated
  | role, _ => role

/-- The line after one more character. -/
def Line.extend (line : Line) (c : Char) : Line :=
  match line with
  | name chars =>
    if isNameChar c then name (c :: chars)
    else if chars.isEmpty then other
    else entry chars (markedBy .builtin c)
  | entry chars role => entry chars (markedBy role c)
  | other => other

/-- The listing with what a finished line lists. -/
def addLine (l : Listing) : Line → Listing
  | .name [] => l
  | .name chars => l.add (String.ofList chars.reverse) .builtin
  | .entry chars role => l.add (String.ofList chars.reverse) role
  | .other => l

/-- Reads the rest of a listing, character by character. -/
def readFrom (l : Listing) (line : Line) : List Char → Listing
  | [] => l.addLine line
  | c :: cs =>
    if c = '\n' then readFrom (l.addLine line) (.name []) cs else readFrom l (line.extend c) cs

/-- The listing that a text writes. -/
def parse (text : String) : Listing := readFrom empty (.name []) text.toList

end Listing

end Highlighter
