/-!
Tokens: stretches of a source with their category and their place in it.

The categories have names by which data formats, listings and style sheets know them. Sizes and offsets of text
count its bytes in UTF-8. Lines and columns are counted from one, and columns count bytes; a position can be
computed in two ways, from the text in front of it and by advancing over one piece of text after the other.
-/

namespace Highlighter

/-! ## Categories -/

/-- What a stretch of source text is. -/
inductive Category where
  | whitespace
  | commentLine
  | commentBlock
  | commentPreproc
  | numberInteger
  | numberFloat
  | string
  | stringChar
  | stringOther
  | punctuation
  | operator
  | name
  | nameVariable
  | nameVariableMagic
  | nameBuiltin
  | keyword
  | keywordConstant
  | keywordType
  | genericDeleted
  | plainText
  deriving DecidableEq, Repr

namespace Category

/-- Every category. -/
def all : List Category :=
  [whitespace, commentLine, commentBlock, commentPreproc, numberInteger, numberFloat, string, stringChar,
   stringOther, punctuation, operator, name, nameVariable, nameVariableMagic, nameBuiltin, keyword,
   keywordConstant, keywordType, genericDeleted, plainText]

/-- The name in data formats. -/
def dataName : Category → String
  | whitespace => "whitespace"
  | commentLine => "comment_line"
  | commentBlock => "comment_block"
  | commentPreproc => "comment_preproc"
  | numberInteger => "number_integer"
  | numberFloat => "number_float"
  | string => "string"
  | stringChar => "string_char"
  | stringOther => "string_other"
  | punctuation => "punctuation"
  | operator => "operator"
  | name => "name"
  | nameVariable => "name_variable"
  | nameVariableMagic => "name_variable_magic"
  | nameBuiltin => "name_builtin"
  | keyword => "keyword"
  | keywordConstant => "keyword_constant"
  | keywordType => "keyword_type"
  | genericDeleted => "generic_deleted"
  | plainText => "plain_text"

/-- The category with a given name in data formats. -/
def ofDataName? (s : String) : Option Category := all.find? fun c => c.dataName == s

/-- The class that style sheets give the category. Plain text has none. -/
def shortClass : Category → String
  | whitespace => "w"
  | commentLine => "c1"
  | commentBlock => "cm"
  | commentPreproc => "cp"
  | numberInteger => "mi"
  | numberFloat => "mf"
  | string => "s"
  | stringChar => "sc"
  | stringOther => "sx"
  | punctuation => "p"
  | operator => "o"
  | name => "n"
  | nameVariable => "nv"
  | nameVariableMagic => "vm"
  | nameBuiltin => "nb"
  | keyword => "k"
  | keywordConstant => "kc"
  | keywordType => "kt"
  | genericDeleted => "gd"
  | plainText => ""

/-- The dotted name, from the general kind to the particular one. -/
def qualifiedName : Category → String
  | whitespace => "Text.Whitespace"
  | commentLine => "Comment.Single"
  | commentBlock => "Comment.Multiline"
  | commentPreproc => "Comment.Preproc"
  | numberInteger => "Literal.Number.Integer"
  | numberFloat => "Literal.Number.Float"
  | string => "Literal.String"
  | stringChar => "Literal.String.Char"
  | stringOther => "Literal.String.Other"
  | punctuation => "Punctuation"
  | operator => "Operator"
  | name => "Name"
  | nameVariable => "Name.Variable"
  | nameVariableMagic => "Name.Variable.Magic"
  | nameBuiltin => "Name.Builtin"
  | keyword => "Keyword"
  | keywordConstant => "Keyword.Constant"
  | keywordType => "Keyword.Type"
  | genericDeleted => "Generic.Deleted"
  | plainText => "Text"

theorem mem_all (c : Category) : c ∈ all := by cases c <;> decide

end Category

/-! ## Bytes -/

/-- The number of bytes that the characters take up in UTF-8. -/
def byteLength (cs : List Char) : Nat := cs.foldl (fun n c => n + c.utf8Size) 0

/-- The characters that make up the first `n` bytes, or all of them if they have fewer bytes; `none` if
    the bytes end inside a character. -/
def takeBytes? : (n : Nat) → List Char → Option (List Char)
  | _, [] => some []
  | n, c :: cs =>
    if n = 0 then some []
    else if n < c.utf8Size then none
    else (takeBytes? (n - c.utf8Size) cs).map (c :: ·)

/-- The number of line feeds. -/
def lineFeeds (cs : List Char) : Nat := cs.count '\n'

/-- The number of bytes after the last line feed, or of all if there is no line feed. -/
def lastLineLength (cs : List Char) : Nat :=
  cs.foldl (fun n c => if c = '\n' then 0 else n + c.utf8Size) 0

/-! ## Positions -/

/-- A line and a column in it. -/
structure Position where
  line : Nat
  column : Nat
  deriving DecidableEq, Repr

namespace Position

/-- The first column of the first line. -/
def start : Position := ⟨1, 1⟩

/-- The position at the end of a text. -/
def atEnd (cs : List Char) : Position := ⟨lineFeeds cs + 1, lastLineLength cs + 1⟩

/-- The position after a text that begins here. -/
def advance (p : Position) (cs : List Char) : Position :=
  if '\n' ∈ cs then ⟨p.line + lineFeeds cs, lastLineLength cs + 1⟩
  else ⟨p.line, p.column + byteLength cs⟩

/-- The position `offset` bytes into a text, or at its end if it is shorter; `none` if the offset lies
    inside a character. -/
def atByte? (src : List Char) (offset : Nat) : Option Position := (takeBytes? offset src).map atEnd

end Position

/-- A position in a named file. -/
structure Location where
  path : String
  position : Position
  deriving DecidableEq, Repr

namespace Location

/-- The start of a file. -/
def start (path : String) : Location := ⟨path, .start⟩

/-- The location after a text that begins here. -/
def advance (l : Location) (text : String) : Location :=
  { l with position := l.position.advance text.toList }

/-- The location as it is printed: path, line and column between colons. The two numbers are printed as
    words of 64 bits, which start over at zero. -/
def render (l : Location) : String :=
  l.path ++ ":" ++ toString (l.position.line % UInt64.size) ++ ":" ++ toString (l.position.column % UInt64.size)

end Location

/-! ## Tokens -/

/-- A classified stretch of source text. The offsets count bytes. -/
structure Token where
  category : Category
  text : String
  /-- The offset of the first byte. -/
  start : Nat
  /-- The offset after the last byte. -/
  stop : Nat
  deriving DecidableEq, Repr

namespace Token

/-- The token of some characters that begin at a given offset. -/
def ofChars (category : Category) (start : Nat) (cs : List Char) : Token :=
  ⟨category, String.ofList cs, start, start + byteLength cs⟩

/-- The number of bytes between the two offsets, as a word of 64 bits: where the token ends before it
    starts, the difference starts over below the largest word. -/
def length (t : Token) : Nat :=
  if t.start ≤ t.stop then t.stop - t.start else UInt64.size + t.stop - t.start

/-- Whether the token covers nothing. -/
def isEmpty (t : Token) : Bool := t.start == t.stop

/-- The line and column of the token in a source; `none` if it starts inside a character. -/
def position? (t : Token) (src : String) : Option Position := Position.atByte? src.toList t.start

end Token

end Highlighter
