import Highlighter.Language
import Highlighter.Lexer

/-!
The registered languages, and how a source finds its lexer: by a name of the language, or by the name of its
file. What has no lexer of its own is plain text.

Paths of files are texts, made of names between slashes. Empty names and single dots name nothing; two dots name
the directory above.
-/

namespace Highlighter.Path

/-! ## Paths -/

/-- The pieces of a path between slashes. -/
def pieces (path : List Char) : List (List Char) :=
  path.foldr (fun c pieces =>
    match c, pieces with
    | '/', pieces => [] :: pieces
    | c, [] => [[c]]
    | c, piece :: pieces => (c :: piece) :: pieces) [[]]

/-- Whether a piece names something. -/
def isName (piece : List Char) : Bool := piece != [] && piece != ['.']

/-- The pieces that name something. -/
def names (path : List Char) : List (List Char) := (pieces path).filter isName

/-- Whether a path starts at the root of the file tree rather than at the working directory. -/
def isAbsolute (path : List Char) : Bool := path.head? == some '/'

/-- The name of the file that a path leads to: its last name, unless that is `..`. -/
def fileName? (path : String) : Option String :=
  match (names path.toList).getLast? with
  | none => none
  | some name => if name = ['.', '.'] then none else some (String.ofList name)

/-- The path of the directory that holds what a path leads to. It is empty for the working directory. -/
def parent (path : String) : String :=
  let above := String.ofList (['/'].intercalate (names path.toList).dropLast)
  if isAbsolute path.toList then "/" ++ above else above

/-- The path of a file in a directory. -/
def join (directory name : String) : String :=
  if directory.isEmpty then name else directory ++ "/" ++ name

end Highlighter.Path

/-! ## The registry -/

namespace Highlighter

/-- The lexers of all languages. -/
structure Registry where
  lexers : List Lexer
  plain : Lexer

namespace Registry

/-- The tables of the registered languages, in order. -/
def tables (listing : Listing) : List Table :=
  [Cosy.table, Gml.table listing, Gml.extendedTable listing, Catspeak.table, KatScript.table]

/-- The lexers of some tables, or the first error. -/
def buildAll : List Table → Except BuildError (List Lexer)
  | [] => .ok []
  | t :: tables =>
    match t.build with
    | .error e => .error e
    | .ok lexer => (buildAll tables).map (lexer :: ·)

/-- The registry in which the names of the GameMaker runtime are those of a listing. -/
def ofListing (listing : Listing) : Except BuildError Registry :=
  match buildAll (tables listing), Plain.table.build with
  | .ok lexers, .ok plain => .ok ⟨lexers, plain⟩
  | .error e, _ | _, .error e => .error e

/-- The lexer that answers to a name. -/
def find? (r : Registry) (name : String) : Option Lexer := r.lexers.find? (·.language.answersTo name)

/-- The lexer that answers to a name, or that of plain text. -/
def findOrPlain (r : Registry) (name : String) : Lexer := (r.find? name).getD r.plain

/-- The first lexer for files of the name that a path leads to. -/
def guess? (r : Registry) (path : String) : Option Lexer :=
  (Path.fileName? path).bind fun name => r.lexers.find? (·.language.matchesFilename name)

/-- The tokens of a source in the language of a given name. -/
def lex (r : Registry) (name src : String) : Except LexError (List Token) := (r.findOrPlain name).lex src

end Registry

end Highlighter
