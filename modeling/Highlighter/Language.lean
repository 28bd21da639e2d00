import Highlighter.Lexer
import Highlighter.Listing

/-!
The languages, each with its words, its rules and what its rules make of a word.

In the GameMaker Language the names of the runtime come from a listing. A word is looked up among the listed
builtins, the reserved words, the listed constants and the listed deprecated names, in this order; of any other
word the case decides, where only ASCII counts. The extended language has eight more reserved words.

In KatScript a word is reserved, a constant, or else a type or a variable by its case; a colon with what follows
it is an annotation. In Catspeak a word is reserved, a constant, a builtin or a variable, whichever comes first.
In Cosy the reserved words and the primitive types have rules of their own; the case of a name's first letter
tells types from values, and a name with an exclamation mark after it is a builtin call. Plain text has no rules,
so that every source is one token.
-/

namespace Highlighter

/-! ## Casing -/

/-- Whether a word has only upper-case letters, digits and underscores. -/
def isAllCaps (word : String) : Bool := word.toList.all fun c => c.isUpper || c.isDigit || c == '_'

/-- Whether a word starts with an upper-case letter and goes on with letters, digits and underscores. -/
def isCapitalized (word : String) : Bool :=
  match word.toList with
  | [] => false
  | c :: cs => c.isUpper && cs.all fun c => c.isAlphanum || c == '_'

end Highlighter

/-! ## The GameMaker Language -/

namespace Highlighter.Gml

/-- What is known about the language. -/
def language : Language where
  tag := "gml"
  aliases := []
  title := "Gml"
  description := "The GameMaker Language"
  filenames := ["*.gml"]

/-- What is known about the extended language. -/
def extendedLanguage : Language where
  tag := "gmlext"
  aliases := []
  title := "GmlExt"
  description := "The GameMaker Language with additional reserved words"
  filenames := []

/-- The reserved words. -/
def reservedWords : List String :=
  ["begin", "end", "if", "then", "else", "while", "do", "for", "break", "continue", "with", "until",
   "repeat", "exit", "and", "or", "xor", "not", "return", "mod", "div", "switch", "case", "default", "var",
   "globalvar", "enum", "function", "try", "catch", "finally", "throw", "static", "new", "delete",
   "constructor"]

/-- The reserved words that the extension adds. -/
def extendedWords : List String :=
  ["elif", "ignore", "defer", "after", "implies", "bimplies", "seq", "print"]

/-- What the category of a word depends on. -/
structure Classifier where
  reserved : Vocabulary
  listing : Listing
  deriving DecidableEq, Repr

/-- The classifier of the language itself. -/
def Classifier.standard (listing : Listing) : Classifier := ⟨.ofList reservedWords, listing⟩

/-- The classifier of the extended language. -/
def Classifier.extended (listing : Listing) : Classifier :=
  ⟨(Vocabulary.ofList reservedWords).union (.ofList extendedWords), listing⟩

/-- The category of a word. -/
def Classifier.classify (k : Classifier) (word : String) : Category :=
  if k.listing.builtins.contains word then .nameBuiltin
  else if k.reserved.contains word then .keyword
  else if k.listing.constants.contains word then .keywordConstant
  else if k.listing.deprecated.contains word then .genericDeleted
  else if isAllCaps word then .nameVariableMagic
  else if isCapitalized word then .keywordType
  else .nameVariable

/-- The rules, in the order in which they are tried. -/
def rules (k : Classifier) : List Table.Rule :=
  [.token "\\s+" .whitespace,
   .token "//[^\\n]*" .commentLine,
   .token "/\\*[^*]*?\\*/" .commentBlock,
   .token "\\d+\\.\\d+" .numberFloat,
   .token "\\.\\d+" .numberFloat,
   .token "\\d+\\." .numberFloat,
   .token "\\d+" .numberInteger,
   .token "\"[^\"\\n]*\"?" .string,
   .token "@'[^']*'" .string,
   .token "#[A-Za-z]+" .commentPreproc,
   .token "[()\\[\\]\x7b\x7d;,]" .punctuation,
   .token "[*/!#@~&+%\\\\|^<>=?\\-:.]" .operator,
   .classified "[A-Za-z0-9_]+" k.classify]

/-- The table of the language. -/
def table (listing : Listing) : Table := ⟨language, [⟨Table.rootName, rules (.standard listing)⟩]⟩

/-- The table of the extended language. -/
def extendedTable (listing : Listing) : Table :=
  ⟨extendedLanguage, [⟨Table.rootName, rules (.extended listing)⟩]⟩

end Highlighter.Gml

/-! ## KatScript -/

namespace Highlighter.KatScript

/-- What is known about the language. -/
def language : Language where
  tag := "katscript"
  aliases := ["kats"]
  title := "KatScript"
  description := "The KatScript Language"
  filenames := ["*.kats"]

/-- The reserved words. -/
def reservedWords : List String := ["let", "if", "else", "and", "or", "for", "while", "fun", "ret"]

/-- The names of constants. -/
def constantWords : List String := ["true", "false", "inf", "NaN", "none"]

/-- The category of a word. -/
def classify (word : String) : Category :=
  if reservedWords.contains word then .keyword
  else if constantWords.contains word then .keywordConstant
  else if isCapitalized word then .keywordType
  else .nameVariable

/-- The rules, in the order in which they are tried. -/
def rules : List Table.Rule :=
  [.token "\\s+" .whitespace,
   .token "--[^\\n]*" .commentLine,
   .token "\\d+\\.\\d+" .numberFloat,
   .token "\\d+" .numberInteger,
   .token "\\d+r\\d+" .numberInteger,
   .token "\"[^\"]*\"?" .string,
   .token "[()\\[\\]\x7b\x7d;,.]" .punctuation,
   .token "[*/\\\\!~&+%|^<>=?\\-]" .operator,
   .token ":\\s*[A-Za-z0-9_]+" .nameBuiltin,
   .token ":\\s*[*/\\\\!~&+%|^<>=?\\-]*" .nameBuiltin,
   .classified "[A-Za-z_]+[A-Za-z0-9_]*" classify]

/-- The table of the language. -/
def table : Table := ⟨language, [⟨Table.rootName, rules⟩]⟩

end Highlighter.KatScript

/-! ## Catspeak -/

namespace Highlighter.Catspeak

/-- What is known about the language. -/
def language : Language where
  tag := "catspeak"
  aliases := ["cats"]
  title := "Catspeak"
  description := "The Catspeak Language"
  filenames := ["*.cats"]

/-- The reserved words. -/
def reservedWords : List String := ["if", "else", "while", "break", "continue", "return", "print", "run"]

/-- The names of constants. -/
def constantWords : List String := ["true", "false", "infinity", "NaN", "undefined"]

/-- The names of builtins. -/
def builtinWords : List String := ["bool", "string", "real", "typeof", "instanceof", "len", "keys"]

/-- The category of a word. -/
def classify (word : String) : Category :=
  if reservedWords.contains word then .keyword
  else if constantWords.contains word then .keywordConstant
  else if builtinWords.contains word then .nameBuiltin
  else .nameVariable

/-- The rules, in the order in which they are tried. -/
def rules : List Table.Rule :=
  [.token "\\s+" .whitespace,
   .token "--[^\\n]*" .commentLine,
   .token "\\d+\\.\\d+" .numberFloat,
   .token "\\d+" .numberInteger,
   .token "\"[^\"]*\"?" .string,
   .token "[()\\[\\]\x7b\x7d;:,.]" .punctuation,
   .token "[*/!#@~&+%|^<>=?\\-]" .operator,
   .token "`[^`]*`" .nameVariableMagic,
   .classified "[A-Za-z_']+[A-Za-z0-9_']*" classify]

/-- The table of the language. -/
def table : Table := ⟨language, [⟨Table.rootName, rules⟩]⟩

end Highlighter.Catspeak

/-! ## Cosy -/

namespace Highlighter.Cosy

/-- What is known about the language. -/
def language : Language where
  tag := "cosy"
  aliases := []
  title := "Cosy"
  description := "The Cosy programming language"
  filenames := ["*.cosy"]

/-- The rules, in the order in which they are tried. -/
def rules : List Table.Rule :=
  [.token "\\s+" .whitespace,
   .token "--[^\\n]*" .commentLine,
   .token "(?:def|let|struct|fn|for|in|if|else)\\b|_" .keyword,
   .token "\\b[iu](?:8|16|32|64|128|size)\\b" .keywordType,
   .token "\\bf(?:32|64|128)\\b" .keywordType,
   .token "(?:self|type|bool|char|string|void|nothing)\\b" .keywordType,
   .token "[()\\[\\]\x7b\x7d#;,]" .punctuation,
   .token "[*/!@~&+%|^<>=?\\-:.]" .operator,
   .token "(?:\\p\x7bL\x7d|\\p\x7bN\x7d)*\\s*!" .nameBuiltin,
   .token "\\p\x7bLu\x7d(?:\\p\x7bL\x7d|\\p\x7bN\x7d)*" .keywordType,
   .token "\\p\x7bLl\x7d(?:\\p\x7bL\x7d|\\p\x7bN\x7d)*" .name,
   .token "\\d+\\.\\d+" .numberFloat,
   .token "\\d+" .numberInteger,
   .token "\"[^\"]*\"" .string,
   .token "'(?:.|\\\\.)'" .stringChar,
   .token "`[^`]*`" .stringOther]

/-- The table of the language. -/
def table : Table := ⟨language, [⟨Table.rootName, rules⟩]⟩

end Highlighter.Cosy

/-! ## Plain text -/

namespace Highlighter.Plain

/-- What is known about the language. -/
def language : Language where
  tag := "plaintext"
  aliases := ["text"]
  title := "Plain Text"
  description := "Unhighlighted text"
  filenames := ["*.txt"]

/-- The table of the language. -/
def table : Table := ⟨language, [⟨Table.rootName, []⟩]⟩

end Highlighter.Plain
