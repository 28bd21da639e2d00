import Highlighter.Registry

/-!
Tokens as HTML: each is a `span` with the class of its category, and plain text stands outside of spans. Room for the
HTML is set aside before any of it is written, by what the tokens say of their lengths (`render?`).
-/

namespace Highlighter.Html

/-- A character as it stands in HTML text. -/
def escapeChar : Char → List Char
  | '&' => "&amp;".toList
  | '<' => "&lt;".toList
  | '>' => "&gt;".toList
  | '"' => "&quot;".toList
  | '\'' => "&#39;".toList
  | c => [c]

/-- Characters as they stand in HTML text. -/
def escape (cs : List Char) : List Char := cs.flatMap escapeChar

/-- The tag that opens a span of a class. -/
def openSpan (cls : String) : List Char := "<span class=\"".toList ++ cls.toList ++ "\">".toList

/-- The tag that closes a span. -/
def closeSpan : List Char := "</span>".toList

/-- One token. A category without a class has no span. -/
def ofToken (t : Token) : List Char :=
  if t.category.shortClass = "" then escape t.text.toList
  else openSpan t.category.shortClass ++ escape t.text.toList ++ closeSpan

/-- Tokens one after the other. -/
def ofTokens (tokens : List Token) : String := String.ofList (tokens.flatMap ofToken)

/-- HTML as a block of code. -/
def inBlock (html : String) : String := "<pre><code class=\"hl\">" ++ html ++ "</code></pre>"

/-- Tokens as a block of code. -/
def codeBlock (tokens : List Token) : String := inBlock (ofTokens tokens)

/-- The bytes that the HTML of some tokens is taken to need: the length of each and 20 for its tags. -/
def room : List Token → Nat
  | [] => 0
  | t :: tokens => t.length + 20 + room tokens

/-- The bytes set aside for it. They are counted in a word of 64 bits, which starts over at its end. -/
def reserved (tokens : List Token) : Nat := room tokens % UInt64.size

/-- The most bytes that can be set aside: half of what a word counts, less one. -/
def maxReserved : Nat := UInt64.size / 2 - 1

/-- The HTML of some tokens; `none` if they say that it takes more bytes than can be set aside. -/
def render? (tokens : List Token) : Option String :=
  if reserved tokens ≤ maxReserved then some (ofTokens tokens) else none

/-- Some tokens as a block of code, if there is HTML of them. -/
def block? (tokens : List Token) : Option String := (render? tokens).map inBlock

end Highlighter.Html

namespace Highlighter

/-- The block of code that shows a source in the language of a given name. A source would have to be longer than
    `Html.maxReserved / 21` bytes for its HTML to take more than can be set aside. -/
def Registry.highlight (r : Registry) (name src : String) : Except LexError String :=
  (r.lex name src).map Html.codeBlock

end Highlighter
