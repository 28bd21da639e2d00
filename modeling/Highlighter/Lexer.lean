import Highlighter.Pattern
import Highlighter.Pattern.Reading
import Highlighter.Token

/-!
Lexers: how one is declared, how it is built, and how it scans a source.

The declaration is a table of named states with ordered rules, in which patterns are texts. A table is refused
for the first of these reasons that it gives: a state declared twice, no root state, and then, rule by rule in
the order of declaration, a transition to a state that is not declared or a pattern that does not compile. Which
patterns compile, and what they match, is up to an `Engine`; that of this library is `Pattern`.

At every place of a source the rules of the state on top of the stack are tried in order and the first that
matches yields a token. Characters that no rule matches are gathered into one token of plain text for each run
of them. A rule that matches without using a character would never get on, so it ends the scan with an error.
-/

namespace Highlighter

/-! ## Tables -/

/-- What is known about a language besides its rules. -/
structure Language where
  /-- The name under which the language is registered. -/
  tag : String
  /-- Other names for it. -/
  aliases : List String
  title : String
  description : String
  /-- Names of its files: whole names, or a star and what the name ends with. -/
  filenames : List String
  deriving DecidableEq, Repr

/-- Whether a name is the language's tag or one of its aliases. -/
def Language.answersTo (l : Language) (name : String) : Bool := l.tag == name || l.aliases.contains name

/-- Whether a file name fits a glob. Only a star at the start has a meaning. -/
def globMatches (glob filename : String) : Bool :=
  match glob.toList with
  | '*' :: ending => ending.isSuffixOf filename.toList
  | _ => filename == glob

/-- Whether a file name is one of the language's. -/
def Language.matchesFilename (l : Language) (filename : String) : Bool :=
  l.filenames.any fun glob => globMatches glob filename

/-- What a rule makes of the text it matched. -/
inductive Action where
  /-- The category is fixed. -/
  | emit (category : Category)
  /-- The category depends on the text. -/
  | classify (f : String → Category)

/-- The category of a matched text. -/
def Action.resolve : Action → String → Category
  | emit category, _ => category
  | classify f, text => f text

/-- A change of state after a match. -/
inductive Transition where
  /-- Enter the state of this name on top of the present one. -/
  | push (state : String)
  /-- Leave the present state for the one below it. -/
  | pop
  deriving DecidableEq, Repr

namespace Table

/-- A rule as it is declared. -/
structure Rule where
  pattern : String
  action : Action
  transition : Option Transition

/-- A state as it is declared: its rules are tried in order. -/
structure State where
  name : String
  rules : List Rule

/-- A rule that gives every match one category. -/
def Rule.token (pattern : String) (category : Category) : Rule := ⟨pattern, .emit category, none⟩

/-- A rule that classifies what it matches. -/
def Rule.classified (pattern : String) (f : String → Category) : Rule := ⟨pattern, .classify f, none⟩

/-- The name of the state in which every scan starts. -/
def rootName : String := "root"

end Table

/-- The declaration of a lexer. -/
structure Table where
  language : Language
  states : List Table.State

/-! ## Building -/

/-- A pattern engine, told by the type of its compiled patterns. -/
class Engine (P : Type) where
  /-- Compiles the text of a pattern, unless it is not a valid one. -/
  compile? : String → Option P
  /-- The number of characters that a pattern matches at the front of `rest`. Of what stands before them it may look at
      the last character, as the assertions of a pattern do; there is none at the start of a source. -/
  matchLength? : P → (before : Option Char) → (rest : List Char) → Option Nat

/-- What is asked of an engine: a match ends on a character boundary inside the source. -/
class LawfulEngine (P : Type) [Engine P] : Prop where
  matchLength?_le : ∀ {p : P} {before : Option Char} {rest : List Char} {n : Nat},
    Engine.matchLength? p before rest = some n → n ≤ rest.length

instance : Engine Pattern := ⟨Pattern.parse?, Pattern.matchLength?⟩

/-- Why a table makes no lexer. -/
inductive BuildError where
  | invalidPattern (lexer state : String) (rule : Nat)
  | unknownState (lexer state target : String)
  | missingRoot (lexer : String)
  | duplicateState (lexer state : String)
  deriving DecidableEq, Repr

namespace BuildError

/-- The error in words. -/
def message : BuildError → String
  | invalidPattern lexer state rule =>
    "rule " ++ toString rule ++ " in state `" ++ state ++ "` of lexer `" ++ lexer ++
      "` is not a valid pattern"
  | unknownState lexer state target =>
    "lexer `" ++ lexer ++ "` transitions from state `" ++ state ++ "` to undeclared state `" ++ target ++
      "`"
  | missingRoot lexer => "lexer `" ++ lexer ++ "` has no `root` state"
  | duplicateState lexer state => "lexer `" ++ lexer ++ "` declares state `" ++ state ++ "` more than once"

/-- The code of the error. -/
def code : BuildError → String
  | invalidPattern .. => "sitelex::lexer::invalid_pattern"
  | unknownState .. => "sitelex::lexer::unknown_state"
  | missingRoot .. => "sitelex::lexer::missing_root"
  | duplicateState .. => "sitelex::lexer::duplicate_state"

/-- Advice on how to mend the table, where there is some. -/
def help? : BuildError → Option String
  | missingRoot .. => some "Declare the entry state with `State::new(\"root\")`"
  | _ => none

end BuildError

namespace Lexer

/-- A rule whose pattern has been compiled. -/
structure Rule (P : Type := Pattern) where
  /-- The pattern as it was written. -/
  text : String
  pattern : P
  action : Action
  transition : Option Transition

/-- A state whose patterns have been compiled. -/
structure State (P : Type := Pattern) where
  name : String
  rules : List (Rule P)

end Lexer

/-- A lexer: states with ordered rules, and the index of the state in which a scan starts. -/
structure Lexer (P : Type := Pattern) where
  language : Language
  states : List (Lexer.State P)
  root : Nat

namespace Table

/-- The first name that occurs earlier in the list or among `seen`. -/
def firstRepeat? (seen : List String) : List String → Option String
  | [] => none
  | name :: names => if name ∈ seen then some name else firstRepeat? (name :: seen) names

/-- The name that the rule's transition leads to, unless it is among those declared. -/
def Rule.unknownTarget? (declared : List String) (r : Rule) : Option String :=
  match r.transition with
  | some (.push target) => if target ∈ declared then none else some target
  | _ => none

section
variable (P : Type) [Engine P]

/-- Compiles the patterns of a state's rules, of which the first has the given index. -/
def buildRules (lexer : String) (declared : List String) (state : String) :
    (index : Nat) → List Rule → Except BuildError (List (Lexer.Rule P))
  | _, [] => .ok []
  | index, r :: rules =>
    match r.unknownTarget? declared, Engine.compile? r.pattern with
    | some target, _ => .error (.unknownState lexer state target)
    | none, none => .error (.invalidPattern lexer state index)
    | none, some pattern =>
      (buildRules lexer declared state (index + 1) rules).map
        (⟨r.pattern, pattern, r.action, r.transition⟩ :: ·)

/-- Compiles the patterns of all states. -/
def buildStates (lexer : String) (declared : List String) :
    List State → Except BuildError (List (Lexer.State P))
  | [] => .ok []
  | s :: states =>
    match buildRules P lexer declared s.name 0 s.rules with
    | .error e => .error e
    | .ok rules => (buildStates lexer declared states).map (⟨s.name, rules⟩ :: ·)

end

/-- The names of the declared states. -/
def stateNames (t : Table) : List String := t.states.map (·.name)

/-- The lexer that the table declares. -/
def build (t : Table) (P : Type := Pattern) [Engine P] : Except BuildError (Lexer P) :=
  match firstRepeat? [] t.stateNames with
  | some name => .error (.duplicateState t.language.tag name)
  | none =>
    match t.stateNames.idxOf? rootName with
    | none => .error (.missingRoot t.language.tag)
    | some root => (buildStates P t.language.tag t.stateNames t.states).map (⟨t.language, ·, root⟩)

end Table

/-! ## Scanning -/

/-- A rule that stalls a scan: it is the first to match at some place, and matches nothing there. -/
structure Stall where
  /-- The tag of the lexer. -/
  lexer : String
  /-- The name of the state that the scan was in. -/
  state : String
  /-- The index of the rule in that state. -/
  rule : Nat
  /-- The text of its pattern. -/
  pattern : String
  /-- The offset of the place. -/
  offset : Nat
  deriving DecidableEq, Repr

/-- The error of a scan that stalls, which carries its source; there the source goes by the tag of the lexer. -/
structure LexError extends Stall where
  source : String
  deriving DecidableEq, Repr

namespace LexError

/-- The error in words. -/
def message (e : LexError) : String :=
  "rule " ++ toString e.rule ++ " (`" ++ e.pattern ++ "`) in state `" ++ e.state ++ "` of lexer `" ++
    e.lexer ++ "` matched the empty string"

/-- The code of the error. -/
def code : String := "sitelex::lexer::empty_match"

/-- Advice on how to mend the table. -/
def help : String := "Every rule must consume at least one character; fix the rule table"

/-- The name under which a report shows the source. -/
def sourceName (e : LexError) : String := e.lexer

/-- What stands beside the place in a report. -/
def label : String := "scan stalled here"

/-- The part of the source that a report marks, as an offset and a length: nothing, at the place. -/
def span (e : LexError) : Nat × Nat := (e.offset, 0)

end LexError

/-- Characters that no rule has matched, newest first, and the offset of the first of them. -/
structure UnmatchedRun where
  start : Nat
  chars : List Char
  deriving DecidableEq, Repr

/-- A place in a scan. -/
structure Scan where
  /-- The character before the place. -/
  before : Option Char
  /-- The characters after it. -/
  rest : List Char
  /-- Its offset in bytes. -/
  offset : Nat
  /-- The indices of the states entered, the present one first. -/
  stack : List Nat
  /-- The run of unmatched characters that ends at the place. -/
  unmatched : Option UnmatchedRun
  /-- The tokens found, newest first. -/
  tokens : List Token
  deriving DecidableEq, Repr

namespace Scan

/-- The start of a source. -/
def start (root : Nat) (src : List Char) : Scan := ⟨none, src, 0, [root], none, []⟩

/-- The tokens found, with a run of unmatched characters as one more, newest first. -/
def flushed (s : Scan) : List Token :=
  match s.unmatched with
  | none => s.tokens
  | some run => .ofChars .plainText run.start run.chars.reverse :: s.tokens

/-- Passes over a character that no rule matches. -/
def skip (s : Scan) (c : Char) (rest : List Char) : Scan :=
  let run := match s.unmatched with
    | none => ⟨s.offset, [c]⟩
    | some run => ⟨run.start, c :: run.chars⟩
  { s with before := some c, rest := rest, offset := s.offset + c.utf8Size, unmatched := some run }

end Scan

namespace Lexer
variable {P : Type}

/-- The state at an index. -/
def stateAt (l : Lexer P) (index : Nat) : State P := (l.states[index]?).getD ⟨"", []⟩

/-- The index of the state with a given name. -/
def stateIndex? (l : Lexer P) (name : String) : Option Nat := (l.states.map (·.name)).idxOf? name

/-- The state of a scan. -/
def current (l : Lexer P) (s : Scan) : State P := l.stateAt (s.stack.headD l.root)

/-- The stack after a transition. The bottom entry stays. -/
def move (l : Lexer P) (transition : Option Transition) (stack : List Nat) : List Nat :=
  match transition, stack with
  | some (.push name), stack =>
    match l.stateIndex? name with
    | some index => index :: stack
    | none => stack
  | some .pop, _ :: below :: stack => below :: stack
  | _, stack => stack

/-- A rule that matches at some place, with its index and the number of characters it matches. -/
structure Hit (P : Type := Pattern) where
  index : Nat
  rule : Rule P
  length : Nat

/-- The first of some rules to match between the character `before` and the characters `rest`. The first
    rule has the given index. -/
def firstHit? [Engine P] (before : Option Char) (rest : List Char) :
    (index : Nat) → List (Rule P) → Option (Hit P)
  | _, [] => none
  | index, r :: rules =>
    match Engine.matchLength? r.pattern before rest with
    | some length => some ⟨index, r, length⟩
    | none => firstHit? before rest (index + 1) rules

/-- The scan after a match of at least one character. -/
def accept (l : Lexer P) (s : Scan) (hit : Hit P) : Scan :=
  let text := s.rest.take hit.length
  let token := Token.ofChars (hit.rule.action.resolve (String.ofList text)) s.offset text
  { before := text.getLast?.or s.before
    rest := s.rest.drop hit.length
    offset := token.stop
    stack := l.move hit.rule.transition s.stack
    unmatched := none
    tokens := token :: s.flushed }

variable [Engine P]

/-- One step of a scan: a match or one unmatched character. At the end of the source nothing changes. -/
def step (l : Lexer P) (s : Scan) : Except Stall Scan :=
  match s.rest with
  | [] => .ok s
  | c :: rest =>
    let state := l.current s
    match firstHit? s.before s.rest 0 state.rules with
    | none => .ok (s.skip c rest)
    | some hit =>
      if hit.length = 0 then
        .error ⟨l.language.tag, state.name, hit.index, hit.rule.text, s.offset⟩
      else .ok (l.accept s hit)

/-- The scan carried on to the end of the source. Each step passes over at least one character, so `fuel`
    steps are enough for as many characters. -/
def run (l : Lexer P) : (fuel : Nat) → Scan → Except Stall Scan
  | 0, s => .ok s
  | fuel + 1, s =>
    match l.step s with
    | .error e => .error e
    | .ok next => if next.rest.isEmpty then .ok next else run l fuel next

/-- What the end of a scan makes of its source: the tokens in order, or the error of the place where it stalls. -/
def outcome (src : String) : Except Stall Scan → Except LexError (List Token)
  | .error stall => .error ⟨stall, src⟩
  | .ok last => .ok last.flushed.reverse

/-- The tokens of a source. -/
def lex (l : Lexer P) (src : String) : Except LexError (List Token) :=
  outcome src (l.run src.toList.length (.start l.root src.toList))

end Lexer

end Highlighter
