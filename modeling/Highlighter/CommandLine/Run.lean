import Highlighter.CommandLine.Arguments
import Highlighter.Files
import Highlighter.Html
import Highlighter.Printing

/-!
Running a command. A run reads the listing, then the input, and writes only after the whole input has
been lexed; nothing is written if the input cannot be read. The effects on files go through `Files`.
-/

namespace Highlighter.CommandLine

/-- What a run leaves behind besides files. -/
structure Outcome where
  exitCode : Nat
  stdout : String
  stderr : String
  deriving DecidableEq, Repr

namespace Outcome

/-- A run that succeeded and printed a text. -/
def success (stdout : String) : Outcome := ⟨0, stdout, ""⟩

/-- A run that failed for a given reason. -/
def failure (reason : String) : Outcome := ⟨1, "", "Error: " ++ reason ++ "\n"⟩

/-- The outcome with something printed to the error output before it. -/
def warned (warning : String) (o : Outcome) : Outcome := { o with stderr := warning ++ o.stderr }

end Outcome

/-- The name and version of the program, as it prints them. -/
def versionLine : String := "sitelex 0.1.0\n"

/-- How the program is used. -/
def helpText : String :=
  "Usage: sitelex [--gml-builtins PATH] [--log-file PATH] COMMAND\n\n" ++
  "  lex INPUT [-l LANG] [--json]           list the tokens of a file (alias: lx)\n" ++
  "  highlight INPUT [-l LANG] [-o OUTPUT]  write a file as HTML (alias: hl)\n" ++
  "  languages                              list the languages (alias: ls)\n"

/-- The outcome of arguments that are not those of a run. -/
def Stop.outcome : Stop → Outcome
  | .version => .success versionLine
  | .help => .success helpText
  | .usage e => ⟨2, "", "error: " ++ e.message ++ "\n"⟩

/-- The tokens of a file, a line for each: location, category and quoted text. -/
def listTokens (location : Location) : List Token → String
  | [] => ""
  | t :: tokens =>
    location.render ++ " " ++ t.category.qualifiedName ++ " " ++ Quoted.quote t.text ++ "\n" ++
      listTokens (location.advance t.text) tokens

/-- A text filled up with blanks to a width. -/
def padded (width : Nat) (s : String) : String := s ++ String.ofList (List.replicate (width - s.length) ' ')

/-- What is printed about a language. -/
def languageLine (l : Language) : String :=
  padded 10 l.tag ++ " " ++ padded 12 (",".intercalate l.aliases) ++ " " ++
    padded 10 (",".intercalate l.filenames) ++ " " ++ l.description ++ "\n"

/-- The lexer for an input: the one asked for, or else the one for files of that name, or plain text. -/
def chooseLexer (r : Registry) (lang : Option String) (input : String) : Lexer :=
  match lang with
  | some name => r.findOrPlain name
  | none => (r.guess? input).getD r.plain

variable {m : Type → Type} [Monad m]

/-- Reads an input and lexes it. -/
def lexInput (files : Files m) (r : Registry) (lang : Option String) (input : String) :
    m (Except String (List Token)) := do
  match ← files.read input with
  | .error e => return .error e.message
  | .ok src =>
    match (chooseLexer r lang input).lex src with
    | .error e => return .error e.message
    | .ok tokens => return .ok tokens

/-- Writes a text to a file, after making the directories in which it lies. -/
def writeOutput (files : Files m) (output text : String) : m (Except FileError Unit) := do
  let directory := Path.parent output
  if directory.isEmpty then files.write output text
  else if ← files.isPresent directory then files.write output text
  else
    match ← files.makeDirectories directory with
    | .error e => return .error e
    | .ok () => files.write output text

/-- Carries out a command. -/
def Command.run (files : Files m) (r : Registry) : Command → m Outcome
  | .lex input lang json => do
    match ← lexInput files r lang input with
    | .error reason => return .failure reason
    | .ok tokens =>
      return .success (if json then Json.tokens tokens ++ "\n" else listTokens (.start input) tokens)
  | .highlight input lang output => do
    match ← lexInput files r lang input with
    | .error reason => return .failure reason
    | .ok tokens =>
      match output with
      | none => return .success (Html.codeBlock tokens ++ "\n")
      | some output =>
        match ← writeOutput files output (Html.codeBlock tokens) with
        | .error e => return .failure e.message
        | .ok () => return .success ""
  | .languages => return .success (String.join (r.lexers.map (languageLine ·.language)))

/-- Opens a log: the file is created if it is missing, with the directory in which it lies. -/
def openLog (files : Files m) (path : String) : m (Except FileError Unit) := do
  match ← files.append path "" with
  | .ok () => return .ok ()
  | .error _ =>
    match ← files.makeDirectories (Path.parent path) with
    | .error e => return .error e
    | .ok () => files.append path ""

/-- The warning about a listing that cannot be read; there is none about one that was. -/
def listingWarning (path : String) : Except FileError Listing → String
  | .ok _ => ""
  | .error e =>
    "WARN cannot read GML builtins; highlighting falls back to keywords and casing path=" ++ path ++
      " error=" ++ e.message ++ "\n"

/-- Carries out a command with the listing that was read. One that could not be read counts as empty. -/
def Command.runWith (files : Files m) (c : Command) (loaded : Except FileError Listing) : m Outcome :=
  match Registry.ofListing (.orEmpty loaded) with
  | .error e => return .failure e.message
  | .ok registry => c.run files registry

/-- Runs the program. A warning goes to the log, or to the error output if there is no log. -/
def Options.run (files : Files m) (o : Options) : m Outcome := do
  match o.logFile with
  | none =>
    let loaded ← Listing.load files o.listing
    return (← o.command.runWith files loaded).warned (listingWarning o.listing loaded)
  | some path =>
    match Path.fileName? path with
    | none => return .failure ("log file path `" ++ path ++ "` has no file name")
    | some name =>
      let log := Path.join (Path.parent path) name
      match ← openLog files log with
      | .error e => return ⟨101, "", "initializing the log failed: " ++ e.message ++ "\n"⟩
      | .ok () =>
        let loaded ← Listing.load files o.listing
        let _ ← files.append log (listingWarning o.listing loaded)
        o.command.runWith files loaded

/-- Runs the program with the given arguments, where `setting` is the path of the listing that the
    environment sets. -/
def run (files : Files m) (setting : Option String) (arguments : List String) : m Outcome :=
  match Options.parse setting arguments with
  | .error stop => return stop.outcome
  | .ok options => options.run files

end Highlighter.CommandLine
