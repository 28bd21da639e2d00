/-!
The arguments of the command line: a command with its options and its input. Two options are understood
before and after the name of the command, and the later place counts. Arguments are read from left to
right; the first that makes no sense is reported, and a request for the version or for help is answered
as soon as it is read.
-/

namespace Highlighter.CommandLine

/-- The options. -/
inductive Flag where
  | listing
  | logFile
  | lang
  | output
  | json
  | version
  | help
  deriving DecidableEq, Repr

namespace Flag

/-- The name after two hyphens. -/
def long : Flag → String
  | listing => "gml-builtins"
  | logFile => "log-file"
  | lang => "lang"
  | output => "output"
  | json => "json"
  | version => "version"
  | help => "help"

/-- The letter after one hyphen. -/
def short? : Flag → Option Char
  | lang => some 'l'
  | output => some 'o'
  | version => some 'V'
  | help => some 'h'
  | _ => none

/-- Whether a value goes with the option. -/
def takesValue : Flag → Bool
  | listing | logFile | lang | output => true
  | json | version | help => false

/-- Whether the value is a path, which cannot be empty. -/
def isPath : Flag → Bool
  | listing | logFile | output => true
  | _ => false

end Flag

/-- The places on a command line: before the name of the command, or after the name of one. -/
inductive Level where
  | program
  | lex
  | highlight
  | languages
  deriving DecidableEq, Repr

/-- The options that are understood at a place. -/
def Level.flags : Level → List Flag
  | program => [.listing, .logFile, .version, .help]
  | lex => [.listing, .logFile, .lang, .json, .help]
  | highlight => [.listing, .logFile, .lang, .output, .help]
  | languages => [.listing, .logFile, .help]

/-- Whether the command takes the path of an input. -/
def Level.takesInput : Level → Bool
  | lex | highlight => true
  | program | languages => false

/-- The command of a given name. -/
def Level.ofCommand? (name : String) : Option Level :=
  if name = "lex" ∨ name = "lx" then some lex
  else if name = "highlight" ∨ name = "hl" then some highlight
  else if name = "languages" ∨ name = "ls" then some languages
  else none

/-- What is wrong with the arguments. -/
inductive UsageError where
  | unexpectedArgument (argument : String)
  | unknownCommand (name : String)
  | missingCommand
  | missingInput
  | missingValue (flag : Flag)
  | unexpectedValue (flag : Flag)
  | repeatedFlag (flag : Flag)
  | emptyPath
  deriving DecidableEq, Repr

/-- The error in words. -/
def UsageError.message : UsageError → String
  | unexpectedArgument argument => "unexpected argument '" ++ argument ++ "'"
  | unknownCommand name => "unrecognized command '" ++ name ++ "'"
  | missingCommand => "a command is required: lex, highlight or languages"
  | missingInput => "the path of the input is required"
  | missingValue flag => "a value is required for '--" ++ flag.long ++ "'"
  | unexpectedValue flag => "no value is expected for '--" ++ flag.long ++ "'"
  | repeatedFlag flag => "'--" ++ flag.long ++ "' cannot be used more than once"
  | emptyPath => "a path cannot be empty"

/-- Why the arguments are not those of a run. -/
inductive Stop where
  | version
  | help
  | usage (e : UsageError)
  deriving DecidableEq, Repr

/-- What an argument is by its form. -/
inductive Word where
  /-- Two hyphens alone, which end the options. -/
  | separator
  /-- An option, perhaps with a value in the same argument. -/
  | flag (f : Flag) (value : Option String)
  /-- The form of an option, but none that is understood. -/
  | unknown
  /-- Anything else. -/
  | plain
  deriving DecidableEq, Repr

/-- The value written after an equals sign. -/
def valueAfterEquals? : List Char → Option String
  | '=' :: cs => some (String.ofList cs)
  | _ => none

/-- Reads the form of an argument. A letter's value follows it directly or after an equals sign. -/
def Level.classify (level : Level) (argument : String) : Word :=
  match argument.toList with
  | ['-', '-'] => .separator
  | '-' :: '-' :: cs =>
    match level.flags.find? (·.long.toList == cs.takeWhile (· != '=')) with
    | some f => .flag f (valueAfterEquals? (cs.dropWhile (· != '=')))
    | none => .unknown
  | '-' :: letter :: cs =>
    match level.flags.find? (·.short? == some letter) with
    | some f =>
      if !f.takesValue || cs.isEmpty then .flag f none
      else .flag f ((valueAfterEquals? cs).or (some (String.ofList cs)))
    | none => .unknown
  | _ => .plain

/-- Whether an argument can be the value of the option before it. A hyphen alone can. -/
def isValue (argument : String) : Bool :=
  match argument.toList with
  | '-' :: _ :: _ => false
  | _ => true

/-- What was given at one place of the command line. -/
structure Given where
  values : List (Flag × String)
  input : Option String
  deriving DecidableEq, Repr

namespace Given

/-- Nothing was given. -/
def nothing : Given := ⟨[], none⟩

/-- The value given for an option. -/
def value? (g : Given) (flag : Flag) : Option String := g.values.lookup flag

/-- What was given, with one more option. -/
def addValue (g : Given) (flag : Flag) (value : String) : Except Stop Given :=
  if (g.value? flag).isSome then .error (.usage (.repeatedFlag flag))
  else if flag.isPath && value.isEmpty then .error (.usage .emptyPath)
  else .ok { g with values := (flag, value) :: g.values }

/-- What was given, with an argument that is no option. -/
def addInput (level : Level) (g : Given) (argument : String) : Except Stop Given :=
  if !level.takesInput || g.input.isSome then .error (.usage (.unexpectedArgument argument))
  else if argument.isEmpty then .error (.usage .emptyPath)
  else .ok { g with input := some argument }

/-- Reads the arguments after two hyphens, none of which is an option. -/
def readInputs (level : Level) (g : Given) (arguments : List String) : Except Stop Given :=
  arguments.foldlM (fun g argument => g.addInput level argument) g

/-- Reads the arguments of one place. In front of a command's name it ends there; the arguments from the
    name on are left. -/
def read (level : Level) : Given → List String → Except Stop (Given × List String)
  | g, [] => .ok (g, [])
  | g, argument :: arguments =>
    match level.classify argument with
    | .unknown => .error (.usage (.unexpectedArgument argument))
    | .separator => (g.readInputs level arguments).map (·, [])
    | .plain =>
      if level = .program then .ok (g, argument :: arguments)
      else
        match g.addInput level argument with
        | .error e => .error e
        | .ok g => read level g arguments
    | .flag f (some value) =>
      if f.takesValue then
        match g.addValue f value with
        | .error e => .error e
        | .ok g => read level g arguments
      else .error (.usage (.unexpectedValue f))
    | .flag .version none => .error .version
    | .flag .help none => .error .help
    | .flag f none =>
      if f.takesValue then
        match arguments with
        | [] => .error (.usage (.missingValue f))
        | value :: arguments =>
          if isValue value then
            match g.addValue f value with
            | .error e => .error e
            | .ok g => read level g arguments
          else .error (.usage (.missingValue f))
      else
        match g.addValue f "" with
        | .error e => .error e
        | .ok g => read level g arguments

end Given

/-- A command with its options. -/
inductive Command where
  | lex (input : String) (lang : Option String) (json : Bool)
  | highlight (input : String) (lang output : Option String)
  | languages
  deriving DecidableEq, Repr

/-- What the arguments ask for. -/
structure Options where
  /-- The path of the listing. -/
  listing : String
  /-- The path of the log, where warnings go instead of the error output. -/
  logFile : Option String
  command : Command
  deriving DecidableEq, Repr

/-- The path of the listing where none is given. -/
def defaultListingPath : String := "data/gml_builtins.txt"

/-- The command that was given. -/
def Given.command (g : Given) : Level → Except Stop Command
  | .program => .error (.usage .missingCommand)
  | .languages => .ok .languages
  | .lex =>
    match g.input with
    | none => .error (.usage .missingInput)
    | some input => .ok (.lex input (g.value? .lang) (g.value? .json).isSome)
  | .highlight =>
    match g.input with
    | none => .error (.usage .missingInput)
    | some input => .ok (.highlight input (g.value? .lang) (g.value? .output))

/-- Whether some arguments name something that help can be asked about: the program, a command, or help
    itself. -/
def isTopic : List String → Bool
  | [] => true
  | [name] => name == "help" || (Level.ofCommand? name).isSome
  | _ => false

/-- What the arguments ask for, where `setting` is the path of the listing that the environment sets. An
    empty setting is refused at each place that gives no path of its own. -/
def Options.parse (setting : Option String) (arguments : List String) : Except Stop Options := do
  let (outer, rest) ← Given.read .program .nothing arguments
  match rest with
  | [] => .error (.usage .missingCommand)
  | name :: rest =>
    match Level.ofCommand? name with
    | none =>
      if name = "help" ∧ isTopic rest then .error .help else .error (.usage (.unknownCommand name))
    | some level =>
      let (inner, _) ← Given.read level .nothing rest
      let command ← inner.command level
      if setting = some "" ∧ ¬ ((inner.value? .listing).isSome ∧ (outer.value? .listing).isSome) then
        .error (.usage .emptyPath)
      else
        .ok {
          listing := (((inner.value? .listing).or (outer.value? .listing)).or setting).getD
            defaultListingPath
          logFile := (inner.value? .logFile).or (outer.value? .logFile)
          command := command }

end Highlighter.CommandLine
