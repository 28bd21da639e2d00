import Highlighter.CommandLine.Run
import Highlighter.Proofs.FileTree
import Highlighter.Proofs.Position
import Highlighter.Proofs.Registry

/-!
Writing an output. A file in place of a directory on the way stops it before any file is changed
(`writeOutput_of_file`). Otherwise it comes to making all directories on the way and then the file
(`writeOutput_of_free`), whether or not the directories were looked for first. So no file but the output changes
(`file?_writeOutput`), and what is written depends neither on other files nor on which of the directories were missing
(`writeOutput_congr`).

Commands run on file trees. A command changes no file but its output (`Command.file?_run`), and what it prints, whether
it succeeds and what it writes depends on nothing in the tree but the text of its input and the way to its output
(`Command.run_congr`). Input that can be read has tokens in every language (`exists_lexInput`).
-/

namespace Highlighter.CommandLine

/-! ## Writing an output -/

open FileTree

section
variable {t u : FileTree} {output : String}

theorem wayAbove_eq_way_parent (t : FileTree) (output : String) : t.way (Path.parent output) = t.wayAbove output := by
  rw [way, wayAbove, origin, origin, Path.isAbsolute_parent, Path.names_parent]

theorem wayAbove_of_no_parent (none : (Path.parent output).isEmpty = true) (t : FileTree) : t.wayAbove output = [] := by
  rw [← wayAbove_eq_way_parent, way, String.isEmpty_iff.mp none]
  rfl

/-- A directory that is there is on a way of directories, unless a file takes its place. -/
theorem directories_of_isPresent (present : t.isPresent (Path.parent output) = true)
    (free : ∀ q ∈ t.wayAbove output, t.file? q = none) : ∀ q ∈ t.wayAbove output, t.entry q = some .directory := by
  intro q member
  rw [isPresent] at present
  cases resolved : t.resolve (Path.parent output) with
  | error e => rw [resolved] at present; contradiction
  | ok place =>
    obtain ⟨ends, through⟩ := resolve_eq_ok resolved
    simp only [resolved] at present
    have last := member
    rw [← wayAbove_eq_way_parent] at last
    rcases mem_entered last with inside | rfl
    · exact through q inside
    · rw [ends] at present
      rcases file?_eq_none_iff.mp (free _ member) with missing | there
      · rw [target] at present
        rw [missing] at present
        contradiction
      · exact there

end

section
variable (t : FileTree) (output text : String)

theorem writeOutput_of_found
    (found : (Path.parent output).isEmpty = true ∨ t.isPresent (Path.parent output) = true) :
    writeOutput files output text t = t.update output fun _ => text.toUTF8 := by
  rw [writeOutput]
  by_cases none : (Path.parent output).isEmpty = true
  · rw [if_pos none]
    rfl
  · have present : (files.isPresent (Path.parent output)) t = (true, t) :=
      congrArg (·, t) (found.resolve_left none)
    rw [if_neg none, bind_run, present]
    rfl

theorem writeOutput_of_missing (some : (Path.parent output).isEmpty = false)
    (missing : t.isPresent (Path.parent output) = false) {made : Except FileError Unit} {u : FileTree}
    (makes : t.makeDirectories (Path.parent output) = (made, u)) :
    (∀ e, made = .error e → writeOutput files output text t = (.error e, u)) ∧
      (made = .ok () → writeOutput files output text t = u.update output fun _ => text.toUTF8) := by
  have absent : (files.isPresent (Path.parent output)) t = (false, t) := congrArg (·, t) missing
  have makes' : (files.makeDirectories (Path.parent output)) t = (made, u) := makes
  rw [writeOutput, if_neg (by simp [some]), bind_run, absent]
  simp only [Bool.false_eq_true, if_false]
  rw [bind_run, makes']
  constructor
  · rintro e rfl
    rfl
  · rintro rfl
    rfl

theorem free_or_blocked :
    (∀ q ∈ t.wayAbove output, t.file? q = none) ∨ ∃ q ∈ t.wayAbove output, t.file? q ≠ none := by
  by_cases free : ∀ q ∈ t.wayAbove output, t.file? q = none
  · exact .inl free
  · exact .inr (by simpa using free)

/-- A file where a directory is needed stops it before any file is changed. -/
theorem writeOutput_of_file {q : List (List Char)} (member : q ∈ t.wayAbove output) (file : t.file? q ≠ none) :
    (∃ e, (writeOutput files output text t).1 = .error e) ∧
      ∀ q, (writeOutput files output text t).2.file? q = t.file? q := by
  have some : (Path.parent output).isEmpty = false := by
    by_contra none
    rw [wayAbove_of_no_parent (by simpa using none)] at member
    contradiction
  cases present : t.isPresent (Path.parent output) with
  | true =>
    rw [writeOutput_of_found t output text (.inr present)]
    rcases t.update_cases output fun _ => text.toUTF8 with ⟨e, failed⟩ | ⟨resolved, -, -⟩
    · rw [failed]
      exact ⟨⟨e, rfl⟩, fun q => rfl⟩
    · -- The path cannot be followed through the file.
      have directory := (resolve_eq_ok resolved).2 q member
      exact absurd (file?_eq_none_iff.mpr (.inr directory)) file
  | false =>
    have stopped : (t.makeDirectories (Path.parent output)).1 = .error .notDirectory := by
      rw [makeDirectories_parent]
      exact makeDirectoriesFrom_of_file member file
    rw [(writeOutput_of_missing t output text some present rfl).1 _ stopped]
    exact ⟨⟨_, rfl⟩, file?_makeDirectories t _⟩

/-- Otherwise the directories are made, as far as they are missing, and then the file. -/
theorem writeOutput_of_free (free : ∀ q ∈ t.wayAbove output, t.file? q = none) :
    writeOutput files output text t =
      (t.makeDirectories (Path.parent output)).2.update output fun _ => text.toUTF8 := by
  by_cases found : (Path.parent output).isEmpty = true ∨ t.isPresent (Path.parent output) = true
  · have directories : ∀ q ∈ t.wayAbove output, t.entry q = some .directory := by
      rcases found with none | present
      · simp [wayAbove_of_no_parent none]
      · exact directories_of_isPresent present free
    rw [writeOutput_of_found t output text found, makeDirectories_parent,
      makeDirectoriesFrom_of_directories directories]
  · obtain ⟨some, missing⟩ := not_or.mp found
    have done : (t.makeDirectories (Path.parent output)).1 = .ok () := by
      rw [makeDirectories_parent]
      exact (makeDirectoriesFrom_of_free free).1
    exact (writeOutput_of_missing t output text (by simpa using some) (by simpa using missing) rfl).2 done

/-- No file but the output changes. -/
theorem file?_writeOutput {q : List (List Char)} (different : q ≠ t.target output) :
    (writeOutput files output text t).2.file? q = t.file? q := by
  rcases free_or_blocked t output with free | ⟨q', member, file⟩
  · rw [writeOutput_of_free t output text free]
    have same := target_congr (workingDirectory_makeDirectories t (Path.parent output)) output
    rw [file?_congr (entry_update _ _ (by rwa [same])), file?_makeDirectories]
  · exact (writeOutput_of_file t output text member file).2 q

/-- What was written is what the output holds. -/
theorem read_of_writeOutput {u : FileTree} (written : writeOutput files output text t = (.ok (), u)) :
    u.read output = .ok text ∧ u.file? (t.target output) = some text.toUTF8 := by
  rcases free_or_blocked t output with free | ⟨q', member, file⟩
  · rw [writeOutput_of_free t output text free] at written
    rw [← target_congr (workingDirectory_makeDirectories t (Path.parent output)) output]
    exact read_of_update written
  · obtain ⟨⟨e, failed⟩, -⟩ := writeOutput_of_file t output text member file
    rw [written] at failed
    contradiction

end

/-- Trees are alike for an output: they have the same files in place of the directories on its way, whichever of the
    directories there are, and the same where it ends. -/
structure AlikeFor (t u : FileTree) (output : String) : Prop where
  workingDirectory : t.workingDirectory = u.workingDirectory
  files : ∀ q ∈ t.wayAbove output, t.file? q = u.file? q
  target : t.entry (t.target output) = u.entry (t.target output)

/-- With the directories made, nothing on the way tells the trees apart any more. -/
theorem AlikeFor.made {t u : FileTree} {output : String} (alike : AlikeFor t u output)
    (free : ∀ q ∈ t.wayAbove output, t.file? q = none) (free' : ∀ q ∈ u.wayAbove output, u.file? q = none) :
    (t.makeDirectories (Path.parent output)).2.AlikeOn (u.makeDirectories (Path.parent output)).2 output := by
  have start := workingDirectory_makeDirectories t (Path.parent output)
  have ends : (t.makeDirectories (Path.parent output)).2.entry (t.target output) =
      (u.makeDirectories (Path.parent output)).2.entry (t.target output) := by
    rw [entry_makeDirectories_parent free, entry_makeDirectories_parent free', alike.target,
      wayAbove_congr alike.workingDirectory]
  refine ⟨?_, fun q member => ?_, ?_⟩
  · rw [start, workingDirectory_makeDirectories, alike.workingDirectory]
  · rw [way_congr start] at member
    rcases mem_way member with above | rfl
    · rw [entry_makeDirectories_parent free, entry_makeDirectories_parent free',
        ← wayAbove_congr alike.workingDirectory, if_pos above, if_pos above]
    · exact ends
  · rwa [target_congr start]

/-- What comes of writing an output does not depend on anything else in the tree. -/
theorem writeOutput_congr {t u : FileTree} {output : String} (alike : AlikeFor t u output) (text : String) :
    (writeOutput files output text t).1.isOk = (writeOutput files output text u).1.isOk ∧
      (writeOutput files output text t).2.file? (t.target output) =
        (writeOutput files output text u).2.file? (t.target output) := by
  have ways := wayAbove_congr alike.workingDirectory output
  rcases free_or_blocked t output with free | ⟨q, member, file⟩
  · have free' : ∀ q ∈ u.wayAbove output, u.file? q = none := by
      rw [← ways]
      exact fun q member => (alike.files q member).symm.trans (free q member)
    obtain ⟨same, file⟩ := update_congr (fun _ => text.toUTF8) (alike.made free free')
    rw [target_congr (workingDirectory_makeDirectories t _)] at file
    rw [writeOutput_of_free t output text free, writeOutput_of_free u output text free', same]
    exact ⟨rfl, file?_congr file⟩
  · have file' : u.file? q ≠ none := by rwa [← alike.files q member]
    obtain ⟨⟨e, failed⟩, kept⟩ := writeOutput_of_file t output text member file
    obtain ⟨⟨e', failed'⟩, kept'⟩ := writeOutput_of_file u output text (ways ▸ member) file'
    rw [failed, failed', kept, kept']
    exact ⟨rfl, file?_congr alike.target⟩

/-! ## Commands -/

/-- Outcomes that nothing but the error output tells apart. -/
structure Outcome.Agrees (o o' : Outcome) : Prop where
  exitCode : o.exitCode = o'.exitCode
  stdout : o.stdout = o'.stdout

namespace Command

/-- The path of the input, if the command takes one. -/
def input? : Command → Option String
  | lex input _ _ => some input
  | highlight input _ _ => some input
  | languages => none

/-- The path of the output, if the command writes one. -/
def output? : Command → Option String
  | highlight _ _ output => output
  | _ => none

/-- A command finds the same in two trees: its input has the same text in both or cannot be read in either, and the
    trees are alike for its output. -/
structure FindsAlike (c : Command) (t u : FileTree) : Prop where
  input : ∀ input ∈ c.input?, (t.read input).toOption = (u.read input).toOption
  output : ∀ output ∈ c.output?, AlikeFor t u output

end Command

/-! ### Input -/

section
variable {t u : FileTree} {r : Registry} {lang : Option String} {input : String}

theorem lexInput_of_unreadable {e : FileError} (unreadable : t.read input = .error e) :
    lexInput files r lang input t = (.error e.message, t) := by
  rw [lexInput, bind_run]
  simp only [files, unreadable]
  rfl

theorem lexInput_of_read_error {src : String} {e : LexError} (read : t.read input = .ok src)
    (lexed : (chooseLexer r lang input).lex src = .error e) :
    lexInput files r lang input t = (.error e.message, t) := by
  rw [lexInput, bind_run]
  simp only [files, read, lexed]
  rfl

/-- An input with the same text has the same tokens, and neither tree changes. -/
theorem lexInput_congr (same : (t.read input).toOption = (u.read input).toOption) :
    (∃ tokens, lexInput files r lang input t = (.ok tokens, t) ∧ lexInput files r lang input u = (.ok tokens, u)) ∨
      ∃ reason reason',
        lexInput files r lang input t = (.error reason, t) ∧ lexInput files r lang input u = (.error reason', u) := by
  cases read : t.read input with
  | error e =>
    cases read' : u.read input with
    | error e' => exact .inr ⟨_, _, lexInput_of_unreadable read, lexInput_of_unreadable read'⟩
    | ok src => rw [read, read'] at same; contradiction
  | ok src =>
    have read' : u.read input = .ok src := by
      rw [read] at same
      cases other : u.read input with
      | error e => rw [other] at same; contradiction
      | ok src' => rw [other] at same; rw [Option.some.inj same]
    cases lexed : (chooseLexer r lang input).lex src with
    | error e => exact .inr ⟨_, _, lexInput_of_read_error read lexed, lexInput_of_read_error read' lexed⟩
    | ok tokens => exact .inl ⟨tokens, lexInput_of_read read lexed, lexInput_of_read read' lexed⟩

theorem lexInput_cases (t : FileTree) (r : Registry) (lang : Option String) (input : String) :
    (∃ tokens, lexInput files r lang input t = (.ok tokens, t)) ∨
      ∃ reason, lexInput files r lang input t = (.error reason, t) := by
  rcases @lexInput_congr t t r lang input rfl with ⟨tokens, lexed, -⟩ | ⟨reason, -, failed, -⟩
  · exact .inl ⟨tokens, lexed⟩
  · exact .inr ⟨reason, failed⟩

theorem getD_find?_mem {α : Type} (p : α → Bool) (default : α) (xs : List α) :
    (xs.find? p).getD default ∈ default :: xs := by
  cases found : xs.find? p with
  | none => exact List.mem_cons_self
  | some x => exact List.mem_cons_of_mem _ (List.mem_of_find?_eq_some found)

theorem chooseLexer_mem (r : Registry) (lang : Option String) (input : String) :
    chooseLexer r lang input ∈ r.plain :: r.lexers := by
  cases lang with
  | some name => exact getD_find?_mem _ r.plain r.lexers
  | none =>
    rw [chooseLexer, Registry.guess?]
    cases Path.fileName? input with
    | none => exact List.mem_cons_self
    | some name => exact getD_find?_mem _ r.plain r.lexers

/-- Input that can be read has tokens. -/
theorem exists_lexInput {listing : Listing} (built : Registry.ofListing listing = .ok r) (lang : Option String)
    {src : String} (read : t.read input = .ok src) : ∃ tokens, lexInput files r lang input t = (.ok tokens, t) := by
  obtain ⟨r', built', productive⟩ := Registry.exists_ofListing listing
  obtain rfl := Except.ok.inj (built.symm.trans built')
  obtain ⟨tokens, lexed⟩ := Lexer.lex_total (productive _ (chooseLexer_mem r lang input)) src
  exact ⟨tokens, lexInput_of_read read lexed⟩

end

namespace Command

section
variable {t u : FileTree} {r : Registry} {lang : Option String} {input : String} {tokens : List Token}

theorem run_lex_of_error (json : Bool) {reason : String} (failed : lexInput files r lang input t = (.error reason, t)) :
    (lex input lang json).run files r t = (.failure reason, t) := by
  rw [run, bind_run, failed]
  rfl

theorem run_highlight_of_error (output : Option String) {reason : String}
    (failed : lexInput files r lang input t = (.error reason, t)) :
    (highlight input lang output).run files r t = (.failure reason, t) := by
  rw [run, bind_run, failed]
  rfl

theorem run_lex_of_tokens (json : Bool) (lexed : lexInput files r lang input t = (.ok tokens, t)) :
    (lex input lang json).run files r t =
      (.success (if json then Json.tokens tokens ++ "\n" else listTokens (.start input) tokens), t) := by
  rw [run, bind_run, lexed]
  rfl

theorem run_highlight_of_tokens (lexed : lexInput files r lang input t = (.ok tokens, t)) :
    (highlight input lang none).run files r t = (.success (Html.codeBlock tokens ++ "\n"), t) := by
  rw [run, bind_run, lexed]
  rfl

/-- With an output nothing is printed, and the exit code tells whether the output was written. -/
theorem run_highlight_output (lexed : lexInput files r lang input t = (.ok tokens, t)) (output : String) :
    ∃ outcome, (highlight input lang (some output)).run files r t =
        (outcome, (writeOutput files output (Html.codeBlock tokens) t).2) ∧
      outcome.exitCode = (if (writeOutput files output (Html.codeBlock tokens) t).1.isOk then 0 else 1) ∧
      outcome.stdout = "" := by
  rw [run, bind_run, lexed]
  simp only
  rw [bind_run]
  rcases writeOutput files output (Html.codeBlock tokens) t with ⟨e | _, u⟩
  · exact ⟨.failure e.message, rfl, rfl, rfl⟩
  · exact ⟨.success "", rfl, rfl, rfl⟩

end

/-- No file but the output changes. -/
theorem file?_run (c : Command) (r : Registry) (t : FileTree) {q : List (List Char)}
    (different : ∀ output ∈ c.output?, q ≠ t.target output) : (c.run files r t).2.file? q = t.file? q := by
  cases c with
  | languages => rfl
  | lex input lang json =>
    rcases lexInput_cases t r lang input with ⟨tokens, lexed⟩ | ⟨reason, failed⟩
    · rw [run_lex_of_tokens json lexed]
    · rw [run_lex_of_error json failed]
  | highlight input lang output =>
    rcases lexInput_cases t r lang input with ⟨tokens, lexed⟩ | ⟨reason, failed⟩
    · cases output with
      | none => rw [run_highlight_of_tokens lexed]
      | some output =>
        obtain ⟨outcome, ran, -, -⟩ := run_highlight_output lexed output
        rw [ran]
        exact file?_writeOutput t output _ (different output rfl)
    · rw [run_highlight_of_error output failed]

/-- Where a command finds the same, it succeeds or fails alike, prints the same, and leaves the same in its output. -/
theorem run_congr {c : Command} {t u : FileTree} (r : Registry) (alike : c.FindsAlike t u) :
    (c.run files r t).1.Agrees (c.run files r u).1 ∧
      ∀ output ∈ c.output?,
        (c.run files r t).2.file? (t.target output) = (c.run files r u).2.file? (t.target output) := by
  cases c with
  | languages => exact ⟨⟨rfl, rfl⟩, by simp [output?]⟩
  | lex input lang json =>
    refine ⟨?_, by simp [output?]⟩
    rcases lexInput_congr (alike.input input rfl) with ⟨tokens, lexed, lexed'⟩ | ⟨reason, reason', failed, failed'⟩
    · rw [run_lex_of_tokens json lexed, run_lex_of_tokens json lexed']
      exact ⟨rfl, rfl⟩
    · rw [run_lex_of_error json failed, run_lex_of_error json failed']
      exact ⟨rfl, rfl⟩
  | highlight input lang output =>
    rcases lexInput_congr (alike.input input rfl) with ⟨tokens, lexed, lexed'⟩ | ⟨reason, reason', failed, failed'⟩
    · cases output with
      | none =>
        rw [run_highlight_of_tokens lexed, run_highlight_of_tokens lexed']
        exact ⟨⟨rfl, rfl⟩, by simp [output?]⟩
      | some output =>
        obtain ⟨same, file⟩ := writeOutput_congr (alike.output output rfl) (Html.codeBlock tokens)
        obtain ⟨outcome, ran, code, printed⟩ := run_highlight_output lexed output
        obtain ⟨outcome', ran', code', printed'⟩ := run_highlight_output lexed' output
        rw [ran, ran']
        refine ⟨⟨by rw [code, code', same], by rw [printed, printed']⟩, fun given member => ?_⟩
        rwa [← Option.some.inj (Option.mem_def.mp member)]
    · rw [run_highlight_of_error output failed, run_highlight_of_error output failed']
      exact ⟨⟨rfl, rfl⟩, fun given member => file?_congr (alike.output given member).target⟩

end Command

end Highlighter.CommandLine
