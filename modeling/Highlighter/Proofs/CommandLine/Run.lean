import Highlighter.Proofs.CommandLine.Command
import Highlighter.Proofs.Listing.Lines

/-!
Whole runs on file trees. A run without a log reads the listing and carries out its command with lexers that there are
for every listing (`exists_run`). So a run whose input cannot be read leaves the tree as it was, and a run that writes
an output changes nothing else (`run_changes_only_output`). As a listing only makes the lexers and the warning, one that
cannot be read and one that lists nothing make the same runs (`unreadable_listing_as_empty`).
-/

namespace Highlighter.CommandLine
open FileTree

/-! ### Runs without a log -/

section
variable {o : Options}

theorem run_of_parse {setting : Option String} {arguments : List String}
    (parsed : Options.parse setting arguments = .ok o) (t : FileTree) :
    run files setting arguments t = o.run files t := by
  unfold run
  rw [parsed]

theorem load_run (t : FileTree) (path : String) :
    (Listing.load files path) t = ((t.read path).map Listing.parse, t) := rfl

theorem runWith_of_built (c : Command) {loaded : Except FileError Listing} {r : Registry}
    (built : Registry.ofListing (.orEmpty loaded) = .ok r) : c.runWith files loaded = c.run files r := by
  unfold Command.runWith
  rw [built]

/-- Without a log a run reads the listing and carries out its command. -/
theorem run_of_unlogged (unlogged : o.logFile = none) (t : FileTree) {loaded : Except FileError Listing}
    (load : (Listing.load files o.listing) t = (loaded, t)) : o.run files t =
      ((o.command.runWith files loaded t).1.warned (listingWarning o.listing loaded),
        (o.command.runWith files loaded t).2) := by
  unfold Options.run
  rw [unlogged]
  simp only
  rw [bind_run, load, bind_run, pure_run]

theorem exists_run_of_built {listing : String} {t : FileTree} {r : Registry}
    (built : Registry.ofListing (.orEmpty ((t.read listing).map Listing.parse)) = .ok r) : ∃ warning, ∀ c : Command,
      (Options.mk listing none c).run files t = ((c.run files r t).1.warned warning, (c.run files r t).2) := by
  refine ⟨listingWarning listing ((t.read listing).map Listing.parse), fun c => ?_⟩
  rw [run_of_unlogged rfl t (load_run t listing), runWith_of_built c built]

/-- The lexers that a run without a log works with do not depend on its command. -/
theorem exists_run (listing : String) (t : FileTree) : ∃ (r : Registry) (warning : String),
    (∃ names, Registry.ofListing names = .ok r) ∧ ∀ c : Command,
      (Options.mk listing none c).run files t = ((c.run files r t).1.warned warning, (c.run files r t).2) := by
  obtain ⟨r, built, -⟩ := Registry.exists_ofListing (.orEmpty ((t.read listing).map Listing.parse))
  obtain ⟨warning, runs⟩ := exists_run_of_built built
  exact ⟨r, warning, ⟨_, built⟩, runs⟩

end

/-! ### Input that cannot be read -/

theorem Command.run_of_unreadable {c : Command} {r : Registry} {t : FileTree} {input : String} {e : FileError}
    (given : c.input? = some input) (unreadable : t.read input = .error e) :
    c.run files r t = (.failure e.message, t) := by
  have failed (lang : Option String) : lexInput files r lang input t = (.error e.message, t) :=
    lexInput_of_unreadable unreadable
  cases c with
  | languages => contradiction
  | lex input' lang json =>
    obtain rfl := Option.some.inj given
    exact run_lex_of_error json (failed lang)
  | highlight input' lang output =>
    obtain rfl := Option.some.inj given
    exact run_highlight_of_error output (failed lang)

/-- A run whose input cannot be read fails, prints nothing and leaves the file tree as it was. When the input of
    `highlight` can be read, no file but the output changes, and if the run succeeds then the output holds what the run
    without an output prints, less the line feed at its end. -/
theorem run_changes_only_output :
    (∀ (setting : Option String) (arguments : List String) (o : Options) (t : FileTree) (input : String)
      (e : FileError), Options.parse setting arguments = .ok o → o.logFile = none → o.command.input? = some input →
        t.read input = .error e → ∃ stderr, run files setting arguments t = (⟨1, "", stderr⟩, t)) ∧
    ∀ (setting : Option String) (arguments : List String) (o : Options) (t : FileTree) (input output src : String)
      (lang : Option String), Options.parse setting arguments = .ok o → o.logFile = none →
        o.command = .highlight input lang (some output) → t.read input = .ok src →
          ∃ outcome left html stderr, run files setting arguments t = (outcome, left) ∧
            ({ o with command := .highlight input lang none } : Options).run files t =
              (⟨0, html ++ "\n", stderr⟩, t) ∧
            (outcome.exitCode = 0 →
              left.read output = .ok html ∧ left.file? (t.target output) = some html.toUTF8) ∧
            ∀ q, q ≠ t.target output → left.file? q = t.file? q := by
  constructor
  · rintro setting arguments ⟨listing, _, c⟩ t input e parsed rfl given unreadable
    obtain ⟨r, warning, -, runs⟩ := exists_run listing t
    rw [run_of_parse parsed, runs, Command.run_of_unreadable given unreadable]
    exact ⟨_, rfl⟩
  · rintro setting arguments ⟨listing, _, _⟩ t input output src lang parsed rfl rfl read
    obtain ⟨r, warning, ⟨names, built⟩, runs⟩ := exists_run listing t
    obtain ⟨tokens, lexed⟩ := exists_lexInput built lang read
    obtain ⟨outcome, ran, code, -⟩ := Command.run_highlight_output lexed output
    refine ⟨outcome.warned warning, (writeOutput files output (Html.codeBlock tokens) t).2, Html.codeBlock tokens,
      warning ++ "", ?_, ?_, fun succeeded => ?_, fun q different => ?_⟩
    · rw [run_of_parse parsed, runs, ran]
    · rw [runs, Command.run_highlight_of_tokens lexed]
      rfl
    · rw [Outcome.warned, code] at succeeded
      rcases written : writeOutput files output (Html.codeBlock tokens) t with ⟨e | _, left⟩
      · simp [written, Except.isOk, Except.toBool] at succeeded
      · exact read_of_writeOutput t output _ written
    · exact file?_writeOutput t output _ different

/-- An input that is not text and one that is, each with an output in directories that are missing. -/
theorem run_changes_only_output_missing_directories :
    ∃ (t : FileTree) (stderr stderr' html : String) (outcome : Outcome) (left : FileTree),
      t.read "b.gml" = .error .notText ∧ t.read "a.gml" = .ok "pi" ∧ t.isPresent "site" = false ∧
      run files none ["hl", "-o", "site/b.html", "b.gml"] t = (⟨1, "", stderr⟩, t) ∧
      run files none ["hl", "-o", "site/new/a.html", "a.gml"] t = (outcome, left) ∧ outcome.exitCode = 0 ∧
      (Options.mk defaultListingPath none (.highlight "a.gml" none none)).run files t =
        (⟨0, html ++ "\n", stderr'⟩, t) ∧
      left.read "site/new/a.html" = .ok html ∧ left.file? (t.target "b.gml") = t.file? (t.target "b.gml") := by
  let t := (FileTree.empty.put [['w', 'o', 'r', 'k'], ['a', '.', 'g', 'm', 'l']] (.file "pi".toUTF8)).put
    [['w', 'o', 'r', 'k'], ['b', '.', 'g', 'm', 'l']] (.file ⟨#[0xff]⟩)
  have bytes : t.read "b.gml" = .error .notText := by decide +kernel
  have text : t.read "a.gml" = .ok "pi" := by decide +kernel
  have parsed : Options.parse none ["hl", "-o", "site/b.html", "b.gml"] =
      .ok ⟨defaultListingPath, none, .highlight "b.gml" none (some "site/b.html")⟩ := by decide +kernel
  have parsed' : Options.parse none ["hl", "-o", "site/new/a.html", "a.gml"] =
      .ok ⟨defaultListingPath, none, .highlight "a.gml" none (some "site/new/a.html")⟩ := by decide +kernel
  obtain ⟨fails, succeeds⟩ := run_changes_only_output
  obtain ⟨stderr, failed⟩ := fails _ _ _ t _ _ parsed rfl rfl bytes
  obtain ⟨outcome, left, html, stderr', ran, shown, written, others⟩ := succeeds _ _ _ t _ _ _ _ parsed' rfl rfl text
  have code : outcome.exitCode = 0 := by
    obtain ⟨r, warning, ⟨names, built⟩, runs⟩ := exists_run defaultListingPath t
    obtain ⟨tokens, lexed⟩ := exists_lexInput built none text
    obtain ⟨outcome', carried, code, -⟩ := Command.run_highlight_output lexed "site/new/a.html"
    have done : (writeOutput files "site/new/a.html" (Html.codeBlock tokens) t).1 = .ok () := rfl
    rw [run_of_parse parsed', runs, carried] at ran
    rw [← (Prod.mk.inj ran).1, Outcome.warned, code, done]
    rfl
  exact ⟨t, stderr, stderr', html, outcome, left, bytes, text, by decide +kernel, failed, ran, code, shown,
    (written code).1, others _ (by decide +kernel)⟩

/-! ### A listing that cannot be read -/

theorem Command.FindsAlike.refl (c : Command) (t : FileTree) : c.FindsAlike t t :=
  ⟨fun _ _ => rfl, fun _ _ => ⟨rfl, fun _ _ => rfl, rfl⟩⟩

/-- A command finds the same in a tree with something put where neither its input nor its output passes or ends. -/
theorem Command.findsAlike_put {c : Command} {t : FileTree} {place : List (List Char)} (e : FileEntry)
    (apart : ∀ input ∈ c.input?, place ∉ t.way input ∧ place ≠ t.target input)
    (apart' : ∀ output ∈ c.output?, place ∉ t.wayAbove output ∧ place ≠ t.target output) :
    c.FindsAlike t (t.put place e) := by
  have other {q : List (List Char)} (different : place ≠ q) : t.entry q = (t.put place e).entry q :=
    (entry_put_of_ne t different.symm e).symm
  refine ⟨fun input given => ?_, fun output given => ?_⟩
  · obtain ⟨outside, before⟩ := apart input given
    have alike : t.AlikeOn (t.put place e) input :=
      ⟨rfl, fun q member => other (ne_of_mem_of_not_mem member outside).symm, other before⟩
    rw [read_congr alike]
  · obtain ⟨outside, before⟩ := apart' output given
    exact ⟨rfl, fun q member => file?_congr (other (ne_of_mem_of_not_mem member outside).symm), other before⟩

/-- With a listing that cannot be read and with one that lists nothing, runs work with the same lexers. -/
theorem exists_runs_of_unreadable {t t' : FileTree} {o o' : Options} {e : FileError} {text : String}
    (unlogged : o.logFile = none) (unlogged' : o'.logFile = none) (same : o'.command = o.command)
    (unreadable : t.read o.listing = .error e) (read : t'.read o'.listing = .ok text)
    (nothing : Listing.ListsNothing text) : ∃ (r : Registry) (warning warning' : String),
      o.run files t = ((o.command.run files r t).1.warned warning, (o.command.run files r t).2) ∧
        o'.run files t' = ((o.command.run files r t').1.warned warning', (o.command.run files r t').2) := by
  obtain ⟨listing, _, c⟩ := o
  obtain ⟨listing', _, _⟩ := o'
  obtain rfl := unlogged
  obtain rfl := unlogged'
  obtain rfl := same
  obtain ⟨r, built, -⟩ := Registry.exists_ofListing .empty
  have first : Listing.orEmpty ((t.read listing).map Listing.parse) = .empty := by
    rw [unreadable]
    rfl
  have second : Listing.orEmpty ((t'.read listing').map Listing.parse) = .empty := by
    rw [read]
    exact Listing.parse_of_listsNothing nothing
  obtain ⟨warning, runs⟩ := exists_run_of_built (first ▸ built)
  obtain ⟨warning', runs'⟩ := exists_run_of_built (second ▸ built)
  exact ⟨r, warning, warning', runs _, runs' _⟩

/-- A listing that cannot be read is an empty listing. The registry that is loaded from it is that of the empty listing,
    so both find the same tokens in every source. And a run without a log prints the same and ends with the same exit
    code as a run of the same command with any listing that lists nothing. In one tree both leave the same; in two
    trees in which the command finds the same, the second of which may have a listing that the first does not have,
    both leave the same in the output and change no other file. -/
theorem unreadable_listing_as_empty :
    (∀ (t : FileTree) (path : String) (e : FileError), t.read path = .error e →
      ∃ r, Registry.ofListing .empty = .ok r ∧ Registry.load files path t = (.ok r, t)) ∧
    ∀ (setting setting' : Option String) (arguments arguments' : List String) (o o' : Options),
      Options.parse setting arguments = .ok o → Options.parse setting' arguments' = .ok o' →
      o.logFile = none → o'.logFile = none → o'.command = o.command →
        (∀ (t : FileTree) (e : FileError) (text : String), t.read o.listing = .error e → t.read o'.listing = .ok text →
          Listing.ListsNothing text →
            ∃ outcome outcome' left, run files setting arguments t = (outcome, left) ∧
              run files setting' arguments' t = (outcome', left) ∧ outcome.Agrees outcome') ∧
        ∀ (t t' : FileTree) (e : FileError) (text : String), t.read o.listing = .error e →
          t'.read o'.listing = .ok text → Listing.ListsNothing text → o.command.FindsAlike t t' →
            ∃ outcome outcome' left left', run files setting arguments t = (outcome, left) ∧
              run files setting' arguments' t' = (outcome', left') ∧ outcome.Agrees outcome' ∧
              (∀ output ∈ o.command.output?, left.file? (t.target output) = left'.file? (t.target output)) ∧
              ∀ q, (∀ output ∈ o.command.output?, q ≠ t.target output) →
                left.file? q = t.file? q ∧ left'.file? q = t'.file? q := by
  constructor
  · intro t path e unreadable
    obtain ⟨r, built, -⟩ := Registry.exists_ofListing .empty
    refine ⟨r, built, ?_⟩
    unfold Registry.load
    rw [bind_run, load_run, unreadable, pure_run]
    exact congrArg (·, t) built
  · intro setting setting' arguments arguments' o o' parsed parsed' unlogged unlogged' same
    constructor
    · intro t e text unreadable read nothing
      obtain ⟨r, warning, warning', ran, ran'⟩ :=
        exists_runs_of_unreadable unlogged unlogged' same unreadable read nothing
      refine ⟨_, _, _, (run_of_parse parsed t).trans ran, (run_of_parse parsed' t).trans ran', rfl, rfl⟩
    · intro t t' e text unreadable read nothing alike
      obtain ⟨r, warning, warning', ran, ran'⟩ :=
        exists_runs_of_unreadable unlogged unlogged' same unreadable read nothing
      obtain ⟨agrees, file⟩ := Command.run_congr r alike
      refine ⟨_, _, _, _, (run_of_parse parsed t).trans ran, (run_of_parse parsed' t').trans ran',
        ⟨agrees.exitCode, agrees.stdout⟩, file, fun q different => ⟨Command.file?_run _ r t different, ?_⟩⟩
      refine Command.file?_run _ r t' fun output given => ?_
      rw [← target_congr (alike.output output given).workingDirectory]
      exact different output given

/-- A listing that is missing, and one with an empty line and a comment that only the second tree has. -/
theorem unreadable_listing_as_empty_comment : ∃ t t' : FileTree, t.read "gone.txt" = .error .notFound ∧
    t'.read "gone.txt" = .error .notFound ∧ t'.read "l.txt" = .ok "\n# none\n" ∧ t.read "l.txt" = .error .notFound ∧
    (∃ r, Registry.ofListing .empty = .ok r ∧ Registry.load files "gone.txt" t = (.ok r, t)) ∧
    (∃ outcome outcome' left,
      run files none ["--gml-builtins=gone.txt", "hl", "-o", "site/a.html", "a.gml"] t' = (outcome, left) ∧
      run files none ["hl", "a.gml", "--gml-builtins", "l.txt", "-o", "site/a.html"] t' = (outcome', left) ∧
      outcome.Agrees outcome') ∧
    ∃ outcome outcome' left left',
      run files none ["--gml-builtins=gone.txt", "hl", "-o", "site/a.html", "a.gml"] t = (outcome, left) ∧
      run files none ["hl", "a.gml", "--gml-builtins", "l.txt", "-o", "site/a.html"] t' = (outcome', left') ∧
      outcome.Agrees outcome' ∧ outcome'.exitCode = 0 ∧ outcome'.stdout = "" ∧
      left.file? (t.target "site/a.html") = left'.file? (t.target "site/a.html") ∧
      left'.file? (t.target "site/a.html") =
        some "<pre><code class=\"hl\"><span class=\"nv\">pi</span></code></pre>".toUTF8 := by
  let t := FileTree.empty.put [['w', 'o', 'r', 'k'], ['a', '.', 'g', 'm', 'l']] (.file "pi".toUTF8)
  let t' := t.put [['w', 'o', 'r', 'k'], ['l', '.', 't', 'x', 't']] (.file "\n# none\n".toUTF8)
  have parsed : Options.parse none ["--gml-builtins=gone.txt", "hl", "-o", "site/a.html", "a.gml"] =
      .ok ⟨"gone.txt", none, .highlight "a.gml" none (some "site/a.html")⟩ := by decide +kernel
  have parsed' : Options.parse none ["hl", "a.gml", "--gml-builtins", "l.txt", "-o", "site/a.html"] =
      .ok ⟨"l.txt", none, .highlight "a.gml" none (some "site/a.html")⟩ := by decide +kernel
  have missing : t.read "gone.txt" = .error .notFound := by decide +kernel
  have missing' : t'.read "gone.txt" = .error .notFound := by decide +kernel
  have listing : t'.read "l.txt" = .ok "\n# none\n" := by decide +kernel
  have nothing : Listing.ListsNothing "\n# none\n" := by decide +kernel
  have alike : (Command.highlight "a.gml" none (some "site/a.html")).FindsAlike t t' := by
    refine Command.findsAlike_put _ ?_ ?_
    · rintro input ⟨⟩
      decide +kernel
    · rintro output ⟨⟩
      decide +kernel
  obtain ⟨loads, runs⟩ := unreadable_listing_as_empty
  obtain ⟨oneTree, twoTrees⟩ := runs _ _ _ _ _ _ parsed parsed' rfl rfl rfl
  obtain ⟨outcome, outcome', left, left', ran, ran', agree, same, -⟩ := twoTrees t t' _ _ missing listing nothing alike
  have results : (fun result : Outcome × FileTree =>
      (result.1.exitCode, result.1.stdout, result.2.file? (t.target "site/a.html")))
        (run files none ["hl", "a.gml", "--gml-builtins", "l.txt", "-o", "site/a.html"] t') =
      (0, "", some "<pre><code class=\"hl\"><span class=\"nv\">pi</span></code></pre>".toUTF8) := by
    decide +kernel
  rw [ran'] at results
  obtain ⟨code, printed⟩ := Prod.mk.inj results
  obtain ⟨printed, written⟩ := Prod.mk.inj printed
  exact ⟨t, t', missing, missing', listing, by decide +kernel, loads t _ _ missing,
    oneTree t' _ _ missing' listing nothing, outcome, outcome', left, left', ran, ran', agree, code, printed, same _ rfl,
    written⟩

end Highlighter.CommandLine
