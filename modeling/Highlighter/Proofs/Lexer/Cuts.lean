import Highlighter.Proofs.Lexer.Building
import Highlighter.Proofs.Lexer.Partition
import Highlighter.Proofs.Lexer.Replay

/-!
Lexers that never stall. A lexer is productive if every rule uses at least one character wherever it matches;
each step of a scan with such a lexer succeeds (`step_total`), and so does every scan (`lex_total`). Whether a
table makes a productive lexer can be checked on the table (`Table.build_total`).

Lexers with one state, as all registered languages have. The table of some rules makes the lexer of what its
rules are read as (`build_single_iff`), and if it is sound, this lexer never stalls (`build_single_total`).

How the rules of a lexer with one state cut a text into tokens. `Cuts` describes it from any place of a source
on, without the scan: where a rule matches, the match is a token, and where none does, all characters up to the
next match, or up to the end, are one token of plain text. A scan cuts its source in this way (`cuts_of_lex`),
there is no other way to cut it (`Cuts.unique`), and a lexer that never stalls finds it (`Cuts.lex`).
-/

namespace Highlighter

/-! ## Lexers that never stall -/

namespace Lexer
variable {P : Type} {l : Lexer P}

theorem exists_state_of_mem {s : Scan} {r : Rule P} (listed : r ∈ (l.current s).rules) :
    ∃ state ∈ l.states, r ∈ state.rules := by
  rw [current, stateAt] at listed
  cases found : l.states[s.stack.headD l.root]? with
  | none => rw [found] at listed; simp at listed
  | some state =>
    rw [found] at listed
    exact ⟨state, List.mem_of_getElem? found, listed⟩

variable [Engine P]

/-- Every rule uses at least one character wherever it matches. -/
def Productive (l : Lexer P) : Prop :=
  ∀ s ∈ l.states, ∀ r ∈ s.rules, ∀ before rest n, Engine.matchLength? r.pattern before rest = some n → 0 < n

theorem step_total (productive : l.Productive) (s : Scan) : ∃ next, l.step s = .ok next := by
  cases here : s.rest with
  | nil => exact ⟨s, step_of_ended here⟩
  | cons c rest =>
    cases found : firstHit? s.before s.rest 0 (l.current s).rules with
    | none => exact ⟨s.skip c rest, step_of_none here found⟩
    | some hit =>
      obtain ⟨listed, matched⟩ := firstHit?_mem _ 0 found
      obtain ⟨state, member, declared⟩ := exists_state_of_mem listed
      have some := productive state member hit.rule declared _ _ _ matched
      refine ⟨l.accept s hit, ?_⟩
      rw [step_of_some (by simp [here]) found, if_neg (by omega)]

theorem run_total (productive : l.Productive) (fuel : Nat) : ∀ s, ∃ last, l.run fuel s = .ok last := by
  induction fuel with
  | zero => exact fun s => ⟨s, rfl⟩
  | succ fuel ih =>
    intro s
    obtain ⟨next, stepped⟩ := step_total productive s
    obtain ⟨last, ran⟩ := ih next
    exact ⟨last, (run_of_step stepped fuel).trans ran⟩

/-- A productive lexer finds tokens in every source. -/
theorem lex_total (productive : l.Productive) (src : String) : ∃ tokens, l.lex src = .ok tokens := by
  obtain ⟨last, ran⟩ := run_total productive src.toList.length (.start l.root src.toList)
  exact ⟨last.flushed.reverse, lex_of_run ran⟩

end Lexer

namespace Table

/-- Whether the rule leads to a declared state and its pattern can be read and cannot be empty. -/
def Rule.sound (declared : List String) (r : Table.Rule) : Bool :=
  (r.unknownTarget? declared).isNone && (Pattern.parse? r.pattern).any fun p => !p.canBeEmpty

/-- Whether the table makes a lexer that never stalls. -/
def sound (t : Table) : Bool :=
  decide t.stateNames.Nodup && t.stateNames.contains rootName &&
    t.states.all fun s => s.rules.all (Rule.sound t.stateNames)

/-- The rule without what it makes of the text it matches. -/
def Rule.bare (r : Table.Rule) : Table.Rule := { r with action := .emit .plainText }

/-- The table without what its rules make of the texts they match. -/
def bare (t : Table) : Table :=
  { t with states := t.states.map fun s => { s with rules := s.rules.map Rule.bare } }

/-- Whether a table is sound does not depend on what its rules make of a text. -/
theorem sound_bare (t : Table) : t.bare.sound = t.sound := by
  have names : t.bare.stateNames = t.stateNames := by simp [stateNames, bare]
  rw [sound, sound, names, bare, List.all_map]
  simp only [Function.comp_def, List.all_map]
  rfl

theorem exists_readAs_rule {declared : List String} {r : Table.Rule} (sound : r.sound declared = true) :
    ∃ c : Lexer.Rule, r.ReadAs declared c ∧ c.pattern.canBeEmpty = false := by
  obtain ⟨target, readable⟩ := (Bool.and_eq_true _ _).mp sound
  obtain ⟨p, parsed, full⟩ := Option.any_eq_true _ _ |>.mp readable
  exact ⟨⟨r.pattern, p, r.action, r.transition⟩, ⟨Option.isNone_iff_eq_none.mp target, parsed, rfl, rfl, rfl⟩,
    by simpa using full⟩

theorem exists_readAs_state {declared : List String} {s : Table.State}
    (sound : ∀ r ∈ s.rules, r.sound declared = true) :
    ∃ c : Lexer.State, s.ReadAs declared c ∧ ∀ r ∈ c.rules, r.pattern.canBeEmpty = false := by
  obtain ⟨rules, related, full⟩ := exists_forall₂ fun r member => exists_readAs_rule (sound r member)
  exact ⟨⟨s.name, rules⟩, ⟨rfl, related⟩, full⟩

/-- A sound table makes a productive lexer of its language. -/
theorem build_total {t : Table} (sound : t.sound = true) : ∃ l, t.build = .ok l ∧ l.Productive := by
  simp only [Table.sound, Bool.and_eq_true, decide_eq_true_iff, List.contains_iff_mem, List.all_eq_true] at sound
  obtain ⟨⟨distinct, rooted⟩, sound⟩ := sound
  obtain ⟨states, related, full⟩ := exists_forall₂ fun s member => exists_readAs_state (sound s member)
  obtain ⟨root, found⟩ := Option.isSome_iff_exists.mp (List.isSome_idxOf?.mpr rooted)
  refine ⟨⟨t.language, states, root⟩, (build_eq_ok_iff t _).mpr ⟨distinct, found, rfl, related⟩, ?_⟩
  intro s member r listed before rest n matched
  exact Pattern.matchLength?_pos (full s member r listed) matched

end Table

/-! ## Lexers with one state -/

theorem Table.Rule.ReadAs.parse?_eq {declared : List String} {r : Table.Rule} {c : Lexer.Rule}
    (read : r.ReadAs declared c) : Pattern.parse? r.pattern = some c.pattern := read.pattern

namespace Lexer

/-- The first of some rules matches, or the first hit is one of the others. -/
theorem firstHit?_cons (before : Option Char) (rest : List Char) (index : Nat) (r : Rule) (rules : List Rule) :
    firstHit? before rest index (r :: rules) =
      (r.pattern.matchLength? before rest).elim (firstHit? before rest (index + 1) rules) (some ⟨index, r, ·⟩) := by
  rw [firstHit?, show r.pattern.matchLength? before rest = Engine.matchLength? r.pattern before rest from rfl]
  cases Engine.matchLength? r.pattern before rest <;> rfl

/-- The lexer whose only state has the given rules. -/
def single (language : Language) (rules : List Rule) : Lexer := ⟨language, [⟨Table.rootName, rules⟩], 0⟩

theorem rulesOf_single (language : Language) (rules : List Rule) (name : String) :
    (single language rules).rulesOf name = if name = Table.rootName then rules else [] := by
  by_cases root : name = Table.rootName
  · simp [rulesOf, single, root]
  · have other : Table.rootName ≠ name := Ne.symm root
    simp [rulesOf, single, root, other]

theorem wellFormed_single {language : Language} {rules : List Rule} (still : ∀ r ∈ rules, r.transition = none) :
    (single language rules).WellFormed := by
  refine ⟨by simp [stateNames, single], rfl, ?_⟩
  intro s member r listed name enters
  rw [List.mem_singleton.mp member] at listed
  rw [still r listed] at enters
  contradiction

end Lexer

namespace Table

/-- The table whose only state has the given rules. -/
def single (language : Language) (rules : List Table.Rule) : Table := ⟨language, [⟨rootName, rules⟩]⟩

/-- The patterns of some rules. -/
def patternsOf (rules : List Table.Rule) : List Pattern := (rules.map (·.pattern)).filterMap Pattern.parse?

section
variable {language : Language} {rules others : List Table.Rule} {declared : List String} {read : List Lexer.Rule}

theorem build_single_iff {l : Lexer} :
    (single language rules).build = .ok l ↔
      ∃ read, l = .single language read ∧ List.Forall₂ (Rule.ReadAs [rootName]) rules read := by
  rw [build_eq_ok_iff]
  constructor
  · rintro ⟨_, rooted, tagged, related⟩
    obtain ⟨own, states, root⟩ := l
    cases related with
    | @cons _ state _ _ first none =>
      cases none
      obtain ⟨name, listed⟩ := state
      have start : some 0 = some root := rooted
      have called : name = rootName := first.name
      have same : own = language := tagged
      refine ⟨listed, ?_, first.rules⟩
      rw [called, same, ← Option.some.inj start]
      rfl
  · rintro ⟨read, rfl, related⟩
    refine ⟨?_, ?_, rfl, .cons ⟨rfl, related⟩ .nil⟩
    · simp [stateNames, single]
    · simp [stateNames, single, Lexer.single]

/-- Rules of a sound table make a sound table. -/
theorem sound_of_subset (sound : (single language rules).sound = true) (subset : others ⊆ rules) :
    (single language others).sound = true := by
  simp only [Table.sound, single, stateNames, Bool.and_eq_true, List.all_eq_true] at sound ⊢
  refine ⟨sound.1, fun s member r listed => ?_⟩
  obtain rfl := List.mem_singleton.mp member
  exact sound.2 _ List.mem_cons_self r (subset listed)

theorem patternsOf_of_readAs (related : List.Forall₂ (Rule.ReadAs declared) rules read) :
    read.map (·.pattern) = patternsOf rules := by
  induction related with
  | nil => rfl
  | cons first later ih =>
    rw [patternsOf] at ih ⊢
    rw [List.map_cons, List.map_cons, List.filterMap_cons, first.parse?_eq, ih]

theorem still_of_readAs (related : List.Forall₂ (Rule.ReadAs declared) rules read)
    (still : ∀ r ∈ rules, r.transition = none) : ∀ c ∈ read, c.transition = none := by
  intro c member
  obtain ⟨r, listed, same⟩ := exists_of_mem_right related member
  exact same.transition.trans (still r listed)

/-- A sound table of one state makes the productive lexer of the rules that its rules are read as. -/
theorem build_single_total (sound : (single language rules).sound = true) :
    ∃ read, (single language rules).build = .ok (.single language read) ∧
      (Lexer.single language read).Productive ∧ List.Forall₂ (Rule.ReadAs [rootName]) rules read := by
  obtain ⟨l, built, productive⟩ := build_total sound
  obtain ⟨read, rfl, related⟩ := build_single_iff.mp built
  exact ⟨read, built, productive, related⟩

end

end Table

/-! ## How a text is cut -/

theorem Token.ofChars_zero (category : Category) (cs : List Char) :
    ofChars category 0 cs = ⟨category, .ofList cs, 0, (String.ofList cs).utf8ByteSize⟩ := by
  rw [ofChars, utf8ByteSize_ofList, Nat.zero_add]

/-- No two tokens of plain text stand side by side. -/
def PlainApart (tokens : List Token) : Prop :=
  tokens.IsChain fun t next => t.category = .plainText → next.category ≠ .plainText

namespace Lexer

/-- No rule matches at any character of a run behind which `after` follows. -/
inductive Unmatched (rules : List Rule) (after : List Char) : Option Char → List Char → Prop where
  | nil (before : Option Char) : Unmatched rules after before []
  | cons {before : Option Char} {c : Char} {run : List Char}
      (here : firstHit? before (c :: (run ++ after)) 0 rules = none) (later : Unmatched rules after (some c) run) :
      Unmatched rules after before (c :: run)

/-- The rules cut some characters into tokens, where `before` is the character in front of them and `offset` their
    place in the source. -/
inductive Cuts (rules : List Rule) : Option Char → Nat → List Char → List Token → Prop where
  | nil (before : Option Char) (offset : Nat) : Cuts rules before offset [] []
  | hit {before : Option Char} {offset : Nat} {text after : List Char} {tokens : List Token} {hit : Hit}
      (found : firstHit? before (text ++ after) 0 rules = some hit) (length : text.length = hit.length)
      (some : text ≠ []) (later : Cuts rules (text.getLast?.or before) (offset + byteLength text) after tokens) :
      Cuts rules before offset (text ++ after)
        (.ofChars (hit.rule.action.resolve (String.ofList text)) offset text :: tokens)
  | plain {before : Option Char} {offset : Nat} {run after : List Char} {tokens : List Token} (some : run ≠ [])
      (unmatched : Unmatched rules after before run)
      (ended : after ≠ [] → firstHit? (run.getLast?.or before) after 0 rules ≠ none)
      (later : Cuts rules (run.getLast?.or before) (offset + byteLength run) after tokens) :
      Cuts rules before offset (run ++ after) (.ofChars .plainText offset run :: tokens)

section
variable {rules : List Rule} {before : Option Char} {offset : Nat} {cs run after : List Char}
  {tokens : List Token}

theorem getLast?_cons_or (c : Char) (cs : List Char) (before : Option Char) :
    (c :: cs).getLast?.or before = cs.getLast?.or (some c) := by
  rw [List.getLast?_cons]
  cases cs.getLast? <;> rfl

theorem Unmatched.snoc {c : Char} {rest : List Char} (unmatched : Unmatched rules (c :: rest) before run)
    (here : firstHit? (run.getLast?.or before) (c :: rest) 0 rules = none) :
    Unmatched rules rest before (run ++ [c]) := by
  induction unmatched with
  | nil before => exact .cons here (.nil _)
  | @cons before d run first later ih =>
    rw [getLast?_cons_or] at here
    refine .cons ?_ (ih here)
    rw [List.append_eq, List.append_assoc]
    exact first

theorem Unmatched.none_here (unmatched : Unmatched rules after before run) (some : run ≠ []) :
    firstHit? before (run ++ after) 0 rules = none := by
  cases unmatched with
  | nil => contradiction
  | cons here later => exact here

/-- Behind a part of an unmatched run there is no match, unless it is all of the run. -/
theorem Unmatched.none_of_append {more : List Char} (unmatched : Unmatched rules after before (run ++ more))
    (some : more ≠ []) : firstHit? (run.getLast?.or before) (more ++ after) 0 rules = none := by
  induction run generalizing before with
  | nil => exact unmatched.none_here some
  | cons c run ih =>
    cases unmatched with
    | cons here later =>
      rw [getLast?_cons_or]
      exact ih later

/-! ### Scans cut their sources -/

theorem Cuts.pending (unmatched : Unmatched rules after before run)
    (ended : after ≠ [] → firstHit? (run.getLast?.or before) after 0 rules ≠ none)
    (later : Cuts rules (run.getLast?.or before) (offset + byteLength run) after tokens) :
    Cuts rules before offset (run ++ after) (Scan.pendingTokens offset run ++ tokens) := by
  by_cases none : run = []
  · subst none
    exact later
  · rw [Scan.pendingTokens, if_neg none]
    exact .plain none unmatched ended later

theorem Cuts.of_hit {rest : List Char} {hit : Hit} (found : firstHit? before rest 0 rules = some hit)
    (some : 0 < hit.length)
    (later : Cuts rules ((rest.take hit.length).getLast?.or before)
      (offset + byteLength (rest.take hit.length)) (rest.drop hit.length) tokens) :
    Cuts rules before offset rest
      (.ofChars (hit.rule.action.resolve (String.ofList (rest.take hit.length))) offset
        (rest.take hit.length) :: tokens) := by
  have split : rest = rest.take hit.length ++ rest.drop hit.length := (List.take_append_drop ..).symm
  have length : (rest.take hit.length).length = hit.length :=
    List.length_take_of_le (length_le_of_firstHit? found)
  have full : rest.take hit.length ≠ [] := List.length_pos_iff.mp (by omega)
  rw [split] at found
  have cuts := Cuts.hit found length full later
  rwa [← split] at cuts

/-- The tokens that a scan finds from `s` up to `last` cut what is left of its source, the unmatched characters
    before `s` included. -/
def CutsFrom (rules : List Rule) (matched pending : List Char) (s last : Scan) : Prop :=
  ∃ later, last.flushed.reverse = s.tokens.reverse ++ later ∧
    Cuts rules matched.getLast? (byteLength matched) (pending ++ s.rest) later

section
variable {language : Language} {src matched pending : List Char} {s last : Scan}

theorem rules_current (stacked : s.stack = [0]) : ((single language rules).current s).rules = rules := by
  simp [current, stacked, stateAt, single]

theorem cutsFrom_of_ended (here : s.At src matched pending)
    (unmatched : Unmatched rules s.rest matched.getLast? pending) (ended : s.rest = []) :
    CutsFrom rules matched pending s s := by
  refine ⟨_, Scan.flushed_reverse here, ?_⟩
  rw [ended] at unmatched ⊢
  have cuts : Cuts rules matched.getLast? (byteLength matched) (pending ++ []) _ :=
    Cuts.pending unmatched (absurd rfl) (.nil _ _)
  rwa [List.append_nil (Scan.pendingTokens ..)] at cuts

theorem cutsFrom_of_skip {c : Char} {rest : List Char} (left : s.rest = c :: rest)
    (next : CutsFrom rules matched (pending ++ [c]) (s.skip c rest) last) :
    CutsFrom rules matched pending s last := by
  obtain ⟨later, found, cuts⟩ := next
  refine ⟨later, found, ?_⟩
  rw [left]
  rwa [List.append_assoc] at cuts

theorem cutsFrom_of_hit {hit : Hit} (here : s.At src matched pending)
    (unmatched : Unmatched rules s.rest matched.getLast? pending)
    (found : firstHit? s.before s.rest 0 rules = some hit) (some : 0 < hit.length)
    (next : CutsFrom rules (matched ++ pending ++ s.rest.take hit.length) [] ((single language rules).accept s hit)
      last) : CutsFrom rules matched pending s last := by
  obtain ⟨later, tokens, cuts⟩ := next
  have front : pending.getLast?.or matched.getLast? = s.before := by rw [here.before, List.getLast?_append]
  have place : byteLength matched + byteLength pending = s.offset := by rw [here.offset, byteLength_append]
  rw [List.getLast?_append, byteLength_append, ← here.before, ← here.offset] at cuts
  have behind := Cuts.of_hit found some cuts
  refine ⟨_, ?_, Cuts.pending unmatched ?_ (front ▸ place ▸ behind)⟩
  · rw [tokens, accept, List.reverse_cons, Scan.flushed_reverse here, List.append_assoc, List.append_assoc, place]
    rfl
  · rw [front, found]
    simp

end

theorem cutsFrom_of_run {language : Language} (still : ∀ r ∈ rules, r.transition = none) {src : List Char}
    {last : Scan} (fuel : Nat) : ∀ {s : Scan} {matched pending : List Char}, s.At src matched pending →
      s.stack = [0] → Unmatched rules s.rest matched.getLast? pending → s.rest.length ≤ fuel →
      (single language rules).run fuel s = .ok last → CutsFrom rules matched pending s last := by
  -- The invariant is that no rule has matched in the pending run, with all that is left of the source behind it.
  induction fuel with
  | zero =>
    intro s matched pending here _ unmatched enough ran
    rw [← Except.ok.inj ran]
    exact cutsFrom_of_ended here unmatched (List.length_eq_zero_iff.mp (Nat.le_zero.mp enough))
  | succ fuel ih =>
    intro s matched pending here stacked unmatched enough ran
    have listed : ((single language rules).current s).rules = rules := rules_current stacked
    cases stepped : (single language rules).step s with
    | error e => rw [run_of_error stepped] at ran; contradiction
    | ok next =>
      rw [run_of_step stepped] at ran
      rcases step_cases stepped with ⟨ended, rfl⟩ | ⟨c, rest, left, noHit, rfl⟩ | ⟨hit, found, some, rfl⟩
      · rw [run_of_ended ended] at ran
        rw [← Except.ok.inj ran]
        exact cutsFrom_of_ended here unmatched ended
      · rw [listed, here.before, List.getLast?_append, left] at noHit
        rw [left] at unmatched enough
        have place := Scan.at_skip here left
        exact cutsFrom_of_skip left
          (ih place stacked (unmatched.snoc noHit) (Nat.le_of_succ_le_succ enough) ran)
      · rw [listed] at found
        have member := (firstHit?_mem rules 0 found).1
        have kept : ((single language rules).accept s hit).stack = [0] := by
          simp only [accept, move, still hit.rule member, stacked]
        have fewer : ((single language rules).accept s hit).rest.length ≤ fuel := by
          simp only [accept, List.length_drop]
          omega
        exact cutsFrom_of_hit here unmatched found some (ih (at_accept here hit) kept (.nil _) fewer ran)

/-- The tokens of a source are what the rules cut it into. -/
theorem cuts_of_lex {language : Language} (still : ∀ r ∈ rules, r.transition = none) {src : String}
    (lexed : (single language rules).lex src = .ok tokens) : Cuts rules none 0 src.toList tokens := by
  rw [lex] at lexed
  cases ran : (single language rules).run src.toList.length (.start 0 src.toList) with
  | error e => rw [show (single language rules).root = 0 from rfl, ran] at lexed; contradiction
  | ok last =>
    rw [show (single language rules).root = 0 from rfl, ran] at lexed
    have started := Scan.at_start 0 src.toList
    obtain ⟨later, found, cuts⟩ := cutsFrom_of_run still _ started rfl (.nil _) (Nat.le_refl _) ran
    have same : last.flushed.reverse = tokens := Except.ok.inj lexed
    rw [← same, found]
    exact cuts

/-! ### There is one way to cut a text -/

theorem Cuts.tokens_of_nil (cuts : Cuts rules before offset cs tokens) (none : cs = []) : tokens = [] := by
  cases cuts with
  | nil => rfl
  | hit found length some later => exact absurd (List.append_eq_nil_iff.mp none).1 some
  | plain some unmatched ended later => exact absurd (List.append_eq_nil_iff.mp none).1 some

/-- A run that ends at a match or at the end of the text is no shorter than another unmatched run. -/
theorem Unmatched.length_le {run' after' : List Char} (unmatched : Unmatched rules after' before run')
    (same : run ++ after = run' ++ after')
    (ended : after ≠ [] → firstHit? (run.getLast?.or before) after 0 rules ≠ none) : run'.length ≤ run.length := by
  by_contra shorter
  obtain ⟨more, whole, left⟩ | ⟨more, whole, left⟩ := List.append_eq_append_iff.mp same
  · have some : more ≠ [] := by
      intro none
      rw [none, List.append_nil] at whole
      exact shorter (Nat.le_of_eq (congrArg List.length whole))
    rw [whole] at unmatched
    have missing := unmatched.none_of_append some
    rw [← left] at missing
    exact ended (by simp [left, some]) missing
  · rw [whole, List.length_append] at shorter
    omega

theorem Cuts.unique {tokens' : List Token} (cuts : Cuts rules before offset cs tokens)
    (other : Cuts rules before offset cs tokens') : tokens = tokens' := by
  induction cuts generalizing tokens' with
  | nil => exact (other.tokens_of_nil rfl).symm
  | @hit before offset text after tokens hit found length some later ih =>
    generalize whole : text ++ after = cs at other
    cases other with
    | nil => exact absurd (List.append_eq_nil_iff.mp whole).1 some
    | @hit _ _ text' after' tokens' hit' found' length' some' later' =>
      rw [whole, found'] at found
      have equal := Option.some.inj found
      have lengths : text.length = text'.length := by rw [length, length', equal]
      obtain ⟨rfl, rfl⟩ := List.append_inj whole lengths
      rw [equal, ih later']
    | @plain _ _ run' after' tokens' some' unmatched ended later' =>
      -- No rule matches where a run begins.
      rw [whole, unmatched.none_here some'] at found
      contradiction
  | @plain before offset run after tokens some unmatched ended later ih =>
    generalize whole : run ++ after = cs at other
    cases other with
    | nil => exact absurd (List.append_eq_nil_iff.mp whole).1 some
    | @hit _ _ text' after' tokens' hit' found' length' some' later' =>
      rw [← whole, unmatched.none_here some] at found'
      contradiction
    | @plain _ _ run' after' tokens' some' unmatched' ended' later' =>
      -- Each run ends where a rule matches, so the other one does not go on beyond it.
      have longer := unmatched.length_le whole.symm ended'
      have shorter := unmatched'.length_le whole ended
      obtain ⟨rfl, rfl⟩ := List.append_inj whole (Nat.le_antisymm longer shorter)
      rw [ih later']

theorem Cuts.lex {language : Language} (still : ∀ r ∈ rules, r.transition = none)
    (productive : (single language rules).Productive) {src : String} (cuts : Cuts rules none 0 src.toList tokens) :
    (single language rules).lex src = .ok tokens := by
  obtain ⟨found, lexed⟩ := lex_total productive src
  rw [lexed, cuts.unique (cuts_of_lex still lexed)]

/-! ### Runs of plain text are whole -/

theorem Cuts.head_ne_plainText (coloured : ∀ r ∈ rules, ∀ text, r.action.resolve text ≠ .plainText)
    (matched : firstHit? before cs 0 rules ≠ none) (cuts : Cuts rules before offset cs tokens) :
    ∀ t ∈ tokens.head?, t.category ≠ .plainText := by
  cases cuts with
  | nil => simp
  | hit found length some later =>
    rintro t ⟨rfl⟩
    exact coloured _ (firstHit?_mem rules 0 found).1 _
  | plain some unmatched ended later =>
    exact absurd (unmatched.none_here some) matched

/-- If no rule makes plain text, no two tokens of plain text stand side by side. -/
theorem Cuts.plainApart (coloured : ∀ r ∈ rules, ∀ text, r.action.resolve text ≠ .plainText)
    (cuts : Cuts rules before offset cs tokens) : PlainApart tokens := by
  induction cuts with
  | nil => exact .nil
  | hit found length some later ih =>
    refine List.isChain_cons.mpr ⟨fun next _ plain => ?_, ih⟩
    exact absurd plain (coloured _ (firstHit?_mem rules 0 found).1 _)
  | @plain before offset run after tokens some unmatched ended later ih =>
    refine List.isChain_cons.mpr ⟨fun next listed _ => ?_, ih⟩
    by_cases none : after = []
    · rw [later.tokens_of_nil none] at listed
      contradiction
    · exact later.head_ne_plainText coloured (ended none) next listed

end

end Lexer

end Highlighter
