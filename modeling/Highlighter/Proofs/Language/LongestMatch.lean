import Highlighter.Proofs.Lexer.Cuts
import Highlighter.Proofs.Pattern.Overlap
import Highlighter.Proofs.Registry
import Mathlib.Data.List.MinMax
import Mathlib.Data.List.Perm.Basic

/-!
First match and longest match. If each pattern prevails over all later ones, the first rule that matches at a
place has the strictly longest match there (`firstIsLongest_of_prevails`). A scanner that takes the longest match
then finds the tokens that the lexer finds, in whatever order its rules are declared (`lexBy_eq_lex`).

Where the order of the rules is that of the length of their matches. In Catspeak the first rule that matches has
the longest match, and so it has in KatScript without the rule for other radices, and in the GameMaker Language
without the rule for words. Which patterns prevail is computed for most pairs; the numbers and the annotations,
which begin alike, have theorems of their own.
-/

namespace Highlighter

/-! ## Rules of which the longest match is the first -/

namespace Lexer

/-- Of the rules that match at a place the first has the strictly longest match. -/
def FirstIsLongest (rules : List Rule) : Prop :=
  ∀ src place first others, hitsAt rules src place = first :: others → ∀ hit ∈ others, hit.length < first.length

/-- Of some matches a longest one is taken, if there are any. -/
structure TakesLongest (choose : List Hit → Option Hit) : Prop where
  takes : ∀ hits, choose hits = none → hits = []
  listed : ∀ hits hit, choose hits = some hit → hit ∈ hits
  longest : ∀ hits hit, choose hits = some hit → ∀ other ∈ hits, other.length ≤ hit.length

theorem takesLongest_argmax : TakesLongest (List.argmax Hit.length) where
  takes _ none := List.argmax_eq_none.mp none
  listed _ _ found := List.argmax_mem found
  longest _ _ found _ member := List.le_of_mem_argmax member found

/-- The tokens that a scanner finds if `choose` says which of the rules that match is taken. -/
def lexBy (l : Lexer) (choose : List Hit → Option Hit) (src : String) : Except LexError (List Token) :=
  (l.replay choose src.toList Stack.initial 0).map (gather src.toList)

/-- If each pattern prevails over all later ones, the first rule that matches has the longest match. -/
theorem firstIsLongest_of_prevails {rules : List Rule}
    (ranked : (rules.map (·.pattern)).Pairwise Pattern.Prevails) : FirstIsLongest rules := by
  intro src place first others found
  have shorter : ((hitsAt rules src place).map Hit.taken).Pairwise fun a b => b.2 < a.2 := by
    rw [map_taken_hitsAt]
    refine (List.pairwise_map.mp ranked).filterMap _ ?_
    intro r q prevails a matched b other
    obtain ⟨n, found, rfl⟩ := Option.map_eq_some_iff.mp matched
    obtain ⟨k, found', rfl⟩ := Option.map_eq_some_iff.mp other
    exact prevails _ _ n k found found'
  rw [found, List.pairwise_map] at shorter
  exact (List.pairwise_cons.mp shorter).1

/-- Among the same rules in another order the longest match is that of the first rule. -/
theorem taken_of_longest {rules others : List Rule} (longest : FirstIsLongest rules) (swap : others.Perm rules)
    {choose : List Hit → Option Hit} (takes : TakesLongest choose) (src : List Char) (place : Nat) :
    (choose (hitsAt others src place)).map Hit.taken = (hitsAt rules src place).head?.map Hit.taken := by
  have same : ((hitsAt others src place).map Hit.taken).Perm ((hitsAt rules src place).map Hit.taken) := by
    rw [map_taken_hitsAt, map_taken_hitsAt]
    exact swap.filterMap _
  cases found : hitsAt rules src place with
  | nil =>
    rw [found, List.map_nil, List.perm_nil, List.map_eq_nil_iff] at same
    cases chosen : choose (hitsAt others src place) with
    | none => rfl
    | some hit =>
      have member := takes.listed _ hit chosen
      rw [same] at member
      contradiction
  | cons first later =>
    rw [found] at same
    obtain ⟨hit, listed, equal⟩ := List.mem_map.mp (same.mem_iff.mpr (List.mem_map_of_mem List.mem_cons_self))
    cases chosen : choose (hitsAt others src place) with
    | none =>
      rw [takes.takes _ chosen] at listed
      contradiction
    | some best =>
      have most := takes.longest _ best chosen hit listed
      obtain ⟨other, member, agrees⟩ :=
        List.mem_map.mp (same.mem_iff.mp (List.mem_map_of_mem (takes.listed _ best chosen)))
      rcases List.mem_cons.mp member with rfl | later
      · exact congrArg some agrees.symm
      · have shorter := longest src place first _ found other later
        have lengths : hit.length = first.length := congrArg Prod.snd equal
        have lengths' : other.length = best.length := congrArg Prod.snd agrees
        omega

/-- Two lexers meet the same events in a source if they take the same matches everywhere, none of them empty. -/
theorem replay_congr {l l' : Lexer} {choose choose' : List Hit → Option Hit} {src : List Char}
    (agree : ∀ name place, (choose (hitsAt (l.rulesOf name) src place)).map Hit.taken =
      (choose' (hitsAt (l'.rulesOf name) src place)).map Hit.taken)
    (full : ∀ name place hit, choose (hitsAt (l.rulesOf name) src place) = some hit → 0 < hit.length)
    (stack : Stack) (place : Nat) : l.replay choose src stack place = l'.replay choose' src stack place := by
  induction stack, place using replay.induct l choose src with
  | case1 stack place ended => rw [replay_of_ended ended, replay_of_ended ended]
  | case2 stack place more noHit ih =>
    have same := agree stack.top place
    rw [noHit, Option.map_none, eq_comm, Option.map_eq_none_iff] at same
    rw [replay_of_none more noHit, replay_of_none more same, ih]
  | case3 stack place more hit found stalled =>
    have some := full stack.top place hit found
    omega
  | case4 stack place more hit found some ih =>
    have same := agree stack.top place
    rw [found, Option.map_some, eq_comm, Option.map_eq_some_iff] at same
    obtain ⟨hit', found', equal⟩ := same
    obtain ⟨rule, length⟩ := Prod.mk.inj equal
    rw [replay_of_some more found, replay_of_some more found', rule, length, if_neg some, if_neg some, ih]

section
variable {language : Language} {rules others : List Rule}

/-- A scanner that takes the longest match finds what the lexer finds, in whatever order its rules stand. -/
theorem lexBy_eq_lex (still : ∀ r ∈ rules, r.transition = none) (productive : (single language rules).Productive)
    (longest : FirstIsLongest rules) (swap : others.Perm rules) {choose : List Hit → Option Hit}
    (takes : TakesLongest choose) (src : String) :
    (single language others).lexBy choose src = (single language rules).lex src := by
  rw [lex_eq_replay (wellFormed_single still), lexBy]
  have taken (name : String) (place : Nat) :
      (choose (hitsAt ((single language others).rulesOf name) src.toList place)).map Hit.taken =
        (hitsAt ((single language rules).rulesOf name) src.toList place).head?.map Hit.taken := by
    rw [rulesOf_single, rulesOf_single]
    by_cases root : name = Table.rootName
    · rw [if_pos root, if_pos root]
      exact taken_of_longest longest swap takes src.toList place
    · have nothing : FirstIsLongest [] := by simp [FirstIsLongest, hitsAt]
      rw [if_neg root, if_neg root]
      exact taken_of_longest nothing .nil takes src.toList place
  refine congrArg (Except.map _) (replay_congr taken ?_ _ _)
  intro name place hit found
  obtain ⟨declared, matched⟩ := mem_hitsAt (takes.listed _ hit found)
  rw [rulesOf_single] at declared
  by_cases root : name = Table.rootName
  · rw [if_pos root] at declared
    exact productive _ List.mem_cons_self hit.rule (swap.mem_iff.mp declared) _ _ _ matched
  · rw [if_neg root] at declared
    contradiction

end

end Lexer

namespace Table

/-- First match is longest match: the table makes a lexer, of the rules that match at a place the first has the
    strictly longest match, and a scanner that takes the longest match finds the tokens that the lexer finds,
    in whatever order the rules are declared. -/
def FirstMatchIsLongest (t : Table) : Prop :=
  ∃ l rules, t.build = .ok l ∧ t.states = [⟨rootName, rules⟩] ∧ Lexer.FirstIsLongest (l.rulesOf rootName) ∧
    ∀ others : List Table.Rule, others.Perm rules →
      ∃ l', (single t.language others).build = .ok l' ∧
        ∀ choose, Lexer.TakesLongest choose → ∀ src, l'.lexBy choose src = l.lex src

theorem firstMatchIsLongest {language : Language} {rules : List Table.Rule}
    (sound : (single language rules).sound = true) (still : ∀ r ∈ rules, r.transition = none)
    (ranked : (patternsOf rules).Pairwise Pattern.Prevails) : (single language rules).FirstMatchIsLongest := by
  obtain ⟨read, built, productive, related⟩ := build_single_total sound
  have longest : Lexer.FirstIsLongest read := by
    rw [← patternsOf_of_readAs related] at ranked
    exact Lexer.firstIsLongest_of_prevails ranked
  refine ⟨.single language read, rules, built, rfl, ?_, ?_⟩
  · rw [Lexer.rulesOf_single, if_pos rfl]
    exact longest
  · intro others swap
    obtain ⟨read', related', swap'⟩ := List.perm_comp_forall₂ swap related
    refine ⟨.single language read', build_single_iff.mpr ⟨read', rfl, related'⟩, ?_⟩
    intro choose takes src
    exact Lexer.lexBy_eq_lex (still_of_readAs related still) productive longest swap' takes src

end Table

/-! ## The languages -/

open Pattern

/-- A run of decimal digits. -/
def digits : Pattern := oneOrMore .more (set (.property .decimalDigit))

/-- A run of digits and a point. -/
def digitsPoint : Pattern := seq digits (char '.')

/-- A number with digits on both sides of the point. -/
def decimal : Pattern := seq digitsPoint digits

theorem decimal_prevails : Prevails decimal digits := prevails_run_mark_more (by decide)

theorem decimal_prevails_point : Prevails decimal digitsPoint :=
  prevails_mark_more (by decide) (by decide)

theorem digitsPoint_prevails : Prevails digitsPoint digits := prevails_run_mark (by decide)

/-- The letters, digits and underscores of ASCII, of which words are made. -/
def wordChars : CharSet :=
  .union (.union (.union (.range 'A' 'Z') (.range 'a' 'z')) (.range '0' '9')) (.single '_')

theorem Catspeak.ranked_rules : (Table.patternsOf rules).Pairwise Prevails := by
  refine pairwise_prevails [(decimal, digits)] ?_ (by decide +kernel)
  simpa using decimal_prevails

namespace KatScript

/-- The rules without that for integers of another radix. -/
def rulesWithoutRadix : List Table.Rule := rules.filter (·.pattern != "\\d+r\\d+")

/-- The table without the rule for integers of another radix. -/
def tableWithoutRadix : Table := ⟨language, [⟨Table.rootName, rulesWithoutRadix⟩]⟩

/-- The operators that can be annotated. -/
def signs : CharSet := "/\\!~&+%|^<>=?-".toList.foldl (fun set c => .union set (.single c)) (.single '*')

/-- A colon and some spaces. -/
def colon : Pattern := seq (char ':') (star .more (set (.property .whiteSpace)))

/-- The annotation of a word. -/
def annotatedWord : Pattern := seq colon (oneOrMore .more (set wordChars))

/-- The annotation of an operator, or of nothing. -/
def annotatedSigns : Pattern := seq colon (star .more (set signs))

theorem annotatedWord_prevails : Prevails annotatedWord annotatedSigns :=
  prevails_word (by decide) (by decide) (by decide)

theorem ranked_rules : (Table.patternsOf rulesWithoutRadix).Pairwise Prevails := by
  refine pairwise_prevails [(decimal, digits), (annotatedWord, annotatedSigns)] ?_ (by decide +kernel)
  simpa using ⟨decimal_prevails, annotatedWord_prevails⟩

end KatScript

namespace Gml

/-- The rules before that for words, which do not depend on the listed names. -/
def fixedRules : List Table.Rule := (rules (.standard .empty)).dropLast

theorem rules_eq (k : Classifier) : rules k = fixedRules ++ [.classified "[A-Za-z0-9_]+" k.classify] := rfl

theorem ranked_rules : (Table.patternsOf fixedRules).Pairwise Prevails := by
  refine pairwise_prevails [(decimal, digitsPoint), (decimal, digits), (digitsPoint, digits)] ?_
    (by decide +kernel)
  simpa using ⟨decimal_prevails_point, decimal_prevails, digitsPoint_prevails⟩

/-- The letters and the underscore of ASCII. -/
def letters : CharSet := .union (.union (.range 'A' 'Z') (.range 'a' 'z')) (.single '_')

theorem isDigit_of_wordChars {c : Char} (member : wordChars.contains c = true)
    (noLetter : letters.contains c = false) : c.isDigit = true := by
  have digit : (CharSet.range '0' '9').contains c = true := by
    simp only [letters, CharSet.contains_union, Bool.or_eq_false_iff] at noLetter
    simp only [wordChars, CharSet.contains_union, noLetter, Bool.false_or, Bool.or_false] at member
    exact member
  simp only [CharSet.contains, Bool.and_eq_true, decide_eq_true_eq] at digit
  simp only [Char.isDigit, Bool.and_eq_true, decide_eq_true_eq]
  exact digit

/-- No rule before that for words matches where a letter or an underscore stands. -/
theorem separate_letters : ∀ p ∈ Table.patternsOf fixedRules, p.separate (set letters) = true := by decide +kernel

theorem parse_words : Pattern.parse? "[A-Za-z0-9_]+" = some (oneOrMore .more (set wordChars)) := by decide

/-- A word and a match of another rule can begin at one place only if an ASCII digit stands there. -/
theorem digit_of_overlap {p : Pattern} (listed : p ∈ Table.patternsOf fixedRules) {s e f : Spot}
    (found : p.Matches s e) (word : (oneOrMore .more (set wordChars)).Matches s f) :
    ∃ c, s.rest[0]? = some c ∧ c.isDigit = true := by
  obtain ⟨c, here, member⟩ := word.leads.1 0 wordChars rfl
  refine ⟨c, here, isDigit_of_wordChars member (Bool.eq_false_iff.mpr fun letter => ?_)⟩
  cases left : s.rest with
  | nil => rw [left] at here; simp at here
  | cons d rest =>
    rw [left, List.getElem?_cons_zero, Option.some.injEq] at here
    exact not_matches_of_separate (separate_letters p listed) found (.set left (here ▸ letter))

/-- First match is longest match among the rules before the last, which is that for words; it and another rule
    match at one place only if an ASCII digit stands there. -/
def FirstMatchIsLongestButWords (t : Table) : Prop :=
  ∃ l others words, t.build = .ok l ∧ l.rulesOf Table.rootName = others ++ [words] ∧
    words.text = "[A-Za-z0-9_]+" ∧ Lexer.FirstIsLongest others ∧
    ∀ r ∈ others, ∀ src place n k, r.matchAt? src place = some n → words.matchAt? src place = some k →
      ∃ c, src[place]? = some c ∧ c.isDigit = true

theorem firstMatchIsLongest {language : Language} {k : Classifier}
    (sound : (Table.single language (rules k)).sound = true) :
    FirstMatchIsLongestButWords (.single language (rules k)) := by
  obtain ⟨read, built, _, related⟩ := Table.build_single_total sound
  rw [rules_eq] at related
  obtain ⟨others, words, rfl, relatedOthers, last⟩ := exists_of_append_singleton related
  have patterns := Table.patternsOf_of_readAs relatedOthers
  have pattern : words.pattern = oneOrMore .more (set wordChars) :=
    Option.some.inj (last.pattern.symm.trans parse_words)
  refine ⟨_, others, words, built, ?_, last.text, ?_, ?_⟩
  · rw [Lexer.rulesOf_single, if_pos rfl]
  · refine Lexer.firstIsLongest_of_prevails ?_
    rw [patterns]
    exact ranked_rules
  · intro r member src place n k found word
    have listed : r.pattern ∈ Table.patternsOf fixedRules := patterns ▸ List.mem_map_of_mem member
    rw [Lexer.Rule.matchAt?, pattern] at word
    obtain ⟨c, here, digit⟩ :=
      digit_of_overlap listed (matches_of_matchLength? found) (matches_of_matchLength? word)
    rw [List.getElem?_drop, Nat.add_zero] at here
    exact ⟨c, here, digit⟩

end Gml

/-- In Catspeak, and in KatScript without the rule for other radices, first match is longest match; in the
    GameMaker Language and its extension it is so but for the rule for words. -/
theorem firstMatch_eq_longestMatch : Catspeak.table.FirstMatchIsLongest ∧
    KatScript.tableWithoutRadix.FirstMatchIsLongest ∧
    ∀ listing, Gml.FirstMatchIsLongestButWords (Gml.table listing) ∧
      Gml.FirstMatchIsLongestButWords (Gml.extendedTable listing) := by
  refine ⟨?_, ?_, fun listing => ⟨?_, ?_⟩⟩
  · have listed : Catspeak.table ∈ Registry.tables .empty := by simp [Registry.tables]
    exact Table.firstMatchIsLongest (Registry.sound_of_mem_tables listed) (by decide) Catspeak.ranked_rules
  · have listed : KatScript.table ∈ Registry.tables .empty := by simp [Registry.tables]
    have fewer : KatScript.rulesWithoutRadix ⊆ KatScript.rules := List.filter_subset_self _
    have sound := Table.sound_of_subset (Registry.sound_of_mem_tables listed) fewer
    exact Table.firstMatchIsLongest sound (by decide) KatScript.ranked_rules
  · have listed : Gml.table listing ∈ Registry.tables listing := by simp [Registry.tables]
    exact Gml.firstMatchIsLongest (Registry.sound_of_mem_tables listed)
  · have listed : Gml.extendedTable listing ∈ Registry.tables listing := by simp [Registry.tables]
    exact Gml.firstMatchIsLongest (Registry.sound_of_mem_tables listed)

/-- With the rules of Catspeak in reverse order, the longest match still finds the tokens of the lexer. -/
theorem longestMatch_reversed : ∃ l l', Catspeak.table.build = .ok l ∧
    (Table.single Catspeak.language Catspeak.rules.reverse).build = .ok l' ∧
    (∀ src, l'.lexBy (List.argmax Lexer.Hit.length) src = l.lex src) ∧
    l'.lexBy (List.argmax Lexer.Hit.length) "a--1.5" =
      .ok [⟨.nameVariable, "a", 0, 1⟩, ⟨.commentLine, "--1.5", 1, 6⟩] := by
  obtain ⟨⟨l, rules, built, states, _, anyOrder⟩, _⟩ := firstMatch_eq_longestMatch
  have same : Catspeak.rules = rules := congrArg Table.State.rules (List.cons.inj states).1
  obtain ⟨l', built', agree⟩ := anyOrder Catspeak.rules.reverse (same ▸ List.reverse_perm _)
  have lexed : Catspeak.table.build.toOption.map (·.lex "a--1.5") =
      some (.ok [⟨.nameVariable, "a", 0, 1⟩, ⟨.commentLine, "--1.5", 1, 6⟩]) := by decide +kernel
  rw [built] at lexed
  have longest := agree _ Lexer.takesLongest_argmax
  exact ⟨l, l', built, built', longest, (longest _).trans (Option.some.inj lexed)⟩

end Highlighter
