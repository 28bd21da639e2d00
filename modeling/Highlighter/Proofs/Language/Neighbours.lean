import Highlighter.Proofs.Lexer.Cuts
import Highlighter.Proofs.Lexer.Parts
import Highlighter.Proofs.Registry

/-!
Plain text in the tokens of the registered languages. No rule of theirs makes it, so it stands only where no rule
matches, and all of a run of such characters is one token (`plainApart_of_lex`).

Tokens of the registered languages and the text around them. No pattern but those of Cosy looks at more than the
characters that it uses, and those of Cosy look at word boundaries only. So a scan can start over at any token,
in Cosy at those that no word character stands before (`lex_restart`), and outside of Cosy every token is what it
is on its own (`lex_token_alone`).

Lines of the GameMaker Language. Only comments and strings of two opening characters go on over a line feed, besides
white space (`lineBound_rules`). So in a text where none of these opens, and which does not end in white space, no match
reaches a line feed behind it (`reach_lineFeed`), and the lines behind it are lexed as if they stood alone
(`lex_line_break`).

Runs of white space and of plain text. What holds of every token, with what stands before and behind it, says how two
tokens side by side are related (`isChain`). A token of white space ends where the white space does, whatever the
language, as no rules but that for white space make such tokens (`endsSpace`); so no other follows it, and neither does
one token of plain text follow another (`runs_of_listing`).
-/

namespace Highlighter

/-! ## Runs of plain text -/

namespace Table.Rule

/-- A rule that makes plain text of nothing. -/
def Coloured (r : Table.Rule) : Prop := ∀ text, r.action.resolve text ≠ .plainText

@[simp] theorem coloured_token (pattern : String) (category : Category) :
    (token pattern category).Coloured ↔ category ≠ .plainText := by
  simp [Coloured, token, Action.resolve]

@[simp] theorem coloured_classified (pattern : String) (f : String → Category) :
    (classified pattern f).Coloured ↔ ∀ text, f text ≠ .plainText := Iff.rfl

@[simp] theorem transition_token (pattern : String) (category : Category) :
    (token pattern category).transition = none := rfl

@[simp] theorem transition_classified (pattern : String) (f : String → Category) :
    (classified pattern f).transition = none := rfl

end Table.Rule

namespace Gml

/-- The categories of words. -/
def wordCategories : List Category :=
  [.nameBuiltin, .keyword, .keywordConstant, .genericDeleted, .nameVariableMagic, .keywordType, .nameVariable]

theorem classify_mem (k : Classifier) (word : String) : k.classify word ∈ wordCategories := by
  unfold Classifier.classify
  split_ifs <;> decide

theorem classify_ne {category : Category} (other : category ∉ wordCategories) (k : Classifier) (word : String) :
    k.classify word ≠ category := by
  rintro rfl
  exact other (classify_mem k word)

variable (k : Classifier)

theorem classify_ne_plainText (word : String) : k.classify word ≠ .plainText := classify_ne (by decide) k word

theorem coloured_rules : ∀ r ∈ rules k, r.Coloured := by simp [rules, classify_ne_plainText]

theorem still_rules : ∀ r ∈ rules k, r.transition = none := by simp [rules]

end Gml

namespace Catspeak

/-- The categories of words. -/
def wordCategories : List Category := [.keyword, .keywordConstant, .nameBuiltin, .nameVariable]

theorem classify_mem (word : String) : classify word ∈ wordCategories := by
  unfold classify
  split_ifs <;> decide

theorem classify_ne {category : Category} (other : category ∉ wordCategories) (word : String) :
    classify word ≠ category := by
  rintro rfl
  exact other (classify_mem word)

theorem classify_ne_plainText (word : String) : classify word ≠ .plainText := classify_ne (by decide) word

end Catspeak

namespace KatScript

/-- The categories of words. -/
def wordCategories : List Category := [.keyword, .keywordConstant, .keywordType, .nameVariable]

theorem classify_mem (word : String) : classify word ∈ wordCategories := by
  unfold classify
  split_ifs <;> decide

theorem classify_ne {category : Category} (other : category ∉ wordCategories) (word : String) :
    classify word ≠ category := by
  rintro rfl
  exact other (classify_mem word)

theorem classify_ne_plainText (word : String) : classify word ≠ .plainText := classify_ne (by decide) word

end KatScript

namespace Registry

/-- Every language has one state, no rule leaves it, and no rule makes plain text. -/
theorem exists_single_of_mem {listing : Listing} {t : Table} (member : t ∈ Plain.table :: tables listing) :
    ∃ language rules, t = .single language rules ∧ (∀ r ∈ rules, r.transition = none) ∧
      ∀ r ∈ rules, r.Coloured := by
  simp only [tables, List.mem_cons, List.not_mem_nil, or_false] at member
  rcases member with rfl | rfl | rfl | rfl | rfl | rfl
  · exact ⟨Plain.language, [], rfl, by simp, by simp⟩
  · exact ⟨Cosy.language, Cosy.rules, rfl, by simp [Cosy.rules], by simp [Cosy.rules]⟩
  · exact ⟨Gml.language, _, rfl, Gml.still_rules _, Gml.coloured_rules _⟩
  · exact ⟨Gml.extendedLanguage, _, rfl, Gml.still_rules _, Gml.coloured_rules _⟩
  · exact ⟨Catspeak.language, Catspeak.rules, rfl, by simp [Catspeak.rules],
      by simp [Catspeak.rules, Catspeak.classify_ne_plainText]⟩
  · exact ⟨KatScript.language, KatScript.rules, rfl, by simp [KatScript.rules],
      by simp [KatScript.rules, KatScript.classify_ne_plainText]⟩

theorem still_coloured_of_tableFor {listing : Listing} {name : String} {language : Language} {rules : List Table.Rule}
    (table : tableFor listing name = .single language rules) :
    (∀ r ∈ rules, r.transition = none) ∧ ∀ r ∈ rules, r.Coloured := by
  obtain ⟨language', rules', single, still, coloured⟩ := exists_single_of_mem (tableFor_mem listing name)
  have states := congrArg Table.states (table.symm.trans single)
  obtain rfl : rules = rules' := congrArg Table.State.rules (List.cons.inj states).1
  exact ⟨still, coloured⟩

/-- No registered language splits a run of plain text. -/
theorem plainApart_of_lex {listing : Listing} {r : Registry} (built : ofListing listing = .ok r) {name src : String}
    {tokens : List Token} (lexed : r.lex name src = .ok tokens) : PlainApart tokens := by
  obtain ⟨language, rules, single, still, coloured⟩ := exists_single_of_mem (tableFor_mem listing name)
  have made := build_tableFor built name
  rw [single] at made
  obtain ⟨read, same, related⟩ := Table.build_single_iff.mp made
  rw [lex, same] at lexed
  refine (Lexer.cuts_of_lex (Table.still_of_readAs related still) lexed).plainApart fun c member text => ?_
  obtain ⟨rule, listed, as⟩ := exists_of_mem_right related member
  rw [as.action]
  exact coloured rule listed text

end Registry

/-! ## The text around a token -/

namespace Table
variable {language : Language} {rules : List Table.Rule}

theorem forall_patterns {P : Pattern → Prop} {declared : List String} {read : List Lexer.Rule}
    (related : List.Forall₂ (Rule.ReadAs declared) rules read) (all : ∀ p ∈ patternsOf rules, P p) :
    ∀ r ∈ read, P r.pattern := by
  intro r member
  exact all _ (patternsOf_of_readAs related ▸ List.mem_map_of_mem member)

/-- Whether no pattern of the rules looks at more than the characters that it uses. -/
def selfContained (rules : List Table.Rule) : Bool := (patternsOf rules).all Pattern.selfContained

theorem restartsAfter_anything (sound : (single language rules).sound = true)
    (still : ∀ r ∈ rules, r.transition = none) (own : selfContained rules = true) :
    ∃ l, (single language rules).build = .ok l ∧ l.RestartsAfter fun _ => True := by
  obtain ⟨read, built, productive, related⟩ := build_single_total sound
  have patterns := forall_patterns related (List.all_eq_true.mp own)
  refine ⟨_, built, Lexer.restartsAfter (still_of_readAs related still) productive fun before _ => ?_⟩
  exact Lexer.blind_of_selfContained patterns before none

theorem tokensStandAlone (sound : (single language rules).sound = true)
    (still : ∀ r ∈ rules, r.transition = none) (own : selfContained rules = true) :
    ∃ l, (single language rules).build = .ok l ∧ l.TokensStandAlone := by
  obtain ⟨read, built, productive, related⟩ := build_single_total sound
  have patterns := forall_patterns related (List.all_eq_true.mp own)
  exact ⟨_, built, Lexer.tokensStandAlone (still_of_readAs related still) productive patterns⟩

end Table

theorem Gml.selfContained_rules (k : Classifier) : Table.selfContained (rules k) = true := by
  have same : Table.selfContained (rules k) = Table.selfContained (rules (.standard .empty)) := rfl
  rw [same]
  decide +kernel

theorem Catspeak.selfContained_rules : Table.selfContained rules = true := by decide +kernel

theorem KatScript.selfContained_rules : Table.selfContained rules = true := by decide +kernel

namespace Cosy

theorem assertions_rules : ∀ p ∈ Table.patternsOf rules, p.flat = true ∧ ∀ a ∈ p.assertions, a = .wordBoundary := by
  decide +kernel

theorem restartsAfter_no_word_character :
    ∃ l, table.build = .ok l ∧ l.RestartsAfter fun before => ∀ c ∈ before, Unicode.isWord c = false := by
  have listed : table ∈ Registry.tables .empty := List.mem_cons_self
  have sound : (Table.single language rules).sound = true := Registry.sound_of_mem_tables listed
  have still : ∀ r ∈ rules, r.transition = none := by simp [rules]
  obtain ⟨read, built, productive, related⟩ := Table.build_single_total sound
  refine ⟨_, built, Lexer.restartsAfter (Table.still_of_readAs related still) productive ?_⟩
  intro before harmless rest
  have same : isWordSide before = isWordSide none := by
    cases before with
    | none => rfl
    | some c => exact harmless c rfl
  refine Lexer.firstHit?_congr (fun before before' => isWordSide before = isWordSide before')
    (fun r member => ?_) same rest 0
  obtain ⟨flat, boundaries⟩ := Table.forall_patterns related assertions_rules r member
  refine ⟨flat, fun a listed => ?_⟩
  rw [boundaries a listed]
  exact Pattern.respects_wordBoundary

end Cosy

theorem exists_selfContained {listing : Listing} {t : Table} (member : t ∈ [Gml.table listing,
    Gml.extendedTable listing, Catspeak.table, KatScript.table, Plain.table]) :
    ∃ language rules, t = .single language rules ∧ t.sound = true ∧ (∀ r ∈ rules, r.transition = none) ∧
      Table.selfContained rules = true := by
  have sound (listed : t ∈ Registry.tables listing) : t.sound = true := Registry.sound_of_mem_tables listed
  simp only [List.mem_cons, List.not_mem_nil, or_false] at member
  rcases member with rfl | rfl | rfl | rfl | rfl
  · exact ⟨_, _, rfl, sound (by simp [Registry.tables]), Gml.still_rules _, Gml.selfContained_rules _⟩
  · exact ⟨_, _, rfl, sound (by simp [Registry.tables]), Gml.still_rules _, Gml.selfContained_rules _⟩
  · exact ⟨Catspeak.language, Catspeak.rules, rfl, sound (by simp [Registry.tables]), by simp [Catspeak.rules],
      Catspeak.selfContained_rules⟩
  · exact ⟨KatScript.language, KatScript.rules, rfl, sound (by simp [Registry.tables]), by simp [KatScript.rules],
      KatScript.selfContained_rules⟩
  · exact ⟨Plain.language, [], rfl, Registry.sound_tables_empty _ List.mem_cons_self, by simp, rfl⟩

/-- A scan can start over at every token of every source; in Cosy, at every token that begins the source or has
    no word character in front of it. -/
theorem lex_restart :
    (∀ listing, ∀ t ∈ [Gml.table listing, Gml.extendedTable listing, Catspeak.table, KatScript.table, Plain.table],
      ∃ l, t.build = .ok l ∧ l.RestartsAfter fun _ => True) ∧
    ∃ l, Cosy.table.build = .ok l ∧ l.RestartsAfter fun before => ∀ c ∈ before, Unicode.isWord c = false := by
  refine ⟨fun listing t member => ?_, Cosy.restartsAfter_no_word_character⟩
  obtain ⟨language, rules, rfl, sound, still, own⟩ := exists_selfContained member
  exact Table.restartsAfter_anything sound still own

/-- In Cosy the type `u8` is found again behind a space. -/
theorem lex_restart_behind_space : ∃ l, Cosy.table.build = .ok l ∧
    l.lex "n u8" = .ok [⟨.name, "n", 0, 1⟩, ⟨.whitespace, " ", 1, 2⟩, ⟨.keywordType, "u8", 2, 4⟩] ∧
    l.lex "u8" = .ok [⟨.keywordType, "u8", 0, 2⟩] := by
  obtain ⟨l, built, restarts⟩ := lex_restart.2
  have lexed : Cosy.table.build.toOption.map (·.lex "n u8") =
      some (.ok [⟨.name, "n", 0, 1⟩, ⟨.whitespace, " ", 1, 2⟩, ⟨.keywordType, "u8", 2, 4⟩]) := by decide +kernel
  rw [built] at lexed
  have whole := Option.some.inj lexed
  obtain ⟨tokens, found, again⟩ := restarts "n u8"
  have same := Except.ok.inj (found.symm.trans whole)
  obtain ⟨front, back, split, size, rest⟩ :=
    again [⟨.name, "n", 0, 1⟩, ⟨.whitespace, " ", 1, 2⟩] ⟨.keywordType, "u8", 2, 4⟩ [] same
  have parts : ("n ".toList, "u8".toList) = (front.toList, back.toList) := by
    have texts : "n ".toList ++ "u8".toList = front.toList ++ back.toList :=
      (congrArg String.toList split).trans String.toList_append
    rw [utf8ByteSize_eq] at size
    have equal := append_inj_of_byteLength texts size.symm
    exact Prod.ext equal.1 equal.2
  obtain ⟨one, two⟩ := Prod.mk.inj parts
  refine ⟨l, built, whole, ?_⟩
  rw [← one, ← String.toList_inj.mp two] at rest
  refine rest fun c last => ?_
  obtain rfl : ' ' = c := by simpa using last
  decide

/-- In the languages without assertions every token is one token on its own, and its text decides its category. -/
theorem lex_token_alone :
    ∀ listing, ∀ t ∈ [Gml.table listing, Gml.extendedTable listing, Catspeak.table, KatScript.table],
      ∃ l, t.build = .ok l ∧ l.TokensStandAlone := by
  intro listing t member
  obtain ⟨language, rules, rfl, sound, still, own⟩ :=
    exists_selfContained (List.mem_append_left [Plain.table] member)
  exact Table.tokensStandAlone sound still own

/-- In the GameMaker Language the run behind an unclosed comment is one token on its own, too. -/
theorem lex_token_alone_unclosed : ∃ l, (Gml.table .empty).build = .ok l ∧
    l.lex "1./*`é" = .ok [⟨.numberFloat, "1.", 0, 2⟩, ⟨.operator, "/", 2, 3⟩, ⟨.operator, "*", 3, 4⟩,
      ⟨.plainText, "`é", 4, 7⟩] ∧
    l.lex "`é" = .ok [⟨.plainText, "`é", 0, 3⟩] := by
  obtain ⟨l, built, alone, _⟩ := lex_token_alone .empty (Gml.table .empty) List.mem_cons_self
  have lexed : (Gml.table .empty).build.toOption.map (·.lex "1./*`é") =
      some (.ok [⟨.numberFloat, "1.", 0, 2⟩, ⟨.operator, "/", 2, 3⟩, ⟨.operator, "*", 3, 4⟩,
        ⟨.plainText, "`é", 4, 7⟩]) := by decide +kernel
  rw [built] at lexed
  have whole := Option.some.inj lexed
  obtain ⟨tokens, found, each⟩ := alone "1./*`é"
  rw [Except.ok.inj (found.symm.trans whole)] at each
  exact ⟨l, built, whole, each ⟨.plainText, "`é", 4, 7⟩ (by simp)⟩

/-! ## Line breaks -/

namespace Gml
open Pattern

/-- The characters with which comments and strings of several lines open. -/
def openers : List (Char × Char) := [('/', '*'), ('@', '\'')]

theorem openers_ne_lineFeed : ∀ o ∈ openers, o.2 ≠ '\n' := by decide

/-- White space. -/
def spaces : Pattern := oneOrMore .more (set (.property .whiteSpace))

/-- Whether no match of the pattern goes on over a line feed, unless it is white space or opens with the characters
    for that. -/
def lineBound (p : Pattern) : Bool :=
  p.avoids '\n' || p == spaces || openers.any fun (x, y) => [.single x, .single y].isPrefixOf p.leads.1

theorem lineBound_rules (k : Classifier) : ∀ p ∈ Table.patternsOf (rules k), lineBound p = true := by
  have same : Table.patternsOf (rules k) = Table.patternsOf (rules (.standard .empty)) := rfl
  rw [same]
  decide +kernel

theorem spaces_mem_rules (k : Classifier) : spaces ∈ Table.patternsOf (rules k) :=
  List.mem_filterMap.mpr ⟨"\\s+", List.mem_cons_self, rfl⟩

theorem matchLength?_spaces_lineFeed (before : Option Char) (rest : List Char) :
    spaces.matchLength? before ('\n' :: rest) ≠ none := by
  rw [spaces, matchLength?_oneOrMore before (by decide)]
  exact Option.some_ne_none _

section
variable {p : Pattern} {before : Option Char} {rest behind : List Char} {e : Spot}

theorem not_matches_of_opener {x y : Char} (opens : [CharSet.single x, .single y] <+: p.leads.1) (other : y ≠ '\n')
    (free : ¬ [x, y] <:+: rest) (some : rest ≠ []) : ¬ p.Matches ⟨before, rest ++ '\n' :: behind, 0⟩ e := by
  intro found
  obtain ⟨sets, split⟩ := opens
  obtain ⟨begins, -⟩ := found.leads
  rw [← split] at begins
  obtain ⟨c, here, first⟩ := begins 0 _ rfl
  obtain ⟨d, next, second⟩ := begins 1 _ rfl
  rw [CharSet.contains_single, beq_iff_eq] at first second
  subst first second
  match rest with
  | [] => contradiction
  | [c] => exact other (Option.some.inj next).symm
  | c :: d :: cs =>
    obtain rfl := Option.some.inj here
    obtain rfl := Option.some.inj next
    exact free (List.prefix_append [c, d] cs).isInfix

/-- No match in a text goes on over a line feed behind it, if no comment or string that could opens in the text and its
    last character is no white space. -/
theorem reach_lineFeed (bound : lineBound p = true) (free : ∀ o ∈ openers, ¬ [o.1, o.2] <:+: rest)
    (ended : ∀ c ∈ rest.getLast?, Unicode.isWhiteSpace c = false) (some : rest ≠ [])
    (found : p.Matches ⟨before, rest ++ '\n' :: behind, 0⟩ e) : e.used ≤ rest.length := by
  rw [lineBound, Bool.or_eq_true, Bool.or_eq_true] at bound
  rcases bound with (avoids | white) | opener
  · have feed : (rest ++ '\n' :: behind)[rest.length]? = Option.some '\n' := by simp
    exact Nat.zero_add rest.length ▸ found.used_le_of_avoids avoids feed
  · -- White space ends at the last character of the text at the latest.
    obtain rfl := beq_iff_eq.mp white
    obtain ⟨front, c, rfl⟩ := (List.eq_nil_or_concat' rest).resolve_left some
    have black : Unicode.isWhiteSpace c = false := ended c (by simp)
    have avoids : spaces.avoids c = true := by
      have missing : (CharSet.property .whiteSpace).contains c = false := black
      simp [spaces, oneOrMore, Pattern.avoids, missing]
    have last : (front ++ [c] ++ '\n' :: behind)[front.length]? = Option.some c := by simp
    have reached := Nat.zero_add front.length ▸ found.used_le_of_avoids avoids last
    exact reached.trans (by simp)
  · obtain ⟨o, listed, opens⟩ := List.any_eq_true.mp opener
    have other : o.2 ≠ '\n' := openers_ne_lineFeed o listed
    exact absurd found (not_matches_of_opener (List.isPrefixOf_iff_prefix.mp opens) other (free o listed) some)

/-- A string that is not closed ends with its line, and the quote on the next line begins another one. -/
example : (Pattern.parse? "\"[^\"\\n]*\"?").bind (matchLength? · none ['"', 'x', '\n', '"']) = some 2 := by
  decide +kernel

end

theorem closed_lineFeed {read : List Lexer.Rule} (bound : ∀ r ∈ read, lineBound r.pattern = true)
    (own : ∀ r ∈ read, r.pattern.selfContained = true) {text : List Char}
    (free : ∀ o ∈ openers, ¬ [o.1, o.2] <:+: text) (ended : ∀ c ∈ text.getLast?, Unicode.isWhiteSpace c = false)
    (behind : List Char) : Lexer.Closed read ('\n' :: behind) text := by
  rintro rest ⟨front, rfl⟩ some before
  refine Lexer.firstHit?_append (fun r member => matchLength?_append (own r member) fun e found => ?_) 0
  refine reach_lineFeed (bound r member) (fun o listed opened => ?_) (fun c last => ?_) some found
  · exact free o listed (opened.trans (List.suffix_append front rest).isInfix)
  · exact ended c (by rw [List.getLast?_append, Option.mem_def.mp last]; rfl)

theorem exists_rules {listing : Listing} {t : Table} (member : t ∈ [table listing, extendedTable listing]) :
    ∃ language k, t = .single language (rules k) ∧ t.sound = true := by
  have sound (listed : t ∈ Registry.tables listing) : t.sound = true := Registry.sound_of_mem_tables listed
  rcases List.mem_pair.mp member with rfl | rfl
  · exact ⟨language, .standard listing, rfl, sound (by simp [Registry.tables])⟩
  · exact ⟨extendedLanguage, .extended listing, rfl, sound (by simp [Registry.tables])⟩

end Gml

/-- In the GameMaker Language and its extension the lines behind a text have the tokens that they have on their own,
    moved behind the text, and the text has its own, if no comment or string that goes on over lines opens in it and
    it does not end in white space. -/
theorem lex_line_break : ∀ listing, ∀ t ∈ [Gml.table listing, Gml.extendedTable listing], ∃ l, t.build = .ok l ∧
    ∀ a b : String, ¬ ['/', '*'] <:+: a.toList → ¬ ['@', '\''] <:+: a.toList →
      (∀ c ∈ a.toList.getLast?, Unicode.isWhiteSpace c = false) →
        ∃ tokens later, l.lex a = .ok tokens ∧ l.lex ("\n" ++ b) = .ok later ∧
          l.lex (a ++ "\n" ++ b) = .ok (tokens ++ later.map (Token.moved a.utf8ByteSize)) := by
  intro listing t member
  obtain ⟨language, k, rfl, sound⟩ := Gml.exists_rules member
  obtain ⟨read, built, productive, related⟩ := Table.build_single_total sound
  have still := Table.still_of_readAs related (Gml.still_rules k)
  have own := Table.forall_patterns related (List.all_eq_true.mp (Gml.selfContained_rules k))
  have bound := Table.forall_patterns related (Gml.lineBound_rules k)
  obtain ⟨white, listed, spaces⟩ : ∃ r ∈ read, r.pattern = Gml.spaces :=
    List.mem_map.mp (Table.patternsOf_of_readAs related ▸ Gml.spaces_mem_rules k)
  refine ⟨_, built, fun a b comment text ended => ?_⟩
  rw [String.append_assoc]
  have free : ∀ o ∈ Gml.openers, ¬ [o.1, o.2] <:+: a.toList :=
    List.forall_mem_cons.mpr ⟨comment, List.forall_mem_singleton.mpr text⟩
  have feed : ("\n" ++ b).toList = '\n' :: b.toList := by simp
  refine Lexer.lex_append still productive own ?_ fun before => ?_
  · rw [feed]
    exact Gml.closed_lineFeed bound own free ended b.toList
  · rw [feed]
    exact Lexer.firstHit?_ne_none listed (spaces ▸ Gml.matchLength?_spaces_lineFeed before b.toList) 0

/-- A string that is not closed ends with its line. -/
theorem lex_line_break_unclosed_string : ∃ l, (Gml.table .empty).build = .ok l ∧
    l.lex "\"x // é" = .ok [⟨.string, "\"x // é", 0, 8⟩] ∧
    l.lex ("\n" ++ "z") = .ok [⟨.whitespace, "\n", 0, 1⟩, ⟨.nameVariable, "z", 1, 2⟩] ∧
    l.lex ("\"x // é" ++ "\n" ++ "z") =
      .ok [⟨.string, "\"x // é", 0, 8⟩, ⟨.whitespace, "\n", 8, 9⟩, ⟨.nameVariable, "z", 9, 10⟩] := by
  obtain ⟨l, built, parts⟩ := lex_line_break .empty (Gml.table .empty) List.mem_cons_self
  have comment : ¬ ['/', '*'] <:+: "\"x // é".toList := by simp [List.infix_cons_iff]
  have text : ¬ ['@', '\''] <:+: "\"x // é".toList := by simp [List.infix_cons_iff]
  have black : ∀ c ∈ "\"x // é".toList.getLast?, Unicode.isWhiteSpace c = false := by
    simp
    decide
  obtain ⟨tokens, later, first, second, whole⟩ := parts "\"x // é" "z" comment text black
  have lexed : (Gml.table .empty).build.toOption.map (fun l => (l.lex "\"x // é", l.lex ("\n" ++ "z"))) =
      some (.ok [⟨.string, "\"x // é", 0, 8⟩],
        .ok [⟨.whitespace, "\n", 0, 1⟩, ⟨.nameVariable, "z", 1, 2⟩]) := by decide +kernel
  rw [built] at lexed
  obtain ⟨line, next⟩ := Prod.mk.inj (Option.some.inj lexed)
  obtain rfl := Except.ok.inj (first.symm.trans line)
  obtain rfl := Except.ok.inj (second.symm.trans next)
  exact ⟨l, built, line, next, whole⟩

/-! ## Runs of white space -/

open Pattern

/-- No two tokens of a category stand side by side. -/
def Apart (category : Category) (tokens : List Token) : Prop :=
  tokens.IsChain fun t next => t.category = category → next.category ≠ category

theorem apart_plainText {tokens : List Token} : Apart .plainText tokens ↔ PlainApart tokens := Iff.rfl

/-! ### Tokens side by side -/

/-- What follows from what holds of a token and of the next holds of any two tokens side by side. -/
theorem Lexer.EveryToken.isChain {l : Lexer} {P : String → Token → String → Prop} {R : Token → Token → Prop}
    (every : l.EveryToken P)
    (each : ∀ front t next back, P front t (next.text ++ back) → P (front ++ t.text) next back → R t next)
    {src : String} {tokens : List Token} (lexed : l.lex src = .ok tokens) : tokens.IsChain R := by
  have general {offset : Nat} {cs : List Char} {later : List Token} (tiles : Tiles offset cs later) :
      ∀ front : String, src = front ++ .ofList cs → offset = front.utf8ByteSize → (∀ t ∈ later, t ∈ tokens) →
        later.IsChain R := by
    induction tiles with
    | nil offset => intro front _ _ _; exact .nil
    | @cons offset text rest later category some behind ih =>
      intro front split start listed
      have here : Token.Between (.ofChars category offset text) src front (.ofList rest) :=
        ⟨by rw [split, String.ofList_append]; rfl, start⟩
      have moved : offset + byteLength text = (front ++ .ofList text).utf8ByteSize := by
        rw [String.utf8ByteSize_append, utf8ByteSize_ofList, start]
      have onward : src = front ++ .ofList text ++ .ofList rest := by
        rw [split, String.ofList_append, String.append_assoc]
      rw [List.forall_mem_cons] at listed
      refine List.isChain_cons.mpr ⟨fun next first => ?_, ih _ onward moved listed.2⟩
      cases behind with
      | nil => contradiction
      | @cons _ text' rest' _ category' some' behind' =>
        obtain rfl := Option.some.inj first
        have there : Token.Between (.ofChars category' (offset + byteLength text) text') src (front ++ .ofList text)
            (.ofList rest') := ⟨by rw [onward, String.ofList_append]; rfl, moved⟩
        have own := every.holds lexed listed.1 here
        rw [String.ofList_append] at own
        exact each front _ _ _ own (every.holds lexed (listed.2 _ List.mem_cons_self) there)
  exact general (tiles_of_lex lexed) "" (by simp) (by simp) fun _ => id

/-! ### White space -/

/-- A token of white space is all of the white space between what stands before and behind it. -/
def EndsSpace (t : Token) (back : String) : Prop :=
  t.category = .whitespace → t.text.toList ≠ [] ∧ (∀ c ∈ t.text.toList, Unicode.isWhiteSpace c = true) ∧
    ∀ c ∈ back.toList.head?, Unicode.isWhiteSpace c = false

theorem run_of_spaces {before : Option Char} {text tail : List Char}
    (found : Gml.spaces.matchLength? before (text ++ tail) = some text.length) :
    (∀ c ∈ text, Unicode.isWhiteSpace c = true) ∧ ∀ c ∈ tail.head?, Unicode.isWhiteSpace c = false := by
  obtain ⟨run, after, same, within, ended⟩ := exists_run (.property .whiteSpace) (text ++ tail)
  rw [matchLength?_eq_search, Gml.spaces, search_oneOrMore] at found
  split at found
  next => contradiction
  next =>
    have length : text.length = run.length := by
      rw [← runLength_append within ended, ← same, ← Option.some.inj found, Nat.zero_add]
    obtain ⟨rfl, rfl⟩ := List.append_inj same length
    exact ⟨within, ended⟩

theorem endsSpace {rules : List Table.Rule} (only : Table.OnlyFrom rules .whitespace [Gml.spaces])
    {before : Option Char} {back : String} {t : Token}
    (made : MadeBy (Table.readings rules) before back.toList t) : EndsSpace t back := by
  intro white
  obtain ⟨p, listed, found⟩ := made.exists_pattern only (by decide) white
  obtain rfl := List.mem_singleton.mp listed
  exact ⟨made.full, run_of_spaces found⟩

theorem not_whitespace_of_endsSpace {t next : Token} {back : String} (ends : EndsSpace t (next.text ++ back))
    (own : EndsSpace next back) (white : t.category = .whitespace) : next.category ≠ .whitespace := by
  intro white'
  obtain ⟨-, -, ended⟩ := ends white
  obtain ⟨some, spaces, -⟩ := own white'
  obtain ⟨c, cs, letters⟩ := List.exists_cons_of_ne_nil some
  have first : c ∈ (next.text ++ back).toList.head? := by simp [letters]
  have inside : c ∈ next.text.toList := by simp [letters]
  have black := ended c first
  rw [spaces c inside] at black
  contradiction

namespace Registry

/-- In no language a rule makes white space but that for white space. -/
theorem onlyFrom_spaces {listing : Listing} {t : Table} (member : t ∈ Plain.table :: tables listing) :
    ∀ s ∈ t.states, Table.OnlyFrom s.rules .whitespace [Gml.spaces] := by
  have parsed : Pattern.parse? "\\s+" = some Gml.spaces := by decide
  have gml (k : Gml.Classifier) : ∀ word, k.classify word ≠ .whitespace := Gml.classify_ne (by decide) k
  have catspeak : ∀ word, Catspeak.classify word ≠ .whitespace := Catspeak.classify_ne (by decide)
  have katScript : ∀ word, KatScript.classify word ≠ .whitespace := KatScript.classify_ne (by decide)
  simp only [tables, List.mem_cons, List.not_mem_nil, or_false] at member
  rcases member with rfl | rfl | rfl | rfl | rfl | rfl
  · simp [Plain.table]
  · simp [Cosy.table, Cosy.rules, parsed]
  · simp [Gml.table, Gml.rules, parsed, gml]
  · simp [Gml.extendedTable, Gml.rules, parsed, gml]
  · simp [Catspeak.table, Catspeak.rules, parsed, catspeak]
  · simp [KatScript.table, KatScript.rules, parsed, katScript]

theorem spaceApart_of_lex {listing : Listing} {r : Registry} (built : ofListing listing = .ok r) {name src : String}
    {tokens : List Token} (lexed : r.lex name src = .ok tokens) : Apart .whitespace tokens := by
  obtain ⟨language, rules, table, still, -⟩ := exists_single_of_mem (tableFor_mem listing name)
  have only : Table.OnlyFrom rules .whitespace [Gml.spaces] :=
    onlyFrom_spaces (table ▸ tableFor_mem listing name) ⟨Table.rootName, rules⟩ List.mem_cons_self
  have every := everyToken_of_tableFor built table still fun _ _ _ => endsSpace only
  exact every.isChain (fun _ _ _ _ => not_whitespace_of_endsSpace) lexed

/-- Under every name, registered or not, no run of white space and no run of plain text is more than one token. -/
theorem runs_of_listing : ∀ listing, ∃ r, ofListing listing = .ok r ∧ ∀ name src, ∃ tokens,
    r.lex name src = .ok tokens ∧ Apart .plainText tokens ∧ Apart .whitespace tokens := by
  intro listing
  obtain ⟨r, built, -⟩ := exists_ofListing listing
  refine ⟨r, built, fun name src => ?_⟩
  obtain ⟨tokens, lexed⟩ := exists_lex built name src
  exact ⟨tokens, lexed, apart_plainText.mpr (plainApart_of_lex built lexed), spaceApart_of_lex built lexed⟩

end Registry

end Highlighter
