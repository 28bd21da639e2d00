import Highlighter.Proofs.Language.Words
import Highlighter.Proofs.Lexer.Characters

/-!
Which characters become plain text in the GameMaker Language and in KatScript. All rules but those for comments and
strings match nothing but white space, digits, letters, underscores, quotation marks and some other marks, and each of
these characters is enough for one of the rules to match (`separates_gml`, `separates_katScript`). So outside of
comments and strings the plain text is just the other characters (`plainText_of_listing`).

Rules that are never taken. The first matches decide how a source is cut (`lex_eq_of_firstMatch?`), so a rule can be
left out if others before it match wherever it does (`Shadowed`, `exists_lex_of_shadowed`). This can be computed if each
character with which its matches begin is enough for one of the others (`shadowed_of_certain`). So the rule of KatScript
for integers of another radix, which stands behind that for integers, changes nothing (`lex_withoutRadix`).
-/

namespace Highlighter

/-! ## Characters that no rule matches -/

open Pattern

/-! ### Characters of rules -/

/-- The characters at which one of some patterns is seen to match. -/
def certainStarts (readings : List (Pattern × Action)) : CharSet :=
  readings.foldr (fun x starts => .union x.1.certain starts) .empty

/-- Whether it can be computed that some patterns match wherever a member of a set stands, and use no other characters
    but in tokens of some categories. -/
def separates (readings : List (Pattern × Action)) (categories : List Category) (m : CharSet) : Bool :=
  (certainStarts readings).includes m && readings.all fun x => x.2.emitsOneOf categories || x.1.usesOnly m

section
variable {readings : List (Pattern × Action)} {before behind : List Char} {c : Char}

theorem exists_of_certainStarts (member : (certainStarts readings).contains c = true) :
    ∃ x ∈ readings, x.1.certain.contains c = true := by
  induction readings with
  | nil => contradiction
  | cons x readings ih =>
    rcases (Bool.or_eq_true _ _).mp member with here | later
    · exact ⟨x, List.mem_cons_self, here⟩
    · obtain ⟨y, listed, found⟩ := ih later
      exact ⟨y, List.mem_cons_of_mem x listed, found⟩

/-- Where nothing matches, no character stands that is enough for a match. -/
theorem not_certain_of_missing {before : Option Char} {rest : List Char}
    (missing : firstMatch? readings before (c :: rest) = none) : (certainStarts readings).contains c = false := by
  rw [Bool.eq_false_iff]
  intro member
  obtain ⟨x, listed, certain⟩ := exists_of_certainStarts member
  have found := matchLength?_of_certain certain before rest
  rw [firstMatch?_eq_none_iff.mp missing x listed] at found
  contradiction

/-- Where a character is plain text, nothing matches. -/
theorem HeldBy.missing_of_plainText {rules : List Table.Rule} {t : Token}
    (held : HeldBy (Table.readings rules) before c behind t) (coloured : ∀ r ∈ rules, r.Coloured)
    (plain : t.category = .plainText) :
    firstMatch? (Table.readings rules) before.getLast? (c :: behind) = none := by
  rcases held.used_or_missing with ⟨p, action, listed, -, category⟩ | ⟨missing, -⟩
  · obtain ⟨r, member, rfl⟩ := Table.exists_of_mem_readings listed
    exact absurd (category.symm.trans plain) (coloured r member t.text)
  · exact missing

/-- A character is plain text where it is none that the patterns separate, unless a token of the given categories has
    it. -/
theorem HeldBy.plainText_iff {rules : List Table.Rule} {t : Token} {categories : List Category} {m : CharSet}
    (held : HeldBy (Table.readings rules) before c behind t) (coloured : ∀ r ∈ rules, r.Coloured)
    (test : separates (Table.readings rules) categories m = true) (other : .plainText ∉ categories) :
    t.category = .plainText ↔ t.category ∉ categories ∧ m.contains c = false := by
  obtain ⟨starts, uses⟩ := (Bool.and_eq_true _ _).mp test
  rcases held.used_or_missing with ⟨p, action, listed, used, category⟩ | ⟨missing, category⟩
  · obtain ⟨r, member, rfl⟩ := Table.exists_of_mem_readings listed
    have matched : t.category ≠ .plainText := category ▸ coloured r member t.text
    refine iff_of_false matched ?_
    rintro ⟨outside, uncovered⟩
    rcases (Bool.or_eq_true _ _).mp (List.all_eq_true.mp uses _ listed) with emits | only
    · exact outside (category ▸ Action.resolve_mem emits t.text)
    · rw [avoids_of_usesOnly uncovered only] at used
      contradiction
  · refine iff_of_true category ⟨category ▸ other, ?_⟩
    rw [Bool.eq_false_iff]
    intro covered
    have certain := CharSet.contains_of_includes starts covered
    rw [not_certain_of_missing missing] at certain
    contradiction

end

/-- It does not matter how words are classified. -/
theorem separates_classify (readings : List (Pattern × Action)) (categories : List Category) (m : CharSet) (p : Pattern)
    (f g : String → Category) : separates (readings ++ [(p, .classify f)]) categories m =
      separates (readings ++ [(p, .classify g)]) categories m := by
  simp [separates, certainStarts, Action.emitsOneOf]

/-! ### Languages -/

/-- The name of a language, the categories of its comments and strings, and the marks that its other tokens are made of
    besides words, numbers and white space. -/
structure Coverage where
  name : String
  literals : List Category
  marks : String

namespace Coverage

/-- Whether a character can belong to tokens other than comments, strings and plain text. -/
def covers (k : Coverage) (c : Char) : Bool :=
  Unicode.isWhiteSpace c || Unicode.isDecimalDigit c || c.isAlpha || c == '_' || c == '"' || k.marks.toList.contains c

/-- The set of these characters. -/
def set (k : Coverage) : CharSet :=
  k.marks.toList.foldl (fun set c => .union set (.single c))
    (.union (.union (.union (.property .whiteSpace) (.property .decimalDigit)) Gml.letters) (.single '"'))

theorem contains_set (k : Coverage) (c : Char) : k.set.contains c = k.covers c := by
  rw [set, CharSet.contains_foldl, CharSet.contains_union, CharSet.contains_union, CharSet.contains_union,
    CharSet.contains_single, Gml.contains_letters, ← Bool.or_assoc]
  rfl

/-- The GameMaker Language or its extension. -/
def gml (name : String) : Coverage :=
  ⟨name, [.commentLine, .commentBlock, .string], "()[]\x7b\x7d;,*/!#@~&+%\\|^<>=?-:."⟩

/-- KatScript, in which number signs and at signs are no operators. -/
def katScript : Coverage := ⟨"katscript", [.commentLine, .string], "()[]\x7b\x7d;,*/!~&+%\\|^<>=?-:."⟩

theorem separates_gml (k : Gml.Classifier) (name : String) :
    separates (Table.readings (Gml.rules k)) (gml name).literals (gml name).set = true := by
  have fixed : separates (Table.readings Gml.fixedRules ++ [(oneOrMore .more (.set wordChars), .classify fun _ => .name)])
      (gml "").literals (gml "").set = true := by decide +kernel
  rw [Gml.rules_eq, Table.readings_append, Table.readings_classified Gml.parse_words]
  exact (separates_classify ..).trans fixed

theorem separates_katScript :
    separates (Table.readings KatScript.rules) katScript.literals katScript.set = true := by decide +kernel

/-- The languages with their characters. -/
def all : List Coverage := [gml "gml", gml "gmlext", katScript]

theorem exists_rules (listing : Listing) : ∀ k ∈ all, ∃ language rules,
    Registry.tableFor listing k.name = .single language rules ∧ (∀ r ∈ rules, r.transition = none) ∧
      (∀ r ∈ rules, r.Coloured) ∧ separates (Table.readings rules) k.literals k.set = true ∧
      .plainText ∉ k.literals := by
  simp only [all, List.forall_mem_cons, List.not_mem_nil, false_implies, implies_true, and_true]
  refine ⟨?_, ?_, ?_⟩
  · exact ⟨Gml.language, _, rfl, Gml.still_rules _, Gml.coloured_rules _, separates_gml _ _, by simp [gml]⟩
  · exact ⟨Gml.extendedLanguage, _, rfl, Gml.still_rules _, Gml.coloured_rules _, separates_gml _ _, by simp [gml]⟩
  · refine ⟨KatScript.language, KatScript.rules, rfl, by simp [KatScript.rules], ?_, separates_katScript,
      by simp [katScript]⟩
    simp [KatScript.rules, KatScript.classify_ne_plainText]

/-- The token of a character is plain text just where the token is no comment or string and the character can belong to
    no other tokens. -/
def FallsThrough (k : Coverage) (c : Char) (t : Token) : Prop :=
  t.category = .plainText ↔ t.category ∉ k.literals ∧ k.covers c = false

/-- Outside of comments and strings, the characters of plain text are just those that can belong to no other tokens. -/
theorem plainText_of_listing : ∀ listing, ∃ r, Registry.ofListing listing = .ok r ∧
    ∀ k ∈ all, (r.findOrPlain k.name).EveryCharacter fun _ c _ t => k.FallsThrough c t := by
  intro listing
  obtain ⟨r, built, -⟩ := Registry.exists_ofListing listing
  refine ⟨r, built, fun k member => ?_⟩
  obtain ⟨language, rules, table, still, coloured, test, other⟩ := exists_rules listing k member
  refine Registry.everyCharacter_of_tableFor built table still fun before c behind t held => ?_
  rw [FallsThrough, ← k.contains_set]
  exact held.plainText_iff coloured test other

/-- A number sign is an operator in the GameMaker Language, and plain text in KatScript unless a string has it. -/
theorem plainText_of_listing_numberSign : ∃ r, Registry.ofListing .empty = .ok r ∧
    r.lex "gml" "#é" = .ok [⟨.operator, "#", 0, 1⟩, ⟨.plainText, "é", 1, 3⟩] ∧
    r.lex "katscript" "#\"#" = .ok [⟨.plainText, "#", 0, 1⟩, ⟨.string, "\"#", 1, 3⟩] ∧
    (gml "gml").FallsThrough 'é' ⟨.plainText, "é", 1, 3⟩ ∧ katScript.FallsThrough '#' ⟨.string, "\"#", 1, 3⟩ := by
  obtain ⟨r, built, every⟩ := plainText_of_listing .empty
  have inGml : r.lex "gml" "#é" = .ok [⟨.operator, "#", 0, 1⟩, ⟨.plainText, "é", 1, 3⟩] :=
    Registry.lex_eq_of_tableFor built (by decide +kernel)
  have inKatScript : r.lex "katscript" "#\"#" = .ok [⟨.plainText, "#", 0, 1⟩, ⟨.string, "\"#", 1, 3⟩] :=
    Registry.lex_eq_of_tableFor built (by decide +kernel)
  have letter : "#é".toList = ['#'] ++ 'é' :: [] := by decide
  have sign : "#\"#".toList = ['#', '"'] ++ '#' :: [] := by decide
  refine ⟨r, built, inGml, inKatScript, ?_, ?_⟩
  · exact (every (gml "gml") (by simp [all])).holds inGml letter (by simp) ⟨by decide, by decide⟩
  · exact (every katScript (by simp [all])).holds inKatScript sign (by simp) ⟨by decide, by decide⟩

end Coverage

/-! ## Rules that are never taken -/

/-! ### First matches decide -/

namespace Lexer

/-- What the match of a rule is made into, and how many characters it has. -/
def Hit.made (hit : Hit) : Action × Nat := (hit.rule.action, hit.length)

section
variable {read read' : List Rule} {before : Option Char} {offset : Nat} {cs run after : List Char} {tokens : List Token}
  (same : ∀ before rest, (firstHit? before rest 0 read').map Hit.made = (firstHit? before rest 0 read).map Hit.made)
include same

theorem firstHit?_eq_none_congr {rest : List Char} :
    firstHit? before rest 0 read' = none ↔ firstHit? before rest 0 read = none := by
  rw [← Option.map_eq_none_iff, same, Option.map_eq_none_iff]

theorem Unmatched.congr (unmatched : Unmatched read after before run) : Unmatched read' after before run := by
  induction unmatched with
  | nil before => exact .nil before
  | cons here later ih => exact .cons ((firstHit?_eq_none_congr same).mpr here) ih

/-- Rules whose first matches are made into the same cut a text in the same way. -/
theorem Cuts.congr (cuts : Cuts read before offset cs tokens) : Cuts read' before offset cs tokens := by
  induction cuts with
  | nil before offset => exact .nil before offset
  | @hit before offset text after tokens hit found length some later ih =>
    have first := same before (text ++ after)
    rw [found, Option.map_some, Option.map_eq_some_iff] at first
    obtain ⟨hit', found', made⟩ := first
    -- The matches are equally long, so the same is left behind them.
    obtain ⟨action, lengths⟩ := Prod.mk.inj made
    rw [← action]
    exact .hit found' (length.trans lengths.symm) some ih
  | plain some unmatched ended later ih =>
    exact .plain some (unmatched.congr same) (fun more => (firstHit?_eq_none_congr same).not.mpr (ended more)) ih

end

section
variable {language language' : Language} {rules rules' : List Table.Rule}

/-- If two tables have the same first matches everywhere, their lexers find the same tokens. -/
theorem lex_eq_of_firstMatch? (sound : (Table.single language rules).sound = true)
    (sound' : (Table.single language' rules').sound = true) (still : ∀ r ∈ rules, r.transition = none)
    (still' : ∀ r ∈ rules', r.transition = none)
    (same : ∀ before rest, firstMatch? (Table.readings rules') before rest =
      firstMatch? (Table.readings rules) before rest) :
    ∃ l l', (Table.single language rules).build = .ok l ∧ (Table.single language' rules').build = .ok l' ∧
      ∀ src, l'.lex src = l.lex src := by
  obtain ⟨read, built, productive, related⟩ := Table.build_single_total sound
  obtain ⟨read', built', productive', related'⟩ := Table.build_single_total sound'
  refine ⟨_, _, built, built', fun src => ?_⟩
  obtain ⟨tokens, lexed⟩ := lex_total productive src
  have made (before : Option Char) (rest : List Char) :
      (firstHit? before rest 0 read').map Hit.made = (firstHit? before rest 0 read).map Hit.made :=
    (map_firstHit? related' before rest 0).trans ((same before rest).trans (map_firstHit? related before rest 0).symm)
  have cuts := (cuts_of_lex (Table.still_of_readAs related still) lexed).congr made
  rw [lexed, cuts.lex (Table.still_of_readAs related' still') productive']

end

end Lexer

/-! ### Rules behind others that match -/

/-- Where none of some patterns matches, another one does not either. -/
def Shadowed (readings : List (Pattern × Action)) (p : Pattern) : Prop :=
  ∀ before rest, firstMatch? readings before rest = none → p.matchLength? before rest = none

section
variable {front back : List (Pattern × Action)} {p : Pattern} {action : Action}

theorem shadowed_of_certain (full : p.canBeEmpty = false) (test : (certainStarts front).includes p.opening = true) :
    Shadowed front p := by
  intro before rest missing
  cases rest with
  | nil =>
    -- At the end of a text only the empty match is left.
    cases found : p.matchLength? before [] with
    | none => rfl
    | some n =>
      have pos := matchLength?_pos full found
      have inside := matchLength?_le found
      simp only [List.length_nil] at inside
      omega
  | cons c rest =>
    refine matchLength?_of_opening full (Bool.eq_false_iff.mpr fun member => ?_) before rest
    have certain := CharSet.contains_of_includes test member
    rw [not_certain_of_missing missing] at certain
    contradiction

theorem firstMatch?_of_shadowed (shadowed : Shadowed front p) (before : Option Char) (rest : List Char) :
    firstMatch? (front ++ back) before rest = firstMatch? (front ++ (p, action) :: back) before rest := by
  rw [firstMatch?_append, firstMatch?_append, firstMatch?_cons]
  cases missing : firstMatch? front before rest with
  | some first => rfl
  | none => simp [shadowed before rest missing]

end

/-- A rule behind others that match wherever it does can be left out. -/
theorem exists_lex_of_shadowed {language : Language} {front back : List Table.Rule} {text : String} {p : Pattern}
    {category : Category} (sound : (Table.single language (front ++ .token text category :: back)).sound = true)
    (still : ∀ r ∈ front ++ .token text category :: back, r.transition = none)
    (parsed : Pattern.parse? text = some p) (shadowed : Shadowed (Table.readings front) p) :
    ∃ l l', (Table.single language (front ++ .token text category :: back)).build = .ok l ∧
      (Table.single language (front ++ back)).build = .ok l' ∧ ∀ src, l'.lex src = l.lex src := by
  have fewer : front ++ back ⊆ front ++ .token text category :: back :=
    List.append_subset.mpr ⟨List.subset_append_left .., List.subset_append_of_subset_right _ (List.subset_cons_self ..)⟩
  refine Lexer.lex_eq_of_firstMatch? sound (Table.sound_of_subset sound fewer) still
    (fun r listed => still r (fewer listed)) fun before rest => ?_
  rw [Table.readings_append, Table.readings_append, Table.readings_token parsed]
  exact firstMatch?_of_shadowed shadowed before rest

namespace KatScript

/-- The rule for integers of another radix. -/
def radixRule : Table.Rule := .token "\\d+r\\d+" .numberInteger

/-- The rules before that for integers of another radix. -/
def rulesBeforeRadix : List Table.Rule := rules.take 4

/-- The rules behind that for integers of another radix. -/
def rulesBehindRadix : List Table.Rule := rules.drop 5

theorem rules_eq : rules = rulesBeforeRadix ++ radixRule :: rulesBehindRadix := rfl

theorem rulesWithoutRadix_eq : rulesWithoutRadix = rulesBeforeRadix ++ rulesBehindRadix := rfl

/-- Some digits for the radix, the letter and the digits of the integer. -/
def radixInteger : Pattern := seq (seq digits (char 'r')) digits

theorem parse_radixInteger : Pattern.parse? "\\d+r\\d+" = some radixInteger := by decide

/-- The digit with which an integer of another radix begins is an integer by itself. -/
theorem shadowed_radixInteger : Shadowed (Table.readings rulesBeforeRadix) radixInteger :=
  shadowed_of_certain (by decide) (by decide +kernel)

/-- The rule for integers of another radix is one of the rules, and without it the results for every source are the
    same. -/
theorem lex_withoutRadix :
    (∃ front back, rules = front ++ radixRule :: back ∧ rulesWithoutRadix = front ++ back) ∧
      ∃ l l', table.build = .ok l ∧ tableWithoutRadix.build = .ok l' ∧ ∀ src, l'.lex src = l.lex src := by
  refine ⟨⟨_, _, rules_eq, rulesWithoutRadix_eq⟩, ?_⟩
  have listed : table ∈ Registry.tables .empty := by simp [Registry.tables]
  have sound : (Table.single language rules).sound = true := Registry.sound_of_mem_tables listed
  have still : ∀ r ∈ rules, r.transition = none := by simp [rules]
  rw [rules_eq] at sound still
  exact exists_lex_of_shadowed sound still parse_radixInteger shadowed_radixInteger

end KatScript

end Highlighter
