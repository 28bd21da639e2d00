import Highlighter.Proofs.CharSet
import Highlighter.Proofs.Language.LongestMatch
import Highlighter.Proofs.Language.Neighbours
import Highlighter.Proofs.Lexer.Origins
import Highlighter.Proofs.Listing.Lines

/-!
Words of the GameMaker Language. No rule but that for words matches where a letter or an underscore stands, although it
also matches digits (`wordRules`), so every identifier is one token, and its category is that of the classifier
(`lex_identifier`). With the names of a listing this is `colour`: what follows the word on the first line that lists
it decides, then whether the word is reserved, then its case (`classify_eq_colour`).

Words in all the languages that classify them (`classifiesWords_of_listing`). The rules of Catspeak and KatScript for
words ask for a letter first, and then take what the rules of the GameMaker Language do, in Catspeak with apostrophes.
-/

namespace Highlighter

/-! ## The GameMaker Language -/

/-- The category of listed names. -/
def Role.category : Role → Category
  | .constant => .keywordConstant
  | .deprecated => .genericDeleted
  | .builtin => .nameBuiltin

/-- Words of ASCII letters, digits and underscores that begin with no digit. -/
def WordKind.ascii (classify : String → Category) : WordKind := ⟨fun c => c.isAlpha || c == '_', isNameChar, classify⟩

namespace Gml
open Pattern

/-- A letter or an underscore, with letters, digits and underscores behind it. -/
def IsIdentifier (word : String) : Prop :=
  ∃ c cs, word.toList = c :: cs ∧ (c.isAlpha || c == '_') = true ∧ ∀ d ∈ cs, isNameChar d = true

theorem isIdentifier_iff (word : String) : IsIdentifier word ↔
    (word.toList.head?.any fun c => c.isAlpha || c == '_') = true ∧ word.toList.tail.all isNameChar = true := by
  rw [IsIdentifier, List.all_eq_true]
  cases word.toList with
  | nil => simp
  | cons c cs => simp

instance : DecidablePred IsIdentifier := fun word => decidable_of_iff _ (isIdentifier_iff word).symm

/-- The category of an identifier, where `reserved` are the reserved words and `rest` follows the identifier on the
    first line that lists it. -/
def colour (reserved : List String) (word : String) (rest : Option (List Char)) : Category :=
  if rest.any fun cs => !cs.contains '#' && !cs.contains '&' then .nameBuiltin
  else if reserved.contains word then .keyword
  else if rest.any (·.contains '#') then .keywordConstant
  else if rest.isSome then .genericDeleted
  else if word.toList.all fun c => !c.isLower then .nameVariableMagic
  else if word.toList.head?.any Char.isUpper then .keywordType
  else .nameVariable

/-! ### Characters of words -/

theorem contains_upper (c : Char) : (CharSet.range 'A' 'Z').contains c = c.isUpper :=
  (Bool.decide_and _ _).symm

theorem contains_lower (c : Char) : (CharSet.range 'a' 'z').contains c = c.isLower := rfl

theorem contains_digit (c : Char) : (CharSet.range '0' '9').contains c = c.isDigit := rfl

theorem contains_letters (c : Char) : letters.contains c = (c.isAlpha || c == '_') := by
  rw [letters, CharSet.contains_union, CharSet.contains_union, contains_upper, contains_lower,
    CharSet.contains_single]
  rfl

theorem contains_wordChars (c : Char) : wordChars.contains c = isNameChar c := by
  rw [wordChars, CharSet.contains_union, CharSet.contains_union, CharSet.contains_union, contains_upper,
    contains_lower, contains_digit, CharSet.contains_single]
  rfl

theorem isNameChar_of_letter {c : Char} (letter : (c.isAlpha || c == '_') = true) : isNameChar c = true := by
  rw [isNameChar, Char.isAlphanum]
  revert letter
  cases c.isAlpha <;> cases c.isDigit <;> simp

theorem IsIdentifier.named {word : String} (identifier : IsIdentifier word) :
    ∀ c ∈ word.toList, isNameChar c = true := by
  obtain ⟨c, cs, letters, letter, named⟩ := identifier
  rw [letters]
  exact List.forall_mem_cons.mpr ⟨isNameChar_of_letter letter, named⟩

/-- The characters of words that are no lower-case letters. -/
def capitals : CharSet := .union (.union (.range 'A' 'Z') (.range '0' '9')) (.single '_')

theorem contains_capitals (c : Char) : capitals.contains c = (c.isUpper || c.isDigit || c == '_') := by
  rw [capitals, CharSet.contains_union, CharSet.contains_union, contains_upper, contains_digit,
    CharSet.contains_single]

theorem contains_capitals_of_named {c : Char} (named : isNameChar c = true) :
    capitals.contains c = !c.isLower := by
  cases lower : c.isLower with
  | false =>
    have spelled : (c.isUpper || c.isLower || c.isDigit || c == '_') = true := named
    rw [lower, Bool.or_false] at spelled
    rw [contains_capitals, spelled]
    rfl
  | true =>
    rw [← contains_lower] at lower
    exact CharSet.not_contains_of_apart (by decide) lower

theorem isAllCaps_eq {word : String} (named : ∀ c ∈ word.toList, isNameChar c = true) :
    isAllCaps word = word.toList.all fun c => !c.isLower := by
  rw [isAllCaps, Bool.eq_iff_iff, List.all_eq_true, List.all_eq_true]
  refine forall₂_congr fun c member => ?_
  rw [← contains_capitals, contains_capitals_of_named (named c member)]

theorem isCapitalized_eq {word : String} {c : Char} {cs : List Char} (letters : word.toList = c :: cs)
    (named : ∀ d ∈ cs, isNameChar d = true) : isCapitalized word = c.isUpper := by
  have all : (cs.all fun d => d.isAlphanum || d == '_') = true := List.all_eq_true.mpr named
  rw [isCapitalized, letters]
  simp only
  rw [all, Bool.and_true]

/-! ### Categories of words -/

theorem classify_eq_colour {k : Classifier} {reserved : List String} {roleOf : String → Option Role} {word : String}
    {rest : Option (List Char)} (identifier : IsIdentifier word) (assigns : k.listing.Assigns roleOf)
    (same : k.reserved.contains word = reserved.contains word) (role : roleOf word = rest.map .ofRest) :
    k.classify word = colour reserved word rest := by
  have all := isAllCaps_eq identifier.named
  obtain ⟨c, cs, letters, -, named⟩ := identifier
  have builtins : k.listing.builtins.contains word = _ := assigns word .builtin
  have constants : k.listing.constants.contains word = _ := assigns word .constant
  have deprecated : k.listing.deprecated.contains word = _ := assigns word .deprecated
  have first : word.toList.head?.any Char.isUpper = c.isUpper := by
    rw [letters]
    rfl
  rw [Classifier.classify, builtins, constants, deprecated, same, role, all, isCapitalized_eq letters named,
    colour, first]
  -- Of the three sets at most that of the word's role has the word.
  cases rest with
  | none => rfl
  | some cs =>
    by_cases hash : '#' ∈ cs
    · simp [Role.ofRest, hash]
    · by_cases mark : '&' ∈ cs <;> simp [Role.ofRest, hash, mark]

theorem colour_of_role {reserved : List String} {word : String} {rest : Option (List Char)} {role : Role}
    (listed : rest.map .ofRest = some role) (free : word ∉ reserved) : colour reserved word rest = role.category := by
  obtain ⟨cs, rfl, rfl⟩ := Option.map_eq_some_iff.mp listed
  by_cases hash : '#' ∈ cs
  · simp [colour, Role.ofRest, Role.category, hash, free]
  · by_cases mark : '&' ∈ cs <;> simp [colour, Role.ofRest, Role.category, hash, mark, free]

/-! ### Tokens of words -/

theorem digits_mem_readings : (digits, .emit .numberInteger) ∈ Table.readings fixedRules := by
  refine List.mem_filterMap.mpr ⟨.token "\\d+" .numberInteger, ?_, rfl⟩
  simp [fixedRules, rules]

theorem wordRules (classify : String → Category) :
    (WordKind.ascii classify).Rules fixedRules (oneOrMore .more (set wordChars)) where
  goesOn c begins := isNameChar_of_letter begins
  emitted := by simp [fixedRules, rules, Table.Rule.token]
  missing before c rest begins :=
    firstMatch?_of_separate separate_letters (.set rfl ((contains_letters c).trans begins))
  whole before c rest begins := by
    have member : wordChars.contains c = true := by
      rw [contains_wordChars]
      exact isNameChar_of_letter begins
    rw [matchLength?_oneOrMore before member, runLength, funext contains_wordChars]
    rfl
  other before c rest noLetter missing := by
    cases member : wordChars.contains c with
    | false =>
      apply matchLength?_of_opening
      · rfl
      · exact member
    | true =>
      -- The character is a digit, so a rule for numbers matches.
      have digit : c.isDigit = true := isDigit_of_wordChars member ((contains_letters c).trans noLetter)
      have decimal : (CharSet.property .decimalDigit).contains c = true :=
        CharSet.holds_of_within (a := .range '0' '9') (by decide) digit
      have none := firstMatch?_eq_none_iff.mp missing _ digits_mem_readings
      rw [digits, matchLength?_oneOrMore before decimal] at none
      contradiction

theorem lex_identifier {language : Language} {k : Classifier} {word : String} {l : Lexer}
    (sound : (Table.single language (rules k)).sound = true)
    (built : (Table.single language (rules k)).build = .ok l) (identifier : IsIdentifier word) :
    l.lex word = .ok [⟨k.classify word, word, 0, word.utf8ByteSize⟩] :=
  (wordRules k.classify).lex_word parse_words sound (by simp [fixedRules, rules]) built identifier

end Gml

namespace Registry

/-- The names of the language and its extension, with their reserved words. -/
def gmlReserved : List (String × List String) :=
  [("gml", Gml.reservedWords), ("gmlext", Gml.reservedWords ++ Gml.extendedWords)]

theorem exists_classifier (listing : Listing) : ∀ entry ∈ gmlReserved, ∃ language k,
    tableFor listing entry.1 = .single language (Gml.rules k) ∧ k.listing = listing ∧
      ∀ word, k.reserved.contains word = entry.2.contains word := by
  rw [gmlReserved, List.forall_mem_cons, List.forall_mem_singleton]
  constructor
  · exact ⟨Gml.language, .standard listing, rfl, rfl, Vocabulary.contains_ofList Gml.reservedWords⟩
  · refine ⟨Gml.extendedLanguage, .extended listing, rfl, rfl, fun word => ?_⟩
    rw [Gml.Classifier.extended, Vocabulary.contains_union, Vocabulary.contains_ofList, Vocabulary.contains_ofList,
      List.contains_append]

/-- The registry of a listing finds every identifier as one token in the GameMaker Language and its extension, with
    the category that the first line that lists it, the reserved words and the case give it; listed identifiers that
    are not reserved have the category of their role. -/
theorem lex_identifier_of_listing : ∀ text, ∃ r, ofListing (.parse text) = .ok r ∧
    ∀ entry ∈ gmlReserved, ∀ word, Gml.IsIdentifier word → ∃ category,
      r.lex entry.1 word = .ok [⟨category, word, 0, word.utf8ByteSize⟩] ∧
      category = Gml.colour entry.2 word (Listing.firstRest? text word) ∧
      ∀ role, (Listing.parse text).roleOf? word = some role → word ∉ entry.2 → category = role.category := by
  intro text
  obtain ⟨r, built, -⟩ := exists_ofListing (.parse text)
  refine ⟨r, built, fun entry member word identifier => ?_⟩
  obtain ⟨language, k, table, own, reserved⟩ := exists_classifier (.parse text) entry member
  have made := build_tableFor built entry.1
  have sound := sound_tableFor (.parse text) entry.1
  rw [table] at made sound
  have assigns := Listing.assigns_parse text
  have listing : k.listing.Assigns _ := own ▸ assigns
  have classified := Gml.classify_eq_colour identifier listing (reserved word) rfl
  refine ⟨_, Gml.lex_identifier sound made identifier, classified, fun role listed free => ?_⟩
  rw [Listing.roleOf?_of_assigns assigns] at listed
  exact classified.trans (Gml.colour_of_role listed free)

/-- A reserved word stays a keyword where it is listed as a constant, and becomes a builtin where it is listed as
    one; of two lines the first counts. -/
theorem lex_identifier_of_listing_reserved : ∃ r, ofListing (.parse "if#\nelse\nelif&\nelif#") = .ok r ∧
    r.lex "gml" "if" = .ok [⟨.keyword, "if", 0, 2⟩] ∧ r.lex "gml" "else" = .ok [⟨.nameBuiltin, "else", 0, 4⟩] ∧
    r.lex "gml" "elif" = .ok [⟨.genericDeleted, "elif", 0, 4⟩] ∧
    r.lex "gmlext" "elif" = .ok [⟨.keyword, "elif", 0, 4⟩] := by
  obtain ⟨r, built, colours⟩ := lex_identifier_of_listing "if#\nelse\nelif&\nelif#"
  have gml := colours ("gml", Gml.reservedWords) (by simp [gmlReserved])
  have gmlext := colours ("gmlext", Gml.reservedWords ++ Gml.extendedWords) (by simp [gmlReserved])
  obtain ⟨_, one, rfl, -⟩ := gml "if" ⟨'i', ['f'], by decide, by decide, by simp [isNameChar]⟩
  obtain ⟨_, two, rfl, -⟩ := gml "else" ⟨'e', ['l', 's', 'e'], by decide, by decide, by simp [isNameChar]⟩
  obtain ⟨_, three, rfl, -⟩ := gml "elif" ⟨'e', ['l', 'i', 'f'], by decide, by decide, by simp [isNameChar]⟩
  obtain ⟨_, four, rfl, -⟩ := gmlext "elif" ⟨'e', ['l', 'i', 'f'], by decide, by decide, by simp [isNameChar]⟩
  refine ⟨r, built, one.trans ?_, two.trans ?_, three.trans ?_, four.trans ?_⟩ <;> decide +kernel

end Registry

/-! ## Catspeak, KatScript and all together -/

open Pattern

/-- Words of ASCII letters, digits and underscores in which apostrophes can stand for letters. -/
def WordKind.apostrophes (classify : String → Category) : WordKind :=
  ⟨fun c => c.isAlpha || c == '_' || c == '\'', fun c => isNameChar c || c == '\'', classify⟩

/-- The letters and the underscore of ASCII, and the apostrophe. -/
def Catspeak.letters : CharSet := .union Gml.letters (.single '\'')

/-- The characters of words, and the apostrophe. -/
def Catspeak.wordChars : CharSet := .union Highlighter.wordChars (.single '\'')

def Catspeak.fixedRules : List Table.Rule := Catspeak.rules.dropLast

def KatScript.fixedRules : List Table.Rule := KatScript.rules.dropLast

theorem apart_letters : beginsApart (Table.readings Catspeak.fixedRules) Catspeak.letters = true ∧
    beginsApart (Table.readings KatScript.fixedRules) Gml.letters = true := by decide +kernel

theorem contains_letters_apostrophe (c : Char) :
    Catspeak.letters.contains c = (c.isAlpha || c == '_' || c == '\'') := by
  rw [Catspeak.letters, CharSet.contains_union, Gml.contains_letters, CharSet.contains_single]

theorem contains_wordChars_apostrophe (c : Char) :
    Catspeak.wordChars.contains c = (isNameChar c || c == '\'') := by
  rw [Catspeak.wordChars, CharSet.contains_union, Gml.contains_wordChars, CharSet.contains_single]

/-- Words that begin with letters of one set and go on with characters of a larger one. -/
theorem WordKind.rules_of_star {k : WordKind} {fixed : List Table.Rule} {first more : CharSet}
    (apart : beginsApart (Table.readings fixed) first = true)
    (emitted : ∀ r ∈ fixed, ∃ category, r.action = .emit category)
    (goesOn : ∀ c, k.begins c = true → k.goesOn c = true) (begins : ∀ c, first.contains c = k.begins c)
    (contains : ∀ c, more.contains c = k.goesOn c) :
    k.Rules fixed (seq (oneOrMore .more (set first)) (star .more (set more))) where
  goesOn := goesOn
  emitted := emitted
  missing before c rest word := firstMatch?_of_beginsApart apart ((begins c).trans word) before rest
  whole before c rest word := by
    have subset : ∀ d, first.contains d = true → more.contains d = true := by
      intro d member
      rw [contains]
      exact goesOn d (begins d ▸ member)
    rw [matchLength?_oneOrMore_star subset before ((begins c).trans word), runLength, funext contains]
  other before c rest none _ := by
    apply matchLength?_of_opening
    · rfl
    · exact (begins c).trans none

theorem Catspeak.wordRules : (WordKind.apostrophes classify).Rules fixedRules
    (seq (oneOrMore .more (set letters)) (star .more (set wordChars))) := by
  refine WordKind.rules_of_star apart_letters.1 (by simp [fixedRules, rules, Table.Rule.token]) ?_
    contains_letters_apostrophe contains_wordChars_apostrophe
  intro c begins
  simp only [WordKind.apostrophes, Bool.or_eq_true] at begins ⊢
  exact begins.imp_left fun letter => Gml.isNameChar_of_letter ((Bool.or_eq_true _ _).mpr letter)

theorem KatScript.wordRules : (WordKind.ascii classify).Rules fixedRules
    (seq (oneOrMore .more (set Gml.letters)) (star .more (set Highlighter.wordChars))) :=
  WordKind.rules_of_star apart_letters.2 (by simp [fixedRules, rules, Table.Rule.token])
    (fun _ => Gml.isNameChar_of_letter) Gml.contains_letters Gml.contains_wordChars

namespace Registry

/-- The names of the languages that classify words, with their words. -/
def wordKinds (listing : Listing) : List (String × WordKind) :=
  [("gml", .ascii (Gml.Classifier.standard listing).classify),
   ("gmlext", .ascii (Gml.Classifier.extended listing).classify),
   ("catspeak", .apostrophes Catspeak.classify),
   ("katscript", .ascii KatScript.classify)]

theorem exists_wordRules {listing : Listing} : ∀ entry ∈ wordKinds listing, ∃ language fixed text p,
    tableFor listing entry.1 = .single language (fixed ++ [.classified text entry.2.classify]) ∧
      (∀ r ∈ fixed, r.transition = none) ∧ Pattern.parse? text = some p ∧ entry.2.Rules fixed p := by
  simp only [wordKinds, List.forall_mem_cons, List.not_mem_nil, false_implies, implies_true, and_true]
  refine ⟨?_, ?_, ?_, ?_⟩
  · exact ⟨_, _, _, _, rfl, by simp [Gml.fixedRules, Gml.rules], Gml.parse_words, Gml.wordRules _⟩
  · exact ⟨_, _, _, _, rfl, by simp [Gml.fixedRules, Gml.rules], Gml.parse_words, Gml.wordRules _⟩
  · exact ⟨_, _, _, _, rfl, by simp [Catspeak.fixedRules, Catspeak.rules], rfl, Catspeak.wordRules⟩
  · exact ⟨_, _, _, _, rfl, by simp [KatScript.fixedRules, KatScript.rules], rfl, KatScript.wordRules⟩

/-- Whatever names are listed, the tokens that begin as words do are the longest words that stand there, with the
    categories of the words, and no other token has been classified; a word that stands alone is one token. -/
theorem classifiesWords_of_listing : ∀ listing, ∃ r, ofListing listing = .ok r ∧
    ∀ entry ∈ wordKinds listing, (r.findOrPlain entry.1).ClassifiesWords entry.2 := by
  intro listing
  obtain ⟨r, built, -⟩ := exists_ofListing listing
  refine ⟨r, built, fun entry member => ?_⟩
  obtain ⟨language, fixed, text, p, table, still, parsed, rules⟩ := exists_wordRules entry member
  have made := build_tableFor built entry.1
  have sound := sound_tableFor listing entry.1
  rw [table] at made sound
  exact rules.classifiesWords parsed sound still made

/-- An apostrophe begins a word like a letter, and a digit inside a word does not end it. -/
theorem classifiesWords_of_listing_apostrophe : ∃ r, ofListing .empty = .ok r ∧
    (r.findOrPlain "catspeak").ClassifiesWords (.apostrophes Catspeak.classify) ∧
    r.lex "catspeak" "'n9't" = .ok [⟨.nameVariable, "'n9't", 0, 5⟩] := by
  obtain ⟨r, built, classifies⟩ := classifiesWords_of_listing .empty
  have words := classifies ("catspeak", .apostrophes Catspeak.classify) (by simp [wordKinds])
  refine ⟨r, built, words, words.alone "'n9't" ⟨'\'', ['n', '9', '\'', 't'], by decide, by decide, ?_⟩⟩
  simp [WordKind.apostrophes, isNameChar]

end Registry

end Highlighter
