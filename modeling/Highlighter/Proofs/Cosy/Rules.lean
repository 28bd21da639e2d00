import Highlighter.Proofs.Language.LongestMatch
import Highlighter.Proofs.Pattern.Literals
import Highlighter.Proofs.Registry

/-!
The rules of Cosy as patterns (`readings_rules`), in groups: white space and comments, the reserved words, punctuation
and operators, calls, names, numbers and literals. A token that is no plain text is what the first of them to match
makes of its text (`firstMatch?_of_category`).

Characters in Cosy. Only their rule begins with an apostrophe (`firstMatch?_apostrophe`), and it prefers one character
between apostrophes to a backslash and a character (`matchLength?_character`). So an apostrophe behind a backslash
ends the literal, where every other character behind one belongs to it.
-/

namespace Highlighter.Cosy

/-! ## The rules -/

open Pattern

/-- The reserved words. -/
def keywords : List String := ["def", "let", "struct", "fn", "for", "in", "if", "else"]

/-- The reserved words that stand for types. -/
def typeWords : List String := ["self", "type", "bool", "char", "string", "void", "nothing"]

/-- How many bits an integer can have. -/
def integerWidths : List String := ["8", "16", "32", "64", "128", "size"]

/-- How many bits a float can have. -/
def floatWidths : List String := ["32", "64", "128"]

/-- The letters and numbers of which names are made. -/
def nameChars : CharSet := .union (.property .letter) (.property .number)

/-- The set of some characters. -/
def signs (c : Char) (others : String) : CharSet :=
  others.toList.foldl (fun set d => .union set (.single d)) (.single c)

/-- Every character but the line feed. -/
def inLine : CharSet := .compl (.single '\n')

/-- Some words with a word boundary behind them. -/
def wholeWord (words : List String) : Pattern := seq (oneOf words) (assertion .wordBoundary)

/-- A letter and a width, with word boundaries on both sides. -/
def sized (letters : CharSet) (widths : List String) : Pattern :=
  seq (seq (seq (assertion .wordBoundary) (set letters)) (oneOf widths)) (assertion .wordBoundary)

/-- A name, or none, and white space with an exclamation mark behind it. -/
def call : Pattern :=
  seq (seq (star .more (set nameChars)) (star .more (set (.property .whiteSpace)))) (char '!')

/-- A letter with some property, and letters and numbers behind it. -/
def name (first : CharProperty) : Pattern := seq (set (.property first)) (star .more (set nameChars))

/-- Text between two marks. -/
def quoted (mark : Char) : Pattern := seq (seq (char mark) (star .more (set (.compl (.single mark))))) (char mark)

/-- One character, or a backslash and one character, between apostrophes. -/
def character : Pattern := seq (seq (char '\'') (either (set inLine) (seq (char '\\') (set inLine)))) (char '\'')

/-! ### The patterns of the rules -/

def spaceReadings : List (Pattern × Action) :=
  [(oneOrMore .more (set (.property .whiteSpace)), .emit .whitespace),
   (seq (seq (char '-') (char '-')) (star .more (set inLine)), .emit .commentLine)]

def reservedReadings : List (Pattern × Action) :=
  [(either (wholeWord keywords) (char '_'), .emit .keyword),
   (sized (signs 'i' "u") integerWidths, .emit .keywordType),
   (sized (.single 'f') floatWidths, .emit .keywordType),
   (wholeWord typeWords, .emit .keywordType)]

def markReadings : List (Pattern × Action) :=
  [(set (signs '(' ")[]\x7b\x7d#;,"), .emit .punctuation),
   (set (signs '*' "/!@~&+%|^<>=?-:."), .emit .operator)]

def numberReadings : List (Pattern × Action) :=
  [(decimal, .emit .numberFloat), (digits, .emit .numberInteger)]

/-- The patterns of all rules, with what is made of their matches. -/
def readings : List (Pattern × Action) :=
  spaceReadings ++ (reservedReadings ++ (markReadings ++
    (call, .emit .nameBuiltin) :: (name .uppercase, .emit .keywordType) :: (name .lowercase, .emit .name) ::
      (numberReadings ++
        [(quoted '"', .emit .string), (character, .emit .stringChar), (quoted '`', .emit .stringOther)])))

theorem parse_rules : rules.map (fun r => Pattern.parse? r.pattern) = readings.map (some ·.1) := by decide +kernel

theorem readings_rules : Table.readings rules = readings := Table.readings_eq parse_rules rfl

/-- The rules for reserved words and primitive types. -/
def reservedRules : List Table.Rule :=
  [.token "(?:def|let|struct|fn|for|in|if|else)\\b|_" .keyword,
   .token "\\b[iu](?:8|16|32|64|128|size)\\b" .keywordType,
   .token "\\bf(?:32|64|128)\\b" .keywordType,
   .token "(?:self|type|bool|char|string|void|nothing)\\b" .keywordType]

theorem reservedRules_eq : reservedRules = (rules.drop spaceReadings.length).take reservedReadings.length := rfl

theorem readings_reservedRules : Table.readings reservedRules = reservedReadings := by
  apply Table.readings_eq
  · rw [reservedRules_eq, List.map_take, List.map_drop, parse_rules]
    rfl
  · rfl

theorem emitted_readings : ∀ x ∈ readings, ∃ category, x.2 = .emit category := by
  simp [readings, spaceReadings, reservedReadings, markReadings, numberReadings]

/-- Only plain text is made without a match. -/
theorem firstMatch?_of_category {t : Token} {before : Option Char} {behind : List Char}
    (made : MadeBy readings before behind t) {category : Category} (same : t.category = category)
    (coloured : category ≠ .plainText) :
    firstMatch? readings before (t.text.toList ++ behind) = some (.emit category, t.text.toList.length) := by
  cases made with
  | plain full missing plain => exact absurd (same.symm.trans plain) coloured
  | @matched action full found own =>
    obtain ⟨p, listed, -⟩ := exists_of_firstMatch? found
    obtain ⟨other, rfl⟩ := emitted_readings (p, action) listed
    obtain rfl : t.category = other := own
    rw [found, same]

/-- What holds of all that the rules make holds of every token of every source. -/
theorem everyToken (listing : Listing) {P : String → Token → String → Prop}
    (each : ∀ front t back, MadeBy readings front.toList.getLast? back.toList t → P front t back) :
    ∃ r, Registry.ofListing listing = .ok r ∧ (r.findOrPlain "cosy").EveryToken P := by
  have still : ∀ r ∈ rules, r.transition = none := by simp [rules, Table.Rule.token]
  rw [← readings_rules] at each
  obtain ⟨r, built, -⟩ := Registry.exists_ofListing listing
  have table : Registry.tableFor listing "cosy" = .single language rules := rfl
  exact ⟨r, built, Registry.everyToken_of_tableFor built table still each⟩

/-! ## Characters in apostrophes -/

theorem contains_inLine (c : Char) : inLine.contains c = (c != '\n') := CharSet.contains_compl_single '\n' c

theorem apart_apostrophe :
    beginsApart (readings.take 14 ++ readings.drop 15) (.single '\'') = true := by decide +kernel

section
variable {before : Option Char} {rest : List Char} {c : Char}

/-- Where an apostrophe stands, no rule matches but that for characters. -/
theorem firstMatch?_apostrophe : firstMatch? readings before ('\'' :: rest) =
    (character.matchLength? before ('\'' :: rest)).map (.emit .stringChar, ·) := by
  have split : readings = readings.take 14 ++ (character, .emit .stringChar) :: readings.drop 15 := rfl
  have others := firstMatch?_of_beginsApart apart_apostrophe (c := '\'') (by decide) before rest
  rw [firstMatch?_append, Option.or_eq_none_iff] at others
  rw [split, firstMatch?_append, others.1, Option.none_or, firstMatch?_cons, others.2, Option.or_none]

/-- One character between apostrophes is preferred to two, of which the first is a backslash. -/
theorem matchLength?_character (inside : c ≠ '\n') :
    character.matchLength? before ('\'' :: c :: '\'' :: rest) = some 3 := by
  rw [matchLength?_eq_search, character]
  simp [search, char, contains_inLine, CharSet.contains_single, inside]

theorem matchLength?_escaped (inside : c ≠ '\n') (other : c ≠ '\'') :
    character.matchLength? before ('\'' :: '\\' :: c :: '\'' :: rest) = some 4 := by
  rw [matchLength?_eq_search, character]
  simp [search, char, contains_inLine, CharSet.contains_single, inside, other]

end

/-- A token that begins with an apostrophe is a character literal, if one character or a backslash and a character stand
    before the next apostrophe. A backslash alone counts as such a character. -/
structure CharactersClosed (t : Token) (back : String) : Prop where
  one : ∀ c rest, c ≠ '\n' → (t.text ++ back).toList = '\'' :: c :: '\'' :: rest →
    t.category = .stringChar ∧ t.text.toList = ['\'', c, '\'']
  escaped : ∀ c rest, c ≠ '\n' → c ≠ '\'' → (t.text ++ back).toList = '\'' :: '\\' :: c :: '\'' :: rest →
    t.category = .stringChar ∧ t.text.toList = ['\'', '\\', c, '\'']

theorem charactersClosed {front back : String} {t : Token}
    (made : MadeBy readings front.toList.getLast? back.toList t) : CharactersClosed t back := by
  -- A match of so many characters is a token of them.
  have closed (cs rest : List Char) (same : (t.text ++ back).toList = '\'' :: (cs ++ rest))
      (matched : character.matchLength? front.toList.getLast? ('\'' :: (cs ++ rest)) = some (cs.length + 1)) :
      t.category = .stringChar ∧ t.text.toList = '\'' :: cs := by
    rw [String.toList_append] at same
    have first : firstMatch? readings front.toList.getLast? (t.text.toList ++ back.toList) =
        some (.emit .stringChar, cs.length + 1) := by
      rw [same, firstMatch?_apostrophe, matched, Option.map_some]
    obtain ⟨category, length⟩ := made.of_firstMatch? first
    have split : t.text.toList ++ back.toList = ('\'' :: cs) ++ rest := same
    exact ⟨category, (List.append_inj split length).1⟩
  constructor
  · intro c rest inside same
    exact closed [c, '\''] rest same (matchLength?_character inside)
  · intro c rest inside other same
    exact closed ['\\', c, '\''] rest same (matchLength?_escaped inside other)

/-- At every token of every source, one character between apostrophes is a literal, and so is a backslash and a
    character, unless this is an apostrophe itself. -/
theorem characters_of_listing : ∀ listing, ∃ r, Registry.ofListing listing = .ok r ∧
    (r.findOrPlain "cosy").EveryToken fun _ t back => CharactersClosed t back :=
  fun listing => everyToken listing fun _ _ _ => charactersClosed

/-- A backslash and a backslash make one literal, behind which the next begins. -/
theorem characters_of_listing_backslash : ∃ r, Registry.ofListing .empty = .ok r ∧
    r.lex "cosy" "'\\\\''x'" = .ok [⟨.stringChar, "'\\\\'", 0, 4⟩, ⟨.stringChar, "'x'", 4, 7⟩] ∧
    CharactersClosed ⟨.stringChar, "'\\\\'", 0, 4⟩ "'x'" := by
  obtain ⟨r, built, every⟩ := characters_of_listing .empty
  have whole : r.lex "cosy" "'\\\\''x'" =
      .ok [⟨.stringChar, "'\\\\'", 0, 4⟩, ⟨.stringChar, "'x'", 4, 7⟩] :=
    Registry.lex_eq_of_tableFor built (by decide +kernel)
  have between : Token.Between ⟨.stringChar, "'\\\\'", 0, 4⟩ "'\\\\''x'" "" "'x'" := ⟨by decide, by decide⟩
  exact ⟨r, built, whole, every.holds whole (by simp) between⟩

/-- An apostrophe behind a backslash ends the literal, so not all literals of a backslash and a character are closed. -/
theorem not_escaped_apostrophe : ∃ r, Registry.ofListing .empty = .ok r ∧
    r.lex "cosy" "'\\''" = .ok [⟨.stringChar, "'\\'", 0, 3⟩, ⟨.plainText, "'", 3, 4⟩] ∧
    ¬ (r.findOrPlain "cosy").EveryToken fun _ t back => ∀ c rest, c ≠ '\n' →
      (t.text ++ back).toList = '\'' :: '\\' :: c :: '\'' :: rest → t.text.toList = ['\'', '\\', c, '\''] := by
  obtain ⟨r, built, -⟩ := Registry.exists_ofListing .empty
  have whole : r.lex "cosy" "'\\''" = .ok [⟨.stringChar, "'\\'", 0, 3⟩, ⟨.plainText, "'", 3, 4⟩] :=
    Registry.lex_eq_of_tableFor built (by decide +kernel)
  refine ⟨r, built, whole, fun every => ?_⟩
  have between : Token.Between ⟨.stringChar, "'\\'", 0, 3⟩ "'\\''" "" "'" := ⟨by decide, by decide⟩
  have text := every.holds whole (by simp) between '\'' [] (by decide) (by decide)
  exact absurd text (by decide)

end Highlighter.Cosy
