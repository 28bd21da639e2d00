import Highlighter.Proofs.Language.Comments
import Highlighter.Proofs.Language.FallThrough
import Highlighter.Proofs.Language.Neighbours
import Highlighter.Proofs.Lexer.Characters
import Highlighter.Proofs.Pattern.Literals

/-!
Line feeds in the tokens of the GameMaker Language, and where its comments and strings end. A comment of a line, and a
string in quotation marks that is not closed, go on to the next line feed; a string behind `@` goes on to the next
apostrophe (`literalsEnd`). So besides white space and block comments only these strings have line feeds
(`lineEnds_of_listing`).

Literals that begin and end with one mark, in Cosy, Catspeak and KatScript. Where the second mark may be missing, a mark
always begins a literal, which then goes on to the end of the source; where it may not, a mark with no other behind it is
plain text (`quotations_of_listing`).
-/

namespace Highlighter

/-! ## Where literals end -/

namespace Gml
open Pattern

/-- Two slashes and the rest of their line. -/
def lineComment : Pattern := opened ['/', '/'] (.compl (.single '\n'))

/-- Every character but the quotation mark and the line feed. -/
def inQuotes : CharSet := .compl (.union (.single '"') (.single '\n'))

/-- A quotation mark and what follows it up to the next, or up to the end of the line. -/
def quotedLine : Pattern := seq (opened ['"'] inQuotes) (optional .more (char '"'))

/-- What stands between `@'` and the next apostrophe. -/
def verbatim : Pattern := seq (opened ['@', '\''] (.compl (.single '\''))) (char '\'')

theorem contains_inQuotes (c : Char) : inQuotes.contains c = (c != '"' && c != '\n') := by
  rw [inQuotes, CharSet.contains, CharSet.contains_union, CharSet.contains_single, CharSet.contains_single, Bool.not_or]
  rfl

/-! ### Rules for comments and strings -/

theorem onlyFrom_lineComment (k : Classifier) : Table.OnlyFrom (rules k) .commentLine [lineComment] := by
  have parsed : Pattern.parse? "//[^\\n]*" = some lineComment := by decide
  have words : ∀ word, k.classify word ≠ .commentLine := classify_ne (by decide) k
  simp [rules, parsed, words]

theorem onlyFrom_string (k : Classifier) : Table.OnlyFrom (rules k) .string [quotedLine, verbatim] := by
  have quoted : Pattern.parse? "\"[^\"\\n]*\"?" = some quotedLine := by decide
  have behindAt : Pattern.parse? "@'[^']*'" = some verbatim := by decide
  have words : ∀ word, k.classify word ≠ .string := classify_ne (by decide) k
  simp [rules, quoted, behindAt, words]

theorem usedOnlyIn_lineFeed (k : Classifier) :
    usedOnlyIn (Table.readings (rules k)) [.whitespace, .commentBlock, .string] '\n' = true := by
  have fixed : usedOnlyIn (Table.readings fixedRules) [.whitespace, .commentBlock, .string] '\n' = true := by
    decide +kernel
  rw [rules_eq, Table.readings_append, Table.readings_classified parse_words, usedOnlyIn, List.all_append,
    Bool.and_eq_true]
  exact ⟨fixed, rfl⟩

/-! ### Where comments and strings end -/

/-- Only a line feed can stand behind. -/
def EndsLine (back : String) : Prop := ∀ c ∈ back.toList.head?, c = '\n'

/-- A comment of a line goes on to the end of the line. A string does so too, or is closed before by a quotation mark,
    or else begins with `@'` and ends with the next apostrophe. -/
structure LiteralsEnd (t : Token) (back : String) : Prop where
  comment : t.category = .commentLine → EndsLine back
  string : t.category = .string → Encloses ['@', '\''] '\'' t.text.toList ∨ '\n' ∉ t.text.toList ∧
    (Encloses ['"'] '"' t.text.toList ∨ LeavesOpen ['"'] '"' t.text.toList ∧ EndsLine back)

/-- The token is white space, a block comment or a string that begins with `@'`. -/
def HoldsLineFeed (t : Token) : Prop :=
  t.category = .whitespace ∨ t.category = .commentBlock ∨ t.category = .string ∧ ['@', '\''] <+: t.text.toList

section
variable {before : Option Char} {text tail : List Char}

theorem endsLine_of_lineComment (found : lineComment.matchLength? before (text ++ tail) = some text.length) :
    ∀ c ∈ tail.head?, c = '\n' := by
  obtain ⟨_, _, _, ended⟩ := exists_of_run found
  intro c first
  simpa [CharSet.contains_compl_single] using ended c first

theorem encloses_of_verbatim (found : verbatim.matchLength? before (text ++ tail) = some text.length) :
    Encloses ['@', '\''] '\'' text := by
  obtain ⟨body, same, within⟩ := exists_of_closed (by decide) found
  exact ⟨body, same, within_compl_single.mp within⟩

theorem line_of_quotedLine (found : quotedLine.matchLength? before (text ++ tail) = some text.length) :
    '\n' ∉ text ∧ (Encloses ['"'] '"' text ∨ LeavesOpen ['"'] '"' text ∧ ∀ c ∈ tail.head?, c = '\n') := by
  obtain ⟨body, within, ending⟩ := exists_of_closable found
  have free : '"' ∉ body ∧ '\n' ∉ body := by
    constructor <;> intro member <;> simpa [contains_inQuotes] using within _ member
  rcases ending with rfl | ⟨rfl, ended⟩
  · exact ⟨by simpa using free.2, .inl ⟨body, rfl, free.1⟩⟩
  · refine ⟨by simpa using free.2, .inr ⟨⟨body, rfl, free.1⟩, fun c first => ?_⟩⟩
    obtain ⟨outside, other⟩ := ended c first
    simpa [contains_inQuotes, other] using outside

end

theorem literalsEnd {k : Classifier} {front back : String} {t : Token}
    (made : MadeBy (Table.readings (rules k)) front.toList.getLast? back.toList t) : LiteralsEnd t back := by
  constructor
  · intro comment
    obtain ⟨p, listed, found⟩ := made.exists_pattern (onlyFrom_lineComment k) (by decide) comment
    obtain rfl := List.mem_singleton.mp listed
    exact endsLine_of_lineComment found
  · intro string
    obtain ⟨p, listed, found⟩ := made.exists_pattern (onlyFrom_string k) (by decide) string
    rcases List.mem_pair.mp listed with rfl | rfl
    · exact .inr (line_of_quotedLine found)
    · exact .inl (encloses_of_verbatim found)

/-- A line feed is white space where nothing has begun before it that goes on over line feeds. -/
theorem mem_of_lineFeed {k : Classifier} {before behind : List Char} {t : Token}
    (held : HeldBy (Table.readings (rules k)) before '\n' behind t) :
    t.category ∈ [.whitespace, .commentBlock, .string] := by
  rcases held.mem_or_missing (usedOnlyIn_lineFeed k) with listed | missing
  · exact listed
  · have none := firstMatch?_readings_eq_none_iff.mp missing spaces (spaces_mem_rules k)
    exact absurd none (matchLength?_spaces_lineFeed before.getLast? behind)

theorem LiteralsEnd.holdsLineFeed {t : Token} {back : String} (ends : LiteralsEnd t back)
    (member : '\n' ∈ t.text.toList) (category : t.category ∈ [.whitespace, .commentBlock, .string]) :
    HoldsLineFeed t := by
  simp only [List.mem_cons, List.not_mem_nil, or_false] at category
  refine category.imp_right (Or.imp_right fun string => ⟨string, ?_⟩)
  rcases ends.string string with ⟨body, same, -⟩ | ⟨free, -⟩
  · rw [same]
    exact List.prefix_append _ _
  · exact absurd member free

end Gml

namespace Registry

/-- In the GameMaker Language and its extension, comments of a line and strings that are not closed end with their lines,
    strings behind `@` with the next apostrophe, and line feeds stand in these strings, in block comments and in white
    space only. -/
theorem lineEnds_of_listing : ∀ listing, ∃ r, ofListing listing = .ok r ∧ ∀ name ∈ gmlNames,
    (r.findOrPlain name).EveryToken (fun _ t back => Gml.LiteralsEnd t back) ∧
      (r.findOrPlain name).EveryCharacter fun _ c _ t => c = '\n' → Gml.HoldsLineFeed t := by
  intro listing
  obtain ⟨r, built, -⟩ := exists_ofListing listing
  refine ⟨r, built, fun name member => ?_⟩
  obtain ⟨language, k, table⟩ := exists_rules listing name member
  have tokens := everyToken_of_tableFor built table (Gml.still_rules k) fun _ _ _ => Gml.literalsEnd
  have characters := everyCharacter_of_tableFor built table (Gml.still_rules k) (P := HeldBy _) fun _ _ _ _ held => held
  refine ⟨tokens, (characters.and_token tokens).imp ?_⟩
  rintro before c behind t ⟨held, member, _, back, ends⟩ rfl
  exact ends.holdsLineFeed member (Gml.mem_of_lineFeed held)

/-- A string that is not closed ends with its line, and the one behind `@` goes on to the next line. -/
theorem lineEnds_of_listing_verbatim : ∃ r, ofListing .empty = .ok r ∧
    r.lex "gml" "\"é//\n@'\n\"'//\"" = .ok [⟨.string, "\"é//", 0, 5⟩, ⟨.whitespace, "\n", 5, 6⟩,
      ⟨.string, "@'\n\"'", 6, 11⟩, ⟨.commentLine, "//\"", 11, 14⟩] ∧
    Gml.LiteralsEnd ⟨.string, "\"é//", 0, 5⟩ "\n@'\n\"'//\"" ∧ Gml.HoldsLineFeed ⟨.string, "@'\n\"'", 6, 11⟩ := by
  obtain ⟨r, built, ends⟩ := lineEnds_of_listing .empty
  obtain ⟨tokens, characters⟩ := ends "gml" (by simp [gmlNames])
  have whole : r.lex "gml" "\"é//\n@'\n\"'//\"" = .ok [⟨.string, "\"é//", 0, 5⟩, ⟨.whitespace, "\n", 5, 6⟩,
      ⟨.string, "@'\n\"'", 6, 11⟩, ⟨.commentLine, "//\"", 11, 14⟩] := lex_eq_of_tableFor built (by decide +kernel)
  have between : Token.Between ⟨.string, "\"é//", 0, 5⟩ "\"é//\n@'\n\"'//\"" "" "\n@'\n\"'//\"" :=
    ⟨by decide, by decide⟩
  have split : "\"é//\n@'\n\"'//\"".toList = "\"é//\n@'".toList ++ '\n' :: "\"'//\"".toList := by decide
  refine ⟨r, built, whole, tokens.holds whole List.mem_cons_self between, ?_⟩
  exact characters.holds whole split (by simp) ⟨by decide, by decide⟩ rfl

end Registry

/-! ## Marks and what they enclose -/

open Pattern

/-- A kind of literals that begin and end with one mark. -/
structure Quotation where
  /-- The name of the language. -/
  name : String
  /-- The category of the literals. -/
  category : Category
  mark : Char
  /-- Whether the second mark may be missing. -/
  lenient : Bool

namespace Quotation
variable {q : Quotation}

/-- The kinds of literals in Catspeak, KatScript and Cosy. -/
def all : List Quotation :=
  [⟨"catspeak", .string, '"', true⟩, ⟨"katscript", .string, '"', true⟩, ⟨"cosy", .string, '"', false⟩,
    ⟨"cosy", .stringOther, '`', false⟩, ⟨"catspeak", .nameVariableMagic, '`', false⟩]

/-- The pattern of the literals. -/
def pattern (q : Quotation) : Pattern :=
  seq (opened [q.mark] (.compl (.single q.mark)))
    (if q.lenient then Pattern.optional .more (char q.mark) else char q.mark)

/-- A token of such literals ends with the first mark behind that with which it begins, or else with the source. -/
def Ends (q : Quotation) (t : Token) (back : String) : Prop :=
  t.category = q.category → Encloses [q.mark] q.mark t.text.toList ∨
    q.lenient = true ∧ LeavesOpen [q.mark] q.mark t.text.toList ∧ back = ""

/-- A mark is plain text only where it needs a second one and none is left. -/
def Strays (q : Quotation) (c : Char) (behind : List Char) (t : Token) : Prop :=
  c = q.mark → t.category = .plainText → q.lenient = false ∧ q.mark ∉ behind

/-! ### Matches of literals -/

theorem not_contains_mark (mark : Char) : (CharSet.compl (.single mark)).contains mark = false := by
  simp [CharSet.contains_compl_single]

theorem ends_of_match {before : Option Char} {text tail : List Char}
    (found : q.pattern.matchLength? before (text ++ tail) = some text.length) :
    Encloses [q.mark] q.mark text ∨ q.lenient = true ∧ LeavesOpen [q.mark] q.mark text ∧ tail = [] := by
  rw [pattern] at found
  split at found
  next lenient =>
    obtain ⟨body, within, ending⟩ := exists_of_closable found
    have free := within_compl_single.mp within
    rcases ending with closed | ⟨left, ended⟩
    · exact .inl ⟨body, closed, free⟩
    · refine .inr ⟨lenient, ⟨body, left, free⟩, List.head?_eq_none_iff.mp (Option.eq_none_iff_forall_not_mem.mpr ?_)⟩
      -- The run goes on over all characters but the mark, so none stands behind it.
      intro c first
      obtain ⟨outside, other⟩ := ended c first
      simp [CharSet.contains_compl_single, other] at outside
  next =>
    obtain ⟨body, closed, within⟩ := exists_of_closed (not_contains_mark q.mark) found
    exact .inl ⟨body, closed, within_compl_single.mp within⟩

theorem matchLength?_lenient (lenient : q.lenient = true) (before : Option Char) (rest : List Char) :
    q.pattern.matchLength? before (q.mark :: rest) ≠ none := by
  have certain : (CharSet.single q.mark).contains q.mark = true := by simp [CharSet.contains_single]
  rw [pattern, if_pos lenient, ← Option.isSome_iff_ne_none]
  refine matchLength?_of_certain ?_ before rest
  exact certain

theorem matchLength?_strict (strict : q.lenient = false) {rest : List Char} (closed : q.mark ∈ rest)
    (before : Option Char) : q.pattern.matchLength? before (q.mark :: rest) ≠ none := by
  obtain ⟨u, v, rfl, free⟩ := List.eq_append_cons_of_mem closed
  have found := matchLength?_closed (w := [q.mark]) (not_contains_mark q.mark) before (within_compl_single.mpr free) v
  rw [pattern, strict]
  exact fun missing => Option.some_ne_none _ (found.symm.trans missing)

theorem ends_of_madeBy {rules : List Table.Rule} (only : Table.OnlyFrom rules q.category [q.pattern])
    (coloured : q.category ≠ .plainText) {before : Option Char} {back : String} {t : Token}
    (made : MadeBy (Table.readings rules) before back.toList t) : q.Ends t back := by
  intro category
  obtain ⟨p, listed, found⟩ := made.exists_pattern only coloured category
  obtain rfl := List.mem_singleton.mp listed
  rcases ends_of_match found with closed | ⟨lenient, left, ended⟩
  · exact .inl closed
  · exact .inr ⟨lenient, left, String.toList_eq_nil_iff.mp ended⟩

theorem strays_of_heldBy {rules : List Table.Rule} (coloured : ∀ r ∈ rules, r.Coloured)
    (listed : q.pattern ∈ Table.patternsOf rules) {before behind : List Char} {c : Char} {t : Token}
    (held : HeldBy (Table.readings rules) before c behind t) : q.Strays c behind t := by
  rintro rfl plain
  have missing := firstMatch?_readings_eq_none_iff.mp (held.missing_of_plainText coloured plain) _ listed
  have strict : q.lenient = false := by
    rw [Bool.eq_false_iff]
    exact fun lenient => matchLength?_lenient lenient _ _ missing
  exact ⟨strict, fun closed => matchLength?_strict strict closed _ missing⟩

/-! ### Languages -/

/-- A rule makes such literals, and no other rule makes tokens of their category. -/
structure Ruled (q : Quotation) (rules : List Table.Rule) : Prop where
  coloured : q.category ≠ .plainText
  only : Table.OnlyFrom rules q.category [q.pattern]
  listed : q.pattern ∈ Table.patternsOf rules

theorem ruled_of_mem {rules : List Table.Rule} {text : String} (parsed : Pattern.parse? text = some q.pattern)
    (coloured : q.category ≠ .plainText) (only : Table.OnlyFrom rules q.category [q.pattern])
    (member : Table.Rule.token text q.category ∈ rules) : q.Ruled rules where
  coloured := coloured
  only := only
  listed := List.mem_filterMap.mpr ⟨text, List.mem_map_of_mem member, parsed⟩

theorem ruled_catspeak : Ruled ⟨"catspeak", .string, '"', true⟩ Catspeak.rules ∧
    Ruled ⟨"catspeak", .nameVariableMagic, '`', false⟩ Catspeak.rules := by
  have string : Pattern.parse? "\"[^\"]*\"?" = some (pattern ⟨"catspeak", .string, '"', true⟩) := by decide
  have magic : Pattern.parse? "`[^`]*`" = some (pattern ⟨"catspeak", .nameVariableMagic, '`', false⟩) := by decide
  have noString : ∀ word, Catspeak.classify word ≠ .string := Catspeak.classify_ne (by decide)
  have noMagic : ∀ word, Catspeak.classify word ≠ .nameVariableMagic := Catspeak.classify_ne (by decide)
  constructor
  · exact ruled_of_mem string (by simp) (by simp [Catspeak.rules, string, noString]) (by simp [Catspeak.rules])
  · exact ruled_of_mem magic (by simp) (by simp [Catspeak.rules, magic, noMagic]) (by simp [Catspeak.rules])

theorem ruled_katScript : Ruled ⟨"katscript", .string, '"', true⟩ KatScript.rules := by
  have string : Pattern.parse? "\"[^\"]*\"?" = some (pattern ⟨"katscript", .string, '"', true⟩) := by decide
  have noString : ∀ word, KatScript.classify word ≠ .string := KatScript.classify_ne (by decide)
  exact ruled_of_mem string (by simp) (by simp [KatScript.rules, string, noString]) (by simp [KatScript.rules])

theorem ruled_cosy : Ruled ⟨"cosy", .string, '"', false⟩ Cosy.rules ∧
    Ruled ⟨"cosy", .stringOther, '`', false⟩ Cosy.rules := by
  have string : Pattern.parse? "\"[^\"]*\"" = some (pattern ⟨"cosy", .string, '"', false⟩) := by decide
  have other : Pattern.parse? "`[^`]*`" = some (pattern ⟨"cosy", .stringOther, '`', false⟩) := by decide
  constructor
  · exact ruled_of_mem string (by simp) (by simp [Cosy.rules, string]) (by simp [Cosy.rules])
  · exact ruled_of_mem other (by simp) (by simp [Cosy.rules, other]) (by simp [Cosy.rules])

theorem exists_rules (listing : Listing) :
    ∀ q ∈ all, ∃ language rules, Registry.tableFor listing q.name = .single language rules ∧ q.Ruled rules := by
  simp only [all, List.forall_mem_cons, List.not_mem_nil, false_implies, implies_true, and_true]
  refine ⟨?_, ?_, ?_, ?_, ?_⟩
  · exact ⟨Catspeak.language, Catspeak.rules, rfl, ruled_catspeak.1⟩
  · exact ⟨KatScript.language, KatScript.rules, rfl, ruled_katScript⟩
  · exact ⟨Cosy.language, Cosy.rules, rfl, ruled_cosy.1⟩
  · exact ⟨Cosy.language, Cosy.rules, rfl, ruled_cosy.2⟩
  · exact ⟨Catspeak.language, Catspeak.rules, rfl, ruled_catspeak.2⟩

/-- Literals between two marks end with the first mark behind their beginning, or where this may be missing with the
    source, and a mark is plain text only where it needs another and is the last of the source. -/
theorem quotations_of_listing : ∀ listing, ∃ r, Registry.ofListing listing = .ok r ∧
    ∀ q ∈ all, (r.findOrPlain q.name).EveryToken (fun _ t back => q.Ends t back) ∧
      (r.findOrPlain q.name).EveryCharacter fun _ c behind t => q.Strays c behind t := by
  intro listing
  obtain ⟨r, built, -⟩ := Registry.exists_ofListing listing
  refine ⟨r, built, fun q member => ?_⟩
  obtain ⟨language, rules, table, ruled⟩ := exists_rules listing q member
  obtain ⟨still, coloured⟩ := Registry.still_coloured_of_tableFor table
  constructor
  · exact Registry.everyToken_of_tableFor built table still fun _ _ _ => ends_of_madeBy ruled.only ruled.coloured
  · exact Registry.everyCharacter_of_tableFor built table still fun _ _ _ _ => strays_of_heldBy coloured ruled.listed

/-- In Cosy a mark without another behind it is plain text, and in Catspeak a string goes on from it to the end. -/
theorem quotations_of_listing_last : ∃ r, Registry.ofListing .empty = .ok r ∧
    r.lex "cosy" "\"`\"`é\"" = .ok [⟨.string, "\"`\"", 0, 3⟩, ⟨.plainText, "`", 3, 4⟩, ⟨.name, "é", 4, 6⟩,
      ⟨.plainText, "\"", 6, 7⟩] ∧
    r.lex "catspeak" "``\"`é" = .ok [⟨.nameVariableMagic, "``", 0, 2⟩, ⟨.string, "\"`é", 2, 6⟩] ∧
    Strays ⟨"cosy", .stringOther, '`', false⟩ '`' ['é', '"'] ⟨.plainText, "`", 3, 4⟩ ∧
    Ends ⟨"catspeak", .string, '"', true⟩ ⟨.string, "\"`é", 2, 6⟩ "" := by
  obtain ⟨r, built, every⟩ := quotations_of_listing .empty
  have inCosy : r.lex "cosy" "\"`\"`é\"" = .ok [⟨.string, "\"`\"", 0, 3⟩, ⟨.plainText, "`", 3, 4⟩, ⟨.name, "é", 4, 6⟩,
      ⟨.plainText, "\"", 6, 7⟩] := Registry.lex_eq_of_tableFor built (by decide +kernel)
  have inCatspeak : r.lex "catspeak" "``\"`é" = .ok [⟨.nameVariableMagic, "``", 0, 2⟩, ⟨.string, "\"`é", 2, 6⟩] :=
    Registry.lex_eq_of_tableFor built (by decide +kernel)
  have split : "\"`\"`é\"".toList = "\"`\"".toList ++ '`' :: ['é', '"'] := by decide
  have between : Token.Between ⟨.string, "\"`é", 2, 6⟩ "``\"`é" "``" "" := ⟨by decide, by decide⟩
  obtain ⟨-, strays⟩ := every ⟨"cosy", .stringOther, '`', false⟩ (by simp [all])
  obtain ⟨ends, -⟩ := every ⟨"catspeak", .string, '"', true⟩ (by simp [all])
  refine ⟨r, built, inCosy, inCatspeak, ?_, ends.holds inCatspeak (by simp) between⟩
  exact strays.holds inCosy split (by simp) ⟨by decide, by decide⟩

end Quotation

end Highlighter
