import Highlighter.Proofs.Cosy.Rules
import Highlighter.Proofs.Language.Words
import Highlighter.Proofs.Lexer.Characters

/-!
Comments of a line in Cosy, Catspeak and KatScript. Two dashes open one wherever the first of them begins a token
(`firstMatch?_dashes`), and no match goes on with a dash but those of comments and quoted texts (`opensOutside_dash`),
and in KatScript those of annotations, which end in a run of operators. So outside of these all dashes side by side
open comments (`lineComments_of_listing`).

Comments between `/*` and `*/` in the GameMaker Language. No rules but theirs and that for operators match where one
is opened (`firstMatch?_opener`). Their pattern takes no star between the two marks, so it matches where `*/` follows
the characters up to the next star (`matchLength?_blockComment`). A comment with a star in it is not found, and its
first token is the slash.
-/

namespace Highlighter

/-! ## Line comments -/

open Pattern

/-- The rules with which the three languages begin: those for white space and for comments. -/
def commentRules : List Table.Rule := [.token "\\s+" .whitespace, .token "--[^\\n]*" .commentLine]

theorem readings_commentRules : Table.readings commentRules = Cosy.spaceReadings := by
  have first : commentRules = Cosy.rules.take 2 := rfl
  apply Table.readings_eq
  · rw [first, List.map_take, Cosy.parse_rules]
    rfl
  · rfl

section
variable (before : Option Char) (rest : List Char)

theorem takeWhile_inLine : rest.takeWhile Cosy.inLine.contains = rest.takeWhile (· != '\n') :=
  congrArg (List.takeWhile · rest) (funext Cosy.contains_inLine)

/-- Two dashes are the first match with the rest of their line. -/
theorem firstMatch?_dashes (others : List Table.Rule) :
    firstMatch? (Table.readings (commentRules ++ others)) before ('-' :: '-' :: rest) =
      some (.emit .commentLine, (rest.takeWhile (· != '\n')).length + 2) := by
  have space : (oneOrMore .more (set (.property .whiteSpace))).matchLength? before ('-' :: '-' :: rest) = none := by
    apply matchLength?_of_opening
    · rfl
    · decide
  have comment : (seq (seq (char '-') (char '-')) (star .more (set Cosy.inLine))).matchLength? before
      ('-' :: '-' :: rest) = some ((rest.takeWhile (· != '\n')).length + 2) := by
    rw [matchLength?_eq_search, search, search, search_char_cons, if_pos rfl, search_char_cons, if_pos rfl,
      search_star_greedy (k := fun e => some e.used) rfl, ← takeWhile_inLine]
    simp [runLength, Nat.add_comm]
  rw [Table.readings_append, readings_commentRules, firstMatch?_append, Cosy.spaceReadings, firstMatch?_cons, space,
    firstMatch?_cons, comment]
  rfl

theorem take_dashes : ('-' :: '-' :: rest).take ((rest.takeWhile (· != '\n')).length + 2) =
    '-' :: ('-' :: rest).takeWhile (· != '\n') := by
  have line := List.prefix_iff_eq_take.mp (List.takeWhile_prefix (· != '\n') (l := rest))
  simp [← line]

end

/-- Where two dashes stand, the token that has the first one begins with it and is a comment to the end of the line,
    unless a token of some categories has begun before. -/
def OpensComment (categories : List Category) (before : List Char) (c : Char) (behind : List Char) (t : Token) : Prop :=
  c = '-' → behind.head? = some '-' →
    t.start < byteLength before ∧ t.category ∈ categories ∨
      t.start = byteLength before ∧ t.category = .commentLine ∧ t.text.toList = '-' :: behind.takeWhile (· != '\n')

/-- The categories of comments and quoted texts. -/
def quotedCategories : List Category := [.commentLine, .string, .stringChar, .stringOther, .nameVariableMagic]

theorem opensOutside_dash : opensOutside (Table.readings Cosy.rules) quotedCategories '-' = true ∧
    opensOutside (Table.readings Catspeak.rules) quotedCategories '-' = true ∧
    opensOutside (Table.readings KatScript.rules) (.nameBuiltin :: quotedCategories) '-' = true := by decide +kernel

namespace Registry

/-- The languages in which two dashes open a comment, with the categories of the tokens that go on with them. -/
def dashed : List (String × List Category) :=
  [("cosy", quotedCategories), ("catspeak", quotedCategories), ("katscript", .nameBuiltin :: quotedCategories)]

theorem exists_commentRules {listing : Listing} : ∀ entry ∈ dashed, ∃ language others,
    tableFor listing entry.1 = .single language (commentRules ++ others) ∧
      (∀ r ∈ commentRules ++ others, r.transition = none) ∧
      opensOutside (Table.readings (commentRules ++ others)) entry.2 '-' = true := by
  obtain ⟨cosy, catspeak, katscript⟩ := opensOutside_dash
  simp only [dashed, List.forall_mem_cons, List.not_mem_nil, false_implies, implies_true, and_true]
  refine ⟨⟨Cosy.language, Cosy.rules.drop 2, rfl, ?_, cosy⟩, ⟨Catspeak.language, Catspeak.rules.drop 2, rfl, ?_, catspeak⟩,
    ⟨KatScript.language, KatScript.rules.drop 2, rfl, ?_, katscript⟩⟩
  · simp [commentRules, Cosy.rules, Table.Rule.token]
  · simp [commentRules, Catspeak.rules, Table.Rule.token, Table.Rule.classified]
  · simp [commentRules, KatScript.rules, Table.Rule.token, Table.Rule.classified]

/-- Two dashes open a comment, which goes to the end of the line, wherever no comment, quoted text or, in KatScript,
    annotation has the first of them already. -/
theorem lineComments_of_listing : ∀ listing, ∃ r, ofListing listing = .ok r ∧
    ∀ entry ∈ dashed, (r.findOrPlain entry.1).EveryCharacter (OpensComment entry.2) := by
  intro listing
  obtain ⟨r, built, -⟩ := exists_ofListing listing
  refine ⟨r, built, fun entry member => ?_⟩
  obtain ⟨language, others, table, still, opens⟩ := exists_commentRules entry member
  refine everyCharacter_of_tableFor built table still fun before c behind t held dash next => ?_
  obtain ⟨rest, rfl⟩ := List.head?_eq_some_iff.mp next
  subst dash
  have found := firstMatch?_dashes before.getLast? rest others
  rcases held.opens opens found with within | ⟨start, category, text⟩
  · exact .inl within
  · exact .inr ⟨start, category, text.trans (take_dashes rest)⟩

/-- Behind an annotation and a blank a comment begins, and it ends with the line. -/
theorem lineComments_of_listing_annotation : ∃ r, ofListing .empty = .ok r ∧
    r.lex "katscript" ":- --é-\n" = .ok [⟨.nameBuiltin, ":-", 0, 2⟩, ⟨.whitespace, " ", 2, 3⟩,
      ⟨.commentLine, "--é-", 3, 8⟩, ⟨.whitespace, "\n", 8, 9⟩] ∧
    OpensComment (.nameBuiltin :: quotedCategories) [':', '-', ' '] '-' ['-', 'é', '-', '\n']
      ⟨.commentLine, "--é-", 3, 8⟩ := by
  obtain ⟨r, built, every⟩ := lineComments_of_listing .empty
  have opens := every ("katscript", .nameBuiltin :: quotedCategories) (by simp [dashed])
  have whole : r.lex "katscript" ":- --é-\n" = .ok [⟨.nameBuiltin, ":-", 0, 2⟩, ⟨.whitespace, " ", 2, 3⟩,
      ⟨.commentLine, "--é-", 3, 8⟩, ⟨.whitespace, "\n", 8, 9⟩] := lex_eq_of_tableFor built (by decide +kernel)
  exact ⟨r, built, whole, opens.holds whole (by decide) (by simp) ⟨by decide, by decide⟩⟩

/-- In KatScript an annotation goes on with dashes, so comments and quoted texts are not all that does. -/
theorem not_lineComment_annotation : ∃ r, ofListing .empty = .ok r ∧
    r.lex "katscript" ":--" = .ok [⟨.nameBuiltin, ":--", 0, 3⟩] ∧
    ¬ (r.findOrPlain "katscript").EveryCharacter (OpensComment quotedCategories) := by
  obtain ⟨r, built, -⟩ := exists_ofListing .empty
  have whole : r.lex "katscript" ":--" = .ok [⟨.nameBuiltin, ":--", 0, 3⟩] :=
    lex_eq_of_tableFor built (by decide +kernel)
  refine ⟨r, built, whole, fun every => ?_⟩
  have split : ":--".toList = [':'] ++ '-' :: ['-'] := by decide
  have opens := every.holds whole split List.mem_cons_self ⟨by decide, by decide⟩ rfl rfl
  exact absurd opens (by decide)

end Registry

/-! ## Block comments -/

namespace Gml

/-- A slash and a star. -/
def opener : Pattern := seq (char '/') (char '*')

/-- Every character but the star. -/
def starless : CharSet := .compl (.single '*')

/-- An opened comment up to the next star, and a slash behind it. -/
def blockComment : Pattern := seq (seq (seq opener (star .fewer (set starless))) (char '*')) (char '/')

/-- The signs that are operators. -/
def operators : CharSet :=
  "/!#@~&+%\\|^<>=?-:.".toList.foldl (fun signs c => .union signs (.single c)) (.single '*')

/-- The rules before that for block comments. -/
def earlierRules : List Table.Rule := fixedRules.take 2

/-- The rules between that for block comments and that for operators. -/
def laterRules : List Table.Rule := (fixedRules.drop 3).dropLast

theorem readings_fixedRules : Table.readings fixedRules = Table.readings earlierRules ++
    (blockComment, Action.emit .commentBlock) :: (Table.readings laterRules ++
      [(Pattern.set operators, .emit .operator)]) := by
  have split : fixedRules = earlierRules ++ .token "/\\*[^*]*?\\*/" .commentBlock ::
    (laterRules ++ [.token "[*/!#@~&+%\\\\|^<>=?\\-:.]" .operator]) := rfl
  rw [split, Table.readings_append, Table.readings_token (p := blockComment) (by decide), Table.readings_append,
    Table.readings_token (p := Pattern.set operators) (by decide)]
  rfl

theorem separate_opener : (∀ p ∈ Table.patternsOf earlierRules, p.separate opener = true) ∧
    ∀ p ∈ Table.patternsOf laterRules, p.separate opener = true := by decide +kernel

section
variable (before : Option Char) (rest : List Char)

theorem matches_opener : ∃ e, opener.Matches ⟨before, '/' :: '*' :: rest, 0⟩ e :=
  ⟨_, .seq (.set rfl (by decide)) (.set rfl (by decide))⟩

/-- Where a comment is opened, the first match is a comment, or else the slash. -/
theorem firstMatch?_opener (k : Classifier) :
    firstMatch? (Table.readings (rules k)) before ('/' :: '*' :: rest) =
      ((blockComment.matchLength? before ('/' :: '*' :: rest)).map (Action.emit .commentBlock, ·)).or
        (some (.emit .operator, 1)) := by
  obtain ⟨e, opened⟩ := matches_opener before rest
  have earlier := firstMatch?_of_separate separate_opener.1 opened
  have later := firstMatch?_of_separate separate_opener.2 opened
  have slash : (Pattern.set operators).matchLength? before ('/' :: '*' :: rest) = some 1 := by
    rw [matchLength?_set, if_pos (by decide)]
  rw [rules_eq, Table.readings_append, readings_fixedRules, firstMatch?_append, firstMatch?_append, earlier,
    Option.none_or, firstMatch?_cons, firstMatch?_append, later, Option.none_or, firstMatch?_cons, slash]
  cases blockComment.matchLength? before ('/' :: '*' :: rest) <;> rfl

theorem contains_starless (c : Char) : starless.contains c = (c != '*') := CharSet.contains_compl_single '*' c

theorem search_closer (s : Spot) : (char '*').search ((char '/').search fun e => some e.used) s =
    if ['*', '/'] <+: s.rest then some (s.used + 2) else none := by
  obtain ⟨before, rest, n⟩ := s
  cases rest with
  | nil => simp [char, search]
  | cons c rest =>
    have slash : ['/'] <+: rest ↔ rest.head? = some '/' := by cases rest <;> simp [eq_comm]
    simp only [search_char_cons, search_char, List.cons_prefix_cons, slash, @eq_comm Char '*', ite_and]

/-- An opened comment is closed where `*/` follows the characters up to the next star. -/
theorem matchLength?_blockComment {body : List Char} (free : '*' ∉ body) (ended : ∀ c ∈ rest.head?, c = '*') :
    blockComment.matchLength? before ('/' :: '*' :: (body ++ rest)) =
      if ['*', '/'] <+: rest then some (body.length + 4) else none := by
  have stuck : ∀ e, Inside starless e → (char '*').search ((char '/').search fun e => some e.used) e = none := by
    rintro e ⟨c, behind, here, member⟩
    have other : c ≠ '*' := by simpa [contains_starless] using member
    simp [search_closer, here, other.symm]
  have run : runLength starless (body ++ rest) = body.length := by
    refine runLength_append (fun c member => ?_) fun c first => ?_
    · have other : c ≠ '*' := by rintro rfl; exact free member
      simpa [contains_starless] using other
    · simp [contains_starless, ended c first]
  rw [matchLength?_eq_search, blockComment, opener, search, search, search, search, search_char_cons, if_pos rfl,
    search_char_cons, if_pos rfl, search_star_of_stuck _ stuck, run, search_closer, Spot.advance_rest,
    Spot.advance_used, List.drop_left]
  simp only [Nat.zero_add, Nat.add_comm]

end

/-- Where a token begins with `/*` and the first `*/` behind it closes the comment, the token is the comment, if there is
    no star between the two. Otherwise it is the slash. -/
def ClosesComment (t : Token) (back : String) : Prop :=
  ∀ body rest, (t.text ++ back).toList = '/' :: '*' :: (body ++ '*' :: '/' :: rest) → ¬ ['*', '/'] <:+: body ++ ['*'] →
    if '*' ∈ body then t.category = .operator ∧ t.text = "/"
    else t.category = .commentBlock ∧ t.text.toList = '/' :: '*' :: (body ++ ['*', '/'])

theorem closesComment {k : Classifier} {front back : String} {t : Token}
    (made : MadeBy (Table.readings (rules k)) front.toList.getLast? back.toList t) : ClosesComment t back := by
  intro body rest same first
  rw [String.toList_append] at same
  have found := firstMatch?_opener front.toList.getLast? (body ++ '*' :: '/' :: rest) k
  rw [← same] at found
  split
  next star =>
    obtain ⟨u, v, rfl, free⟩ := List.eq_append_cons_of_mem star
    -- No slash stands behind the first star, as `*/` would stand there.
    have opened : ¬ ['*', '/'] <+: '*' :: v ++ '*' :: '/' :: rest := by
      intro closed
      cases v with
      | nil => simp at closed
      | cons d v =>
        obtain rfl : '/' = d := by simpa using closed
        exact first ⟨u, v ++ ['*'], by simp⟩
    have missing : blockComment.matchLength? front.toList.getLast? (t.text.toList ++ back.toList) = none := by
      rw [same, List.append_assoc, matchLength?_blockComment _ _ free (by simp), if_neg opened]
    rw [missing] at found
    obtain ⟨category, length⟩ := made.of_firstMatch? found
    have slash : t.text.toList ++ back.toList = ['/'] ++ '*' :: (u ++ '*' :: v ++ '*' :: '/' :: rest) := same
    exact ⟨category, String.toList_inj.mp (List.append_inj_left slash length)⟩
  next free =>
    have matched : blockComment.matchLength? front.toList.getLast? (t.text.toList ++ back.toList) =
        some (body.length + 4) := by
      rw [same, matchLength?_blockComment _ _ free (by simp), if_pos ⟨rest, rfl⟩]
    rw [matched] at found
    obtain ⟨category, length⟩ := made.of_firstMatch? found
    have comment : t.text.toList ++ back.toList = '/' :: '*' :: (body ++ ['*', '/']) ++ rest := by simp [same]
    exact ⟨category, List.append_inj_left comment (by simp [length])⟩

end Gml

namespace Registry

/-- The names of the GameMaker Language and its extension. -/
def gmlNames : List String := ["gml", "gmlext"]

theorem exists_rules (listing : Listing) :
    ∀ name ∈ gmlNames, ∃ language k, tableFor listing name = .single language (Gml.rules k) := by
  rw [gmlNames, List.forall_mem_cons, List.forall_mem_singleton]
  exact ⟨⟨Gml.language, .standard listing, rfl⟩, ⟨Gml.extendedLanguage, .extended listing, rfl⟩⟩

/-- At every token of every source, a comment without stars that is opened and closed is one token, and of one with a
    star the slash is. -/
theorem blockComments_of_listing : ∀ listing, ∃ r, ofListing listing = .ok r ∧
    ∀ name ∈ gmlNames, (r.findOrPlain name).EveryToken fun _ t back => Gml.ClosesComment t back := by
  intro listing
  obtain ⟨r, built, -⟩ := exists_ofListing listing
  refine ⟨r, built, fun name member => ?_⟩
  obtain ⟨language, k, table⟩ := exists_rules listing name member
  exact everyToken_of_tableFor built table (Gml.still_rules k) fun _ _ _ => Gml.closesComment

/-- A slash behind the opening does not close a comment, and neither do quotation marks and line breaks. -/
theorem blockComments_of_listing_slash : ∃ r, ofListing .empty = .ok r ∧
    r.lex "gml" "/*/\n\"é*/x" = .ok [⟨.commentBlock, "/*/\n\"é*/", 0, 9⟩, ⟨.nameVariable, "x", 9, 10⟩] ∧
    Gml.ClosesComment ⟨.commentBlock, "/*/\n\"é*/", 0, 9⟩ "x" := by
  obtain ⟨r, built, every⟩ := blockComments_of_listing .empty
  have whole : r.lex "gml" "/*/\n\"é*/x" =
      .ok [⟨.commentBlock, "/*/\n\"é*/", 0, 9⟩, ⟨.nameVariable, "x", 9, 10⟩] :=
    lex_eq_of_tableFor built (by decide +kernel)
  have between : Token.Between ⟨.commentBlock, "/*/\n\"é*/", 0, 9⟩ "/*/\n\"é*/x" "" "x" := ⟨by decide, by decide⟩
  exact ⟨r, built, whole, (every "gml" (by simp [gmlNames])).holds whole (by simp) between⟩

/-- A star in a comment keeps it from being found, so not all comments end where they are closed first. -/
theorem not_blockComment_star : ∃ r, ofListing .empty = .ok r ∧
    r.lex "gml" "/** a */" = .ok [⟨.operator, "/", 0, 1⟩, ⟨.operator, "*", 1, 2⟩, ⟨.operator, "*", 2, 3⟩,
      ⟨.whitespace, " ", 3, 4⟩, ⟨.nameVariable, "a", 4, 5⟩, ⟨.whitespace, " ", 5, 6⟩, ⟨.operator, "*", 6, 7⟩,
      ⟨.operator, "/", 7, 8⟩] ∧
    ¬ (r.findOrPlain "gml").EveryToken fun _ t back => ∀ body rest,
      (t.text ++ back).toList = '/' :: '*' :: (body ++ '*' :: '/' :: rest) → ¬ ['*', '/'] <:+: body ++ ['*'] →
        t.category = .commentBlock ∧ t.text.toList = '/' :: '*' :: (body ++ ['*', '/']) := by
  obtain ⟨r, built, -⟩ := exists_ofListing .empty
  have whole : r.lex "gml" "/** a */" = .ok [⟨.operator, "/", 0, 1⟩, ⟨.operator, "*", 1, 2⟩, ⟨.operator, "*", 2, 3⟩,
      ⟨.whitespace, " ", 3, 4⟩, ⟨.nameVariable, "a", 4, 5⟩, ⟨.whitespace, " ", 5, 6⟩, ⟨.operator, "*", 6, 7⟩,
      ⟨.operator, "/", 7, 8⟩] := lex_eq_of_tableFor built (by decide +kernel)
  refine ⟨r, built, whole, fun every => ?_⟩
  have between : Token.Between ⟨.operator, "/", 0, 1⟩ "/** a */" "" "** a */" := ⟨by decide, by decide⟩
  have comment := every.holds whole List.mem_cons_self between ['*', ' ', 'a', ' '] [] (by decide) (by decide)
  exact absurd comment.1 (by decide)

end Registry

end Highlighter
