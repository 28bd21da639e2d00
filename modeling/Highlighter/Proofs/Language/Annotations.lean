import Highlighter.Proofs.Language.Words
import Highlighter.Proofs.Lexer.Characters

/-!
Annotations in KatScript. Where a colon stands only their two rules match, and the first of them only where a word
follows the white space behind the colon, so the first match is the annotation (`firstMatch?_colon`). No match goes on
with a colon but those of comments and strings (`opensOutside_colon`), and no other rule makes tokens with the category
of annotations (`colon_of_nameBuiltin`).
-/

namespace Highlighter

namespace KatScript
open Pattern

/-- The operators that can be annotated. -/
def isSign (c : Char) : Bool := "*/\\!~&+%|^<>=?-".toList.contains c

/-- The annotation that a colon opens, by the text behind the colon: the white space there, and behind it the longest
    word, or the longest run of operators where there is no word. -/
def annotated (behind : List Char) : List Char :=
  let rest := behind.dropWhile Unicode.isWhiteSpace
  let word := rest.takeWhile isNameChar
  ':' :: (behind.takeWhile Unicode.isWhiteSpace ++ if word = [] then rest.takeWhile isSign else word)

theorem annotated_within (behind : List Char) : annotated behind <+: ':' :: behind := by
  have split : annotated behind <+:
      ':' :: (behind.takeWhile Unicode.isWhiteSpace ++ behind.dropWhile Unicode.isWhiteSpace) := by
    rw [annotated, List.cons_prefix_cons, List.prefix_append_right_inj]
    constructor
    · rfl
    · split <;> exact List.takeWhile_prefix _
  rwa [List.takeWhile_append_dropWhile] at split

/-- The rules before those for annotations. -/
def earlierRules : List Table.Rule := rules.take 8

/-- The rule behind those for annotations, which is that for words. -/
def laterRules : List Table.Rule := rules.drop 10

theorem readings_rules : Table.readings rules = Table.readings earlierRules ++
    (annotatedWord, Action.emit .nameBuiltin) :: (annotatedSigns, Action.emit .nameBuiltin) ::
      Table.readings laterRules := by
  have split : rules = earlierRules ++ .token ":\\s*[A-Za-z0-9_]+" .nameBuiltin ::
    .token ":\\s*[*/\\\\!~&+%|^<>=?\\-]*" .nameBuiltin :: laterRules := rfl
  rw [split, Table.readings_append, Table.readings_token (p := annotatedWord) (by decide),
    Table.readings_token (p := annotatedSigns) (by decide)]

theorem apart_colon : beginsApart (Table.readings earlierRules) (.single ':') = true := by decide +kernel

theorem opensOutside_colon : opensOutside (Table.readings rules) [.commentLine, .string] ':' = true := by decide +kernel

/-! ### Matches at a colon -/

theorem contains_signs (c : Char) : signs.contains c = isSign c := by
  rw [signs, CharSet.contains_foldl, CharSet.contains_single]
  rfl

/-- How many white characters stand at the start of a text. -/
def gap (cs : List Char) : Nat := runLength (.property .whiteSpace) cs

theorem length_annotated (behind : List Char) : (annotated behind).length = 1 + gap behind +
    if runLength wordChars (behind.drop (gap behind)) = 0 then runLength signs (behind.drop (gap behind))
    else runLength wordChars (behind.drop (gap behind)) := by
  have space : (CharSet.property .whiteSpace).contains = Unicode.isWhiteSpace := rfl
  rw [gap, drop_runLength, annotated]
  simp only [runLength, space, funext Gml.contains_wordChars, funext contains_signs, List.length_eq_zero_iff,
    List.length_cons, List.length_append, Nat.add_comm]
  split <;> rfl

section
variable (before : Option Char) (behind : List Char)

theorem matchLength?_annotatedWord : annotatedWord.matchLength? before (':' :: behind) =
    if runLength wordChars (behind.drop (gap behind)) = 0 then none
    else some (1 + gap behind + runLength wordChars (behind.drop (gap behind))) := by
  -- No word begins inside the white space, so all of it is passed.
  have stuck : ∀ e, Inside (.property .whiteSpace) e →
      (oneOrMore .more (set wordChars)).search (fun e => some e.used) e = none := by
    rintro e ⟨c, rest, here, member⟩
    have other : wordChars.contains c = false := CharSet.not_contains_of_apart (by decide) member
    simp [search_oneOrMore, here, runLength, other]
  rw [matchLength?_eq_search, annotatedWord, colon, search, search, search_char_cons, if_pos rfl,
    search_star_of_stuck _ stuck, search_oneOrMore]
  rfl

theorem matchLength?_annotatedSigns : annotatedSigns.matchLength? before (':' :: behind) =
    some (1 + gap behind + runLength signs (behind.drop (gap behind))) := by
  rw [matchLength?_eq_search, annotatedSigns, colon, search, search, search_char_cons, if_pos rfl,
    search_star_greedy (search_star_greedy (k := fun e => some e.used) rfl)]
  rfl

/-- Where a colon stands, the first match is its annotation. -/
theorem firstMatch?_colon : firstMatch? (Table.readings rules) before (':' :: behind) =
    some (.emit .nameBuiltin, (annotated behind).length) := by
  have others := firstMatch?_of_beginsApart apart_colon (c := ':') (by decide) before behind
  rw [readings_rules, firstMatch?_append, others, firstMatch?_cons, firstMatch?_cons, matchLength?_annotatedWord,
    matchLength?_annotatedSigns, length_annotated]
  split <;> rfl

end

/-! ### Tokens of annotations -/

theorem classify_ne_nameBuiltin (word : String) : classify word ≠ .nameBuiltin := by
  unfold classify
  split_ifs <;> decide

theorem mem_annotations {p : Pattern} {action : Action} (listed : (p, action) ∈ Table.readings rules) {text : String}
    (builtin : action.resolve text = .nameBuiltin) : p = annotatedWord ∨ p = annotatedSigns := by
  have earlier : ∀ r ∈ earlierRules, r.action.resolve text ≠ .nameBuiltin := by
    simp [earlierRules, rules, Table.Rule.token, Action.resolve]
  have later : ∀ r ∈ laterRules, r.action.resolve text ≠ .nameBuiltin := by
    simp [laterRules, rules, Table.Rule.classified, Action.resolve, classify_ne_nameBuiltin]
  rw [readings_rules] at listed
  simp only [List.mem_append, List.mem_cons, Prod.mk.injEq] at listed
  rcases listed with early | ⟨rfl, -⟩ | ⟨rfl, -⟩ | late
  · obtain ⟨r, member, rfl⟩ := Table.exists_of_mem_readings early
    exact absurd builtin (earlier r member)
  · exact .inl rfl
  · exact .inr rfl
  · obtain ⟨r, member, rfl⟩ := Table.exists_of_mem_readings late
    exact absurd builtin (later r member)

/-- What has the category of annotations begins with a colon. -/
theorem colon_of_nameBuiltin {before : Option Char} {behind : List Char} {t : Token}
    (made : MadeBy (Table.readings rules) before behind t) (builtin : t.category = .nameBuiltin) :
    ∃ rest, t.text.toList ++ behind = ':' :: rest := by
  cases made with
  | plain full missing plain =>
    rw [plain] at builtin
    contradiction
  | @matched action full found category =>
    obtain ⟨p, listed, matched⟩ := exists_of_firstMatch? found
    obtain ⟨c, cs, letters⟩ := List.exists_cons_of_ne_nil full
    rw [letters] at matched ⊢
    by_cases colon : c = ':'
    · exact ⟨cs ++ behind, by rw [colon]; rfl⟩
    · have other : (CharSet.single ':').contains c = false := by simpa [CharSet.contains_single] using colon
      have missing : p.matchLength? before (c :: (cs ++ behind)) = none := by
        rcases mem_annotations listed (category.symm.trans builtin) with rfl | rfl
        · exact matchLength?_of_opening (p := annotatedWord) rfl other before _
        · exact matchLength?_of_opening (p := annotatedSigns) rfl other before _
      rw [List.cons_append, missing] at matched
      contradiction

/-- A colon is the first character of a token with the category of annotations, unless it belongs to a comment or a
    string that begins before it. -/
def OpensAnnotation (before : List Char) (c : Char) (t : Token) : Prop :=
  c = ':' → t.start < byteLength before ∧ t.category ∈ [.commentLine, .string] ∨
    t.start = byteLength before ∧ t.category = .nameBuiltin

/-- A token with the category of annotations begins with a colon and is the annotation that this colon opens. -/
def IsAnnotation (t : Token) (back : String) : Prop :=
  t.category = .nameBuiltin →
    ∃ behind, (t.text ++ back).toList = ':' :: behind ∧ t.text.toList = annotated behind

theorem opensAnnotation {before behind : List Char} {c : Char} {t : Token}
    (held : HeldBy (Table.readings rules) before c behind t) : OpensAnnotation before c t := by
  rintro rfl
  rcases held.opens opensOutside_colon (firstMatch?_colon before.getLast? behind) with within | ⟨start, category, -⟩
  · exact .inl within
  · exact .inr ⟨start, category⟩

theorem isAnnotation {front back : String} {t : Token}
    (made : MadeBy (Table.readings rules) front.toList.getLast? back.toList t) : IsAnnotation t back := by
  intro builtin
  obtain ⟨behind, same⟩ := colon_of_nameBuiltin made builtin
  have found := firstMatch?_colon front.toList.getLast? behind
  rw [← same] at found
  obtain ⟨-, length⟩ := made.of_firstMatch? found
  obtain ⟨rest, split⟩ := annotated_within behind
  rw [← split] at same
  refine ⟨behind, ?_, List.append_inj_left same length⟩
  rw [String.toList_append, same, split]

/-- The colons outside of comments and strings begin the tokens with the category of annotations, and each of these is a
    colon, the white space behind it, and the word there or else the operators. -/
theorem annotations_of_listing : ∀ listing, ∃ r, Registry.ofListing listing = .ok r ∧
    (r.findOrPlain "katscript").EveryCharacter (fun before c _ t => OpensAnnotation before c t) ∧
    (r.findOrPlain "katscript").EveryToken fun _ t back => IsAnnotation t back := by
  intro listing
  obtain ⟨r, built, -⟩ := Registry.exists_ofListing listing
  have table : Registry.tableFor listing "katscript" = .single language rules := rfl
  have still : ∀ r ∈ rules, r.transition = none := by simp [rules]
  refine ⟨r, built, ?_, ?_⟩
  · exact Registry.everyCharacter_of_tableFor built table still fun _ _ _ _ => opensAnnotation
  · exact Registry.everyToken_of_tableFor built table still fun _ _ _ => isAnnotation

/-- An annotation ends with its word, so a colon behind it opens the next one, and one in a string opens none. -/
theorem annotations_of_listing_word : ∃ r, Registry.ofListing .empty = .ok r ∧
    r.lex "katscript" ": a1:-- \":\"" = .ok [⟨.nameBuiltin, ": a1", 0, 4⟩, ⟨.nameBuiltin, ":--", 4, 7⟩,
      ⟨.whitespace, " ", 7, 8⟩, ⟨.string, "\":\"", 8, 11⟩] ∧
    IsAnnotation ⟨.nameBuiltin, ": a1", 0, 4⟩ ":-- \":\"" ∧
    OpensAnnotation ": a1:-- \"".toList ':' ⟨.string, "\":\"", 8, 11⟩ := by
  obtain ⟨r, built, characters, tokens⟩ := annotations_of_listing .empty
  have whole : r.lex "katscript" ": a1:-- \":\"" = .ok [⟨.nameBuiltin, ": a1", 0, 4⟩, ⟨.nameBuiltin, ":--", 4, 7⟩,
      ⟨.whitespace, " ", 7, 8⟩, ⟨.string, "\":\"", 8, 11⟩] := Registry.lex_eq_of_tableFor built (by decide +kernel)
  have between : Token.Between ⟨.nameBuiltin, ": a1", 0, 4⟩ ": a1:-- \":\"" "" ":-- \":\"" := ⟨by decide, by decide⟩
  have split : ": a1:-- \":\"".toList = ": a1:-- \"".toList ++ ':' :: ['"'] := by decide
  refine ⟨r, built, whole, tokens.holds whole List.mem_cons_self between, ?_⟩
  exact characters.holds whole split (by simp) ⟨by decide, by decide⟩

end KatScript

end Highlighter
