import Highlighter.Proofs.Language.Neighbours
import Highlighter.Proofs.Language.Words
import Highlighter.Proofs.Lexer.Recolouring

/-!
What a listing changes, and what the extension of the GameMaker Language does. Both reach the tokens through the rule
for words only (`Gml.alikeOn_rules`), so the tokens have the same texts at the same places whatever is listed and
reserved. Which categories differ is a question about single words, and their tables answer it (`classify_of_sameSets`,
`extended_classify_of_kept`).
-/

namespace Highlighter

/-- Two listings have a word in the same of their sets. -/
structure Listing.SameSets (listing listing' : Listing) (word : String) : Prop where
  constants : listing'.constants.contains word = listing.constants.contains word
  deprecated : listing'.deprecated.contains word = listing.deprecated.contains word
  builtins : listing'.builtins.contains word = listing.builtins.contains word

namespace Gml

/-- The category of a word that is neither a builtin nor reserved. -/
def unreserved (listing : Listing) (word : String) : Category :=
  if listing.constants.contains word then .keywordConstant
  else if listing.deprecated.contains word then .genericDeleted
  else if isAllCaps word then .nameVariableMagic
  else if isCapitalized word then .keywordType
  else .nameVariable

/-- The extension leaves a word as it is: it does not reserve it, or the word is a listed builtin. -/
def Kept (listing : Listing) (word : String) : Prop :=
  word ∈ extendedWords → listing.builtins.contains word = true

/-- A token of the language, and that of the extended language at its place. They differ only where the text is
    a word that the extension does not leave as it is, and there in their categories. -/
structure Extends (listing : Listing) (t t' : Token) : Prop extends t.AlikeOn (Kept listing) t' where
  reserved : t.text ∈ extendedWords → listing.builtins.contains t.text = false →
    t'.category = .keyword ∧ t.category = unreserved listing t.text

theorem Extends.eq_of_reserved {listing : Listing} {t t' : Token} (pair : Extends listing t t')
    (member : t.text ∈ extendedWords) (other : listing.builtins.contains t.text = false) :
    t' = { t with category := .keyword } := by
  cases t
  cases t'
  rw [Token.mk.injEq]
  exact ⟨(pair.reserved member other).1, pair.text, pair.start, pair.stop⟩

/-! ### Words -/

section
variable {k k' : Classifier} {word : String}

theorem classify_of_builtin (builtin : k.listing.builtins.contains word = true) :
    k.classify word = .nameBuiltin := by
  rw [Classifier.classify, builtin]
  rfl

theorem classify_of_reserved (other : k.listing.builtins.contains word = false)
    (reserved : k.reserved.contains word = true) : k.classify word = .keyword := by
  rw [Classifier.classify, other, reserved]
  rfl

theorem classify_of_unreserved (other : k.listing.builtins.contains word = false)
    (free : k.reserved.contains word = false) : k.classify word = unreserved k.listing word := by
  rw [Classifier.classify, other, free]
  rfl

theorem classify_of_sameSets (same : k.listing.SameSets k'.listing word)
    (reserved : k'.reserved.contains word = k.reserved.contains word) : k'.classify word = k.classify word := by
  rw [Classifier.classify, Classifier.classify, same.constants, same.deprecated, same.builtins, reserved]

end

section
variable (listing : Listing) {word : String}

theorem standard_reserved : (Classifier.standard listing).reserved.contains word = reservedWords.contains word :=
  Vocabulary.contains_ofList reservedWords word

theorem extended_reserved : (Classifier.extended listing).reserved.contains word =
    (reservedWords.contains word || extendedWords.contains word) := by
  rw [Classifier.extended, Vocabulary.contains_union, Vocabulary.contains_ofList, Vocabulary.contains_ofList]

theorem extended_classify_of_kept (kept : Kept listing word) :
    (Classifier.extended listing).classify word = (Classifier.standard listing).classify word := by
  by_cases member : word ∈ extendedWords
  · rw [classify_of_builtin (kept member), classify_of_builtin (kept member)]
  · refine classify_of_sameSets ⟨rfl, rfl, rfl⟩ ?_
    simp [extended_reserved, standard_reserved, member]

end

/-- The words of the extension are identifiers that the language itself does not reserve. -/
theorem extendedWords_fresh : ∀ word ∈ extendedWords, IsIdentifier word ∧ word ∉ reservedWords := by decide +kernel

theorem extends_of_alikeOn {listing : Listing} {t t' : Token} (alike : t.AlikeOn (Kept listing) t')
    (classified : IsIdentifier t.text → t.category = (Classifier.standard listing).classify t.text)
    (classified' : IsIdentifier t'.text → t'.category = (Classifier.extended listing).classify t'.text) :
    Extends listing t t' := by
  refine ⟨alike, fun member other => ?_⟩
  obtain ⟨identifier, free⟩ := extendedWords_fresh _ member
  rw [alike.text] at classified'
  constructor
  · rw [classified' identifier]
    exact classify_of_reserved other (by simp [extended_reserved, member])
  · rw [classified identifier]
    exact classify_of_unreserved other (by simp [standard_reserved, free])

/-! ### Rules -/

theorem alikeOn_rules {agree : String → Prop} (language language' : Language) (k k' : Classifier)
    (same : ∀ word, agree word → k'.classify word = k.classify word) :
    (Table.single language (rules k)).AlikeOn agree (.single language' (rules k')) := by
  refine .cons ⟨rfl, ?_⟩ .nil
  rw [rules_eq, rules_eq]
  exact List.rel_append (List.forall₂_same.mpr fun r _ => .refl r) (.cons ⟨rfl, rfl, same⟩ .nil)

end Gml

namespace Registry
variable {listing listing' : Listing} {r r' : Registry} {name name' : String}

theorem lex_alikeOn {agree : String → Prop} (built : ofListing listing = .ok r) (built' : ofListing listing' = .ok r')
    (alike : (tableFor listing name).AlikeOn agree (tableFor listing' name')) (src : String) :
    ∃ tokens tokens', r.lex name src = .ok tokens ∧ r'.lex name' src = .ok tokens' ∧
      List.Forall₂ (Token.AlikeOn agree) tokens tokens' := by
  obtain ⟨tokens, lexed⟩ := exists_lex built name src
  obtain ⟨tokens', lexed'⟩ := exists_lex built' name' src
  have both := (alike.build (build_tableFor built name) (build_tableFor built' name')).lex src
  rw [← lex, ← lex, lexed, lexed'] at both
  cases both with
  | ok related => exact ⟨tokens, tokens', lexed, lexed', related⟩

/-- A token that is an identifier has the category that the classifier gives it. -/
theorem category_of_identifier {language : Language} {k : Gml.Classifier} (built : ofListing listing = .ok r)
    (table : tableFor listing name = .single language (Gml.rules k)) {src : String} {tokens : List Token}
    (lexed : r.lex name src = .ok tokens) {t : Token} (member : t ∈ tokens) (identifier : Gml.IsIdentifier t.text) :
    t.category = k.classify t.text := by
  have made := build_tableFor built name
  have sound := sound_tableFor listing name
  rw [table] at made sound
  obtain ⟨l, made', alone, -⟩ := Table.tokensStandAlone sound (Gml.still_rules k) (Gml.selfContained_rules k)
  obtain rfl : r.findOrPlain name = l := Except.ok.inj (made.symm.trans made')
  obtain ⟨_, found, own⟩ := alone src
  obtain rfl := Except.ok.inj (found.symm.trans lexed)
  have single := (own t member).symm.trans (Gml.lex_identifier sound made identifier)
  exact congrArg Token.category (List.head_eq_of_cons_eq (Except.ok.inj single))

theorem tableFor_congr (gml : name ≠ "gml") (gmlext : name ≠ "gmlext") :
    tableFor listing' name = tableFor listing name := by
  have other : Gml.language.answersTo name = false := by simp [Language.answersTo, Gml.language, gml.symm]
  have otherExtended : Gml.extendedLanguage.answersTo name = false := by
    simp [Language.answersTo, Gml.extendedLanguage, gmlext.symm]
  simp only [tableFor, tables, List.find?_cons, Gml.table, Gml.extendedTable, other, otherExtended]

theorem alikeOn_tableFor (name : String) :
    (tableFor listing name).AlikeOn (listing.SameSets listing') (tableFor listing' name) := by
  by_cases gml : name = "gml"
  · subst gml
    exact Gml.alikeOn_rules _ _ (.standard listing) (.standard listing') fun _ same =>
      Gml.classify_of_sameSets same rfl
  · by_cases gmlext : name = "gmlext"
    · subst gmlext
      exact Gml.alikeOn_rules _ _ (.extended listing) (.extended listing') fun _ same =>
        Gml.classify_of_sameSets same rfl
    · rw [tableFor_congr gml gmlext]
      exact .refl _

/-- The extension changes eight words. In every source the extended language finds the tokens that the language
    itself finds, and the same categories but at these words: there it finds keywords, where they are no listed
    builtins, and the language itself goes by the other listed names and the case. -/
theorem lex_of_extension : ∀ listing, ∃ r, ofListing listing = .ok r ∧
    ∀ src, ∃ tokens tokens', r.lex "gml" src = .ok tokens ∧ r.lex "gmlext" src = .ok tokens' ∧
      List.Forall₂ (Gml.Extends listing) tokens tokens' := by
  intro listing
  obtain ⟨r, built, -⟩ := exists_ofListing listing
  refine ⟨r, built, fun src => ?_⟩
  have tables : (tableFor listing "gml").AlikeOn (Gml.Kept listing) (tableFor listing "gmlext") :=
    Gml.alikeOn_rules _ _ (.standard listing) (.extended listing) fun _ => Gml.extended_classify_of_kept listing
  obtain ⟨tokens, tokens', lexed, lexed', related⟩ := lex_alikeOn built built tables src
  refine ⟨tokens, tokens', lexed, lexed', ?_⟩
  -- A word of the extension is an identifier, so where a token has its text the classifiers gave the categories.
  obtain ⟨length, each⟩ := List.forall₂_iff_zip.mp related
  refine List.forall₂_iff_zip.mpr ⟨length, ?_⟩
  intro t t' zipped
  obtain ⟨member, member'⟩ := List.of_mem_zip zipped
  exact Gml.extends_of_alikeOn (each zipped) (category_of_identifier built rfl lexed member)
    (category_of_identifier built rfl lexed' member')

/-- Where `seq` is listed as a constant and as a deprecated name, and `print` as a constant and as a builtin, the
    extension changes `seq` only. -/
theorem lex_of_extension_overlapping : ∃ r, ofListing ⟨.ofList ["seq", "print"], .ofList ["seq"], .ofList ["print"]⟩ =
      .ok r ∧
    r.lex "gml" "seq print" =
      .ok [⟨.keywordConstant, "seq", 0, 3⟩, ⟨.whitespace, " ", 3, 4⟩, ⟨.nameBuiltin, "print", 4, 9⟩] ∧
    r.lex "gmlext" "seq print" =
      .ok [⟨.keyword, "seq", 0, 3⟩, ⟨.whitespace, " ", 3, 4⟩, ⟨.nameBuiltin, "print", 4, 9⟩] := by
  obtain ⟨r, built, both⟩ := lex_of_extension ⟨.ofList ["seq", "print"], .ofList ["seq"], .ofList ["print"]⟩
  obtain ⟨tokens, tokens', lexed, lexed', related⟩ := both "seq print"
  have whole : r.lex "gml" "seq print" =
      .ok [⟨.keywordConstant, "seq", 0, 3⟩, ⟨.whitespace, " ", 3, 4⟩, ⟨.nameBuiltin, "print", 4, 9⟩] :=
    lex_eq_of_tableFor built (by decide +kernel)
  refine ⟨r, built, whole, ?_⟩
  obtain rfl := Except.ok.inj (lexed.symm.trans whole)
  obtain ⟨_, _, seq, later, rfl⟩ := List.forall₂_cons_left_iff.mp related
  obtain ⟨_, _, space, last, rfl⟩ := List.forall₂_cons_left_iff.mp later
  obtain ⟨_, _, print, ended, rfl⟩ := List.forall₂_cons_left_iff.mp last
  obtain rfl := List.forall₂_nil_left_iff.mp ended
  rw [lexed', seq.eq_of_reserved (by decide) (by decide +kernel), space.eq fun member => absurd member (by decide),
    print.eq fun _ => by decide +kernel]

/-- A listing changes the categories of the words that it lists. With two listings every language finds the same
    texts at the same places, with the same categories where the listings have the text in the same of their sets;
    and all languages but the GameMaker Language and its extension find the same tokens. -/
theorem lex_of_listings : ∀ listing listing', ∃ r r', ofListing listing = .ok r ∧ ofListing listing' = .ok r' ∧
    ∀ name src, ∃ tokens tokens', r.lex name src = .ok tokens ∧ r'.lex name src = .ok tokens' ∧
      List.Forall₂ (Token.AlikeOn (listing.SameSets listing')) tokens tokens' ∧
      (name ≠ "gml" → name ≠ "gmlext" → tokens' = tokens) := by
  intro listing listing'
  obtain ⟨r, built, -⟩ := exists_ofListing listing
  obtain ⟨r', built', -⟩ := exists_ofListing listing'
  refine ⟨r, r', built, built', fun name src => ?_⟩
  obtain ⟨tokens, tokens', lexed, lexed', related⟩ := lex_alikeOn built built' (alikeOn_tableFor name) src
  refine ⟨tokens, tokens', lexed, lexed', related, ?_⟩
  intro gml gmlext
  have own := build_tableFor built' name
  rw [tableFor_congr gml gmlext, build_tableFor built name] at own
  rw [lex, ← Except.ok.inj own] at lexed'
  exact Except.ok.inj (lexed'.symm.trans lexed)

/-- Where `foo` is a builtin of one listing and a constant of the other, `bar` is the same with both, and `foo` too
    outside of the GameMaker Language. -/
theorem lex_of_listings_one_word : ∃ r r', ofListing ⟨.empty, .empty, .ofList ["foo"]⟩ = .ok r ∧
    ofListing ⟨.ofList ["foo"], .ofList ["foo"], .empty⟩ = .ok r' ∧
    r.lex "gml" "foo bar" = .ok [⟨.nameBuiltin, "foo", 0, 3⟩, ⟨.whitespace, " ", 3, 4⟩, ⟨.nameVariable, "bar", 4, 7⟩] ∧
    (∃ category, r'.lex "gml" "foo bar" =
      .ok [⟨category, "foo", 0, 3⟩, ⟨.whitespace, " ", 3, 4⟩, ⟨.nameVariable, "bar", 4, 7⟩]) ∧
    r'.lex "kats" "foo bar" = r.lex "kats" "foo bar" := by
  obtain ⟨r, r', built, built', both⟩ :=
    lex_of_listings ⟨.empty, .empty, .ofList ["foo"]⟩ ⟨.ofList ["foo"], .ofList ["foo"], .empty⟩
  have whole : r.lex "gml" "foo bar" =
      .ok [⟨.nameBuiltin, "foo", 0, 3⟩, ⟨.whitespace, " ", 3, 4⟩, ⟨.nameVariable, "bar", 4, 7⟩] :=
    lex_eq_of_tableFor built (by decide +kernel)
  refine ⟨r, r', built, built', whole, ?_, ?_⟩
  · obtain ⟨_, tokens', lexed, lexed', related, -⟩ := both "gml" "foo bar"
    obtain rfl := Except.ok.inj (lexed.symm.trans whole)
    obtain ⟨⟨category, _, _, _⟩, _, ⟨rfl, rfl, rfl, -⟩, later, rfl⟩ := List.forall₂_cons_left_iff.mp related
    obtain ⟨_, _, space, last, rfl⟩ := List.forall₂_cons_left_iff.mp later
    obtain ⟨_, _, bar, ended, rfl⟩ := List.forall₂_cons_left_iff.mp last
    obtain rfl := List.forall₂_nil_left_iff.mp ended
    refine ⟨category, ?_⟩
    rw [lexed', space.eq ⟨by decide, by decide, by decide⟩, bar.eq ⟨by decide, by decide, by decide⟩]
  · obtain ⟨tokens, tokens', lexed, lexed', -, same⟩ := both "kats" "foo bar"
    rw [lexed, lexed', same (by decide) (by decide)]

end Registry

end Highlighter
