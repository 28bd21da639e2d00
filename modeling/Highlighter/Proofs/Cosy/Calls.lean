import Highlighter.Proofs.CharSet
import Highlighter.Proofs.Cosy.Rules
import Mathlib.Data.List.TakeWhile

/-!
Calls in Cosy. The rule for calls also matches where there is no name, but the rules for white space and for operators
come first there. So a call is a whole name, white space and an exclamation mark, wherever no reserved word stands
(`firstMatch?_call`), and no name is left alone with an exclamation mark behind it (`not_called`).

Reserved words of Cosy. Each group of them has a condition of its own on the characters on its two sides
(`firstMatch?_reserved`). Where a condition fails, the same text is a name (`category_of_word`).
-/

namespace Highlighter.Cosy

/-! ## Calls and names -/

open Pattern

/-- Whether a character can stand in a name. -/
def isNamed (c : Char) : Bool := Unicode.isLetter c || Unicode.isNumber c

/-- A text begins with a call: all letters and numbers at its start, and then white space and an exclamation mark. -/
structure BeginsWithCall (rest name blanks after : List Char) : Prop where
  split : rest = name ++ (blanks ++ '!' :: after)
  full : name ≠ []
  longest : rest.takeWhile isNamed = name
  blank : ∀ c ∈ blanks, Unicode.isWhiteSpace c = true

theorem within_letter : (CharSet.property .uppercase).within .letter = true ∧
    (CharSet.property .lowercase).within .letter = true := by decide +kernel

theorem apart_nameChars : beginsApart (spaceReadings ++ markReadings) nameChars = true ∧
    nameChars.apart (.property .whiteSpace) = true := by decide +kernel

theorem apart_uppercase : beginsApart reservedReadings (.property .uppercase) = true := by decide +kernel

section
variable {before : Option Char} {rest text back : List Char} {c : Char} {n : Nat}

theorem isNamed_of_within {m : CharSet} (letter : m.within .letter = true) (member : m.contains c = true) :
    isNamed c = true := by
  have holds : Unicode.isLetter c = true := CharSet.holds_of_within letter member
  rw [isNamed, holds, Bool.true_or]

theorem not_isWhiteSpace_of_named (named : isNamed c = true) : Unicode.isWhiteSpace c = false :=
  CharSet.not_contains_of_apart apart_nameChars.2 named

theorem matchLength?_call : call.matchLength? before rest = some n ↔ ∃ name blanks after,
    rest = name ++ (blanks ++ '!' :: after) ∧ (∀ c ∈ name, isNamed c = true) ∧
      (∀ c ∈ blanks, Unicode.isWhiteSpace c = true) ∧ n = name.length + blanks.length + 1 :=
  matchLength?_runs_char (fun _ => CharSet.not_contains_of_apart apart_nameChars.2) (by decide) (by decide)
    before rest n

theorem firstMatch?_named (named : isNamed c = true) (before : Option Char) (rest : List Char) :
    firstMatch? spaceReadings before (c :: rest) = none ∧ firstMatch? markReadings before (c :: rest) = none := by
  have none := firstMatch?_of_beginsApart apart_nameChars.1 named before rest
  rwa [firstMatch?_append, Option.or_eq_none_iff] at none

theorem takeWhile_isNamed {name blanks after : List Char} (named : ∀ c ∈ name, isNamed c = true)
    (blank : ∀ c ∈ blanks, Unicode.isWhiteSpace c = true) :
    (name ++ (blanks ++ '!' :: after)).takeWhile isNamed = name := by
  rw [List.takeWhile_append_of_pos named]
  cases blanks with
  | nil => simp [show isNamed '!' = false by decide]
  | cons d blanks =>
    have other : isNamed d ≠ true := by
      intro named
      have apart := not_isWhiteSpace_of_named named
      rw [blank d (by simp)] at apart
      contradiction
    simp [other]

/-- Where no reserved word stands, the rule for calls is the first to match just where a name is called. -/
theorem firstMatch?_call : firstMatch? readings before rest = some (.emit .nameBuiltin, n) ↔
    firstMatch? reservedReadings before rest = none ∧ ∃ name blanks after,
      BeginsWithCall rest name blanks after ∧ n = name.length + blanks.length + 1 := by
  have split : readings =
      (spaceReadings ++ (reservedReadings ++ markReadings)) ++ (call, .emit .nameBuiltin) :: _ := rfl
  rw [split, firstMatch?_of_only (by simp [spaceReadings, reservedReadings, markReadings]) (by simp [numberReadings]),
    firstMatch?_append, firstMatch?_append, Option.or_eq_none_iff, Option.or_eq_none_iff, matchLength?_call]
  constructor
  · rintro ⟨⟨space, reserved, marks⟩, name, blanks, after, rfl, named, blank, rfl⟩
    refine ⟨reserved, name, blanks, after, ⟨rfl, ?_, takeWhile_isNamed named blank, blank⟩, rfl⟩
    rintro rfl
    -- Without a name, white space or the exclamation mark has a rule of its own.
    cases blanks with
    | nil =>
      have none := firstMatch?_eq_none_iff.mp marks _ (List.mem_cons_of_mem _ (List.mem_singleton_self _))
      have mark : (signs '*' "/!@~&+%|^<>=?-:.").contains '!' = true := by decide
      simp [matchLength?_set, mark] at none
    | cons d blanks =>
      have none := firstMatch?_eq_none_iff.mp space _ List.mem_cons_self
      have white : (CharSet.property .whiteSpace).contains d = true := blank d (by simp)
      simp [matchLength?_oneOrMore before white] at none
  · rintro ⟨reserved, name, blanks, after, ⟨rfl, full, longest, blank⟩, rfl⟩
    obtain ⟨c, name, rfl⟩ := List.exists_cons_of_ne_nil full
    have named : ∀ d ∈ c :: name, isNamed d = true := fun d member => List.mem_takeWhile_imp (longest.symm ▸ member)
    obtain ⟨space, marks⟩ := firstMatch?_named (named c (by simp)) before _
    exact ⟨⟨space, reserved, marks⟩, c :: name, blanks, after, rfl, named, blank, rfl⟩

/-- A name is left alone only if no white space and exclamation mark follow it. -/
theorem not_called (named : ∀ c ∈ text, isNamed c = true) (missing : call.matchLength? before (text ++ back) = none) :
    (back.dropWhile Unicode.isWhiteSpace).head? ≠ some '!' := by
  intro mark
  obtain ⟨after, left⟩ := List.head?_eq_some_iff.mp mark
  have split : back = back.takeWhile Unicode.isWhiteSpace ++ '!' :: after := by
    rw [← left, List.takeWhile_append_dropWhile]
  have blank : ∀ c ∈ back.takeWhile Unicode.isWhiteSpace, Unicode.isWhiteSpace c = true :=
    fun c => List.mem_takeWhile_imp
  have found : call.matchLength? before (text ++ back) = _ :=
    matchLength?_call.mpr ⟨text, _, after, congrArg (text ++ ·) split, named, blank, rfl⟩
  rw [missing] at found
  contradiction

theorem matchLength?_name {first : CharProperty} (letter : (CharSet.property first).within .letter = true)
    (before : Option Char) : (name first).matchLength? before rest = some n ↔
      ∃ c cs, rest = c :: cs ∧ first.holds c = true ∧ n = (rest.takeWhile isNamed).length := by
  have each (c : Char) (cs : List Char) (member : first.holds c = true) :
      (name first).matchLength? before (c :: cs) = some ((c :: cs).takeWhile isNamed).length := by
    have named : isNamed c = true := isNamed_of_within letter member
    have run : (name first).matchLength? before (c :: cs) = some (1 + runLength nameChars cs) :=
      matchLength?_set_star before member
    rw [run, List.takeWhile_cons, if_pos named, List.length_cons, Nat.add_comm]
    rfl
  constructor
  · intro found
    have some := matchLength?_pos rfl found
    obtain ⟨c, cs, rfl, member⟩ := (matches_of_matchLength? found).opening (by simpa using some)
    exact ⟨c, cs, rfl, member, Option.some.inj (found.symm.trans (each c cs member))⟩
  · rintro ⟨c, cs, rfl, member, rfl⟩
    exact each c cs member

/-- Where a name is found, no call is, and it goes as far as there are letters and numbers. -/
theorem firstMatch?_name (found : firstMatch? readings before rest = some (.emit .name, n)) :
    call.matchLength? before rest = none ∧ n = (rest.takeWhile isNamed).length := by
  have split : readings = (spaceReadings ++ (reservedReadings ++ (markReadings ++
    [(call, .emit .nameBuiltin), (name .uppercase, .emit .keywordType)]))) ++ (name .lowercase, .emit .name) :: _ := rfl
  rw [split, firstMatch?_of_only (by simp [spaceReadings, reservedReadings, markReadings]) (by simp [numberReadings]),
    firstMatch?_eq_none_iff] at found
  obtain ⟨none, matched⟩ := found
  obtain ⟨-, -, -, -, length⟩ := (matchLength?_name within_letter.2 before).mp matched
  exact ⟨none (call, .emit .nameBuiltin) (by simp), length⟩

/-- So it is for types that begin with an upper-case letter. -/
theorem firstMatch?_type (upper : ∃ c ∈ rest.head?, Unicode.isUppercase c = true)
    (found : firstMatch? readings before rest = some (.emit .keywordType, n)) :
    call.matchLength? before rest = none ∧ n = (rest.takeWhile isNamed).length := by
  obtain ⟨c, head, upper⟩ := upper
  obtain ⟨rest, rfl⟩ := List.head?_eq_some_iff.mp head
  have named : isNamed c = true := isNamed_of_within within_letter.1 upper
  obtain ⟨space, marks⟩ := firstMatch?_named named before rest
  have reserved := firstMatch?_of_beginsApart apart_uppercase upper before rest
  rw [readings, firstMatch?_append, firstMatch?_append, firstMatch?_append, space, reserved, marks, Option.none_or,
    Option.none_or, Option.none_or, firstMatch?_cons, firstMatch?_cons,
    (matchLength?_name within_letter.1 before).mpr ⟨c, rest, rfl, upper, rfl⟩] at found
  cases called : call.matchLength? before (c :: rest) with
  | some k => simp [called] at found
  | none =>
    rw [called, Option.map_none, Option.none_or, Option.map_some, Option.some_or] at found
    simp only [Option.some.injEq, Prod.mk.injEq, true_and] at found
    exact ⟨rfl, found.symm⟩

end

/-- A token between two parts of a text is a call just where no reserved word stands and a name is called, and then it
    is all of the call. No other name is left with an exclamation mark behind it. -/
structure CallsWhole (front : String) (t : Token) (back : String) : Prop where
  iff : t.category = .nameBuiltin ↔
    (∀ p ∈ Table.patternsOf reservedRules, p.matchLength? front.toList.getLast? (t.text ++ back).toList = none) ∧
      ∃ name blanks after, BeginsWithCall (t.text ++ back).toList name blanks after
  whole : t.category = .nameBuiltin →
    ∃ name blanks, BeginsWithCall (t.text ++ back).toList name blanks back.toList ∧
      t.text.toList = name ++ (blanks ++ ['!'])
  bare : t.text = "!" → t.category ≠ .nameBuiltin
  name : t.category = .name → (back.toList.dropWhile Unicode.isWhiteSpace).head? ≠ some '!'
  type : t.category = .keywordType → (∃ c ∈ t.text.toList.head?, Unicode.isUppercase c = true) →
    (back.toList.dropWhile Unicode.isWhiteSpace).head? ≠ some '!'

theorem not_called_of_run {before : Option Char} {text back : List Char}
    (run : call.matchLength? before (text ++ back) = none ∧
      text.length = ((text ++ back).takeWhile isNamed).length) :
    (back.dropWhile Unicode.isWhiteSpace).head? ≠ some '!' := by
  refine not_called (fun c member => ?_) run.1
  rw [eq_takeWhile_of_length run.2] at member
  exact List.mem_takeWhile_imp member

section
variable {front back : String} {t : Token} (made : MadeBy readings front.toList.getLast? back.toList t)
include made

theorem call_iff : t.category = .nameBuiltin ↔
    firstMatch? reservedReadings front.toList.getLast? (t.text.toList ++ back.toList) = none ∧
      ∃ name blanks after, BeginsWithCall (t.text.toList ++ back.toList) name blanks after := by
  constructor
  · intro call
    obtain ⟨reserved, name, blanks, after, begins, -⟩ :=
      firstMatch?_call.mp (firstMatch?_of_category made call (by decide))
    exact ⟨reserved, name, blanks, after, begins⟩
  · rintro ⟨reserved, name, blanks, after, begins⟩
    exact (made.of_firstMatch? (firstMatch?_call.mpr ⟨reserved, name, blanks, after, begins, rfl⟩)).1

theorem call_whole (call : t.category = .nameBuiltin) : ∃ name blanks,
    BeginsWithCall (t.text.toList ++ back.toList) name blanks back.toList ∧
      t.text.toList = name ++ (blanks ++ ['!']) := by
  obtain ⟨-, name, blanks, after, begins, length⟩ :=
    firstMatch?_call.mp (firstMatch?_of_category made call (by decide))
  have split : t.text.toList ++ back.toList = name ++ (blanks ++ ['!']) ++ after := by simp [begins.split]
  obtain ⟨text, rfl⟩ := List.append_inj split (by simp [length]; omega)
  exact ⟨name, blanks, begins, text⟩

theorem callsWhole : CallsWhole front t back := by
  refine ⟨?_, ?_, ?_, ?_, ?_⟩
  · rw [String.toList_append, call_iff made, ← readings_reservedRules, firstMatch?_readings_eq_none_iff]
  · rw [String.toList_append]
    exact call_whole made
  · intro bare call
    obtain ⟨name, blanks, begins, text⟩ := call_whole made call
    have length := congrArg List.length (bare ▸ text)
    have full := List.length_pos_iff.mpr begins.full
    simp at length
    omega
  · intro name
    exact not_called_of_run (firstMatch?_name (firstMatch?_of_category made name (by decide)))
  · rintro type ⟨c, head, upper⟩
    refine not_called_of_run (firstMatch?_type ?_ (firstMatch?_of_category made type (by decide)))
    exact ⟨c, List.mem_head?_append_of_mem_head? head, upper⟩

end

/-- The builtin calls of a source are the names that are called where no reserved word stands. -/
theorem calls_of_listing : ∀ listing, ∃ r, Registry.ofListing listing = .ok r ∧
    (r.findOrPlain "cosy").EveryToken CallsWhole :=
  fun listing => everyToken listing fun _ _ _ => callsWhole

/-- A reserved word is not called, so the mark behind it is an operator. -/
theorem calls_of_listing_reserved : ∃ r, Registry.ofListing .empty = .ok r ∧
    r.lex "cosy" "if!x3 !" = .ok [⟨.keyword, "if", 0, 2⟩, ⟨.operator, "!", 2, 3⟩, ⟨.nameBuiltin, "x3 !", 3, 7⟩] ∧
    CallsWhole "if!" ⟨.nameBuiltin, "x3 !", 3, 7⟩ "" := by
  obtain ⟨r, built, every⟩ := calls_of_listing .empty
  have whole : r.lex "cosy" "if!x3 !" =
      .ok [⟨.keyword, "if", 0, 2⟩, ⟨.operator, "!", 2, 3⟩, ⟨.nameBuiltin, "x3 !", 3, 7⟩] :=
    Registry.lex_eq_of_tableFor built (by decide +kernel)
  exact ⟨r, built, whole, every.holds whole (by simp) ⟨by decide, by decide⟩⟩

/-! ## Reserved words -/

/-- The names of the integer types. -/
def integerTypes : List String := ["i", "u"].flatMap fun letter => integerWidths.map (letter ++ ·)

/-- The names of the float types. -/
def floatTypes : List String := floatWidths.map ("f" ++ ·)

/-- The category of a reserved word, where `inside` says whether it stands behind a word character. -/
def reservedCategory? (inside : Bool) (word : String) : Option Category :=
  if word ∈ keywords then some .keyword
  else if (!inside && (integerTypes ++ floatTypes).contains word) || typeWords.contains word then some .keywordType
  else none

theorem wordy_words : ∀ w ∈ keywords ++ typeWords ++ integerTypes ++ floatTypes,
    IsWordy w.toList ∧ w.toList.head?.any (CharSet.range 'a' 'z').contains = true := by decide

theorem spellings_sized :
    (seq (set (signs 'i' "u")) (oneOf integerWidths)).spellings = integerTypes.map String.toList ∧
      (seq (set (.single 'f')) (oneOf floatWidths)).spellings = floatTypes.map String.toList := by decide

theorem mem_map_toList {words : List String} {cs : List Char} :
    cs ∈ words.map String.toList ↔ String.ofList cs ∈ words := by
  rw [List.mem_map]
  constructor
  · rintro ⟨w, member, rfl⟩
    rwa [String.ofList_toList]
  · intro member
    exact ⟨_, member, String.toList_ofList⟩

section
variable {before : Option Char} {rest : List Char} {c : Char}

theorem matchLength?_words {words : List String} (wordy : ∀ w ∈ words, IsWordy w.toList) :
    (wholeWord words).matchLength? before rest =
      if String.ofList (wordRun rest) ∈ words then some (wordRun rest).length else none := by
  obtain ⟨spelled, same⟩ := oneOf_spelled words
  rw [wholeWord, matchLength?_wholeWord spelled (by simpa [same] using wordy), same]
  simp only [mem_map_toList]

theorem matchLength?_sized {letters : CharSet} {widths types : List String} (listed : letters.isListed = true)
    (same : (seq (set letters) (oneOf widths)).spellings = types.map String.toList)
    (wordy : ∀ w ∈ types, IsWordy w.toList) : (sized letters widths).matchLength? before rest =
      if isWordSide before = false ∧ String.ofList (wordRun rest) ∈ types then some (wordRun rest).length
      else none := by
  have spelled : (seq (set letters) (oneOf widths)).isSpelled = true := by
    rw [isSpelled, isSpelled, listed, (oneOf_spelled widths).1]
    rfl
  rw [sized, matchLength?_boundedWord spelled (by simpa [same] using wordy), same]
  simp only [mem_map_toList]

/-- Where no underscore stands, the characters up to the next that is no word character decide which rule for
    reserved words is the first to match. -/
theorem firstMatch?_reserved (other : c ≠ '_') : firstMatch? reservedReadings before (c :: rest) =
    (reservedCategory? (isWordSide before) (String.ofList (wordRun (c :: rest)))).map
      fun category => (.emit category, (wordRun (c :: rest)).length) := by
  have wordy : ∀ w ∈ keywords ++ typeWords ++ integerTypes ++ floatTypes, IsWordy w.toList :=
    fun w member => (wordy_words w member).1
  simp only [List.forall_mem_append] at wordy
  obtain ⟨⟨⟨keyword, type⟩, integer⟩, float⟩ := wordy
  have underscore : (char '_').matchLength? before (c :: rest) = none := by
    rw [char, matchLength?_set, CharSet.contains_single, if_neg (by simpa using other)]
  rw [reservedReadings, firstMatch?_cons, firstMatch?_cons, firstMatch?_cons, firstMatch?_cons, matchLength?_either,
    matchLength?_words keyword, underscore, matchLength?_sized rfl spellings_sized.1 integer,
    matchLength?_sized rfl spellings_sized.2 float, matchLength?_words type, reservedCategory?]
  generalize String.ofList (wordRun (c :: rest)) = word
  by_cases keyword : word ∈ keywords
  · simp [keyword]
  · by_cases type : word ∈ typeWords <;> by_cases integer : word ∈ integerTypes <;>
      by_cases float : word ∈ floatTypes <;> cases isWordSide before <;> simp [keyword, type, integer, float]

theorem apart_lower : (CharSet.range 'a' 'z').within .lowercase = true ∧ (CharSet.range 'a' 'z').within .letter = true ∧
    (CharSet.range 'a' 'z').apart (.property .uppercase) = true := by decide +kernel

/-- Where a lower-case letter stands, there is a reserved word, a call or a name. -/
theorem firstMatch?_lower (lower : (CharSet.range 'a' 'z').contains c = true) (before : Option Char)
    (rest : List Char) : firstMatch? readings before (c :: rest) =
      (firstMatch? reservedReadings before (c :: rest)).or
        (((call.matchLength? before (c :: rest)).map (.emit .nameBuiltin, ·)).or
          (some (.emit .name, ((c :: rest).takeWhile isNamed).length))) := by
  obtain ⟨lowercase, letter, upper⟩ := apart_lower
  obtain ⟨space, marks⟩ := firstMatch?_named (isNamed_of_within letter lower) before rest
  have found := (matchLength?_name within_letter.2 before).mpr
    ⟨c, rest, rfl, CharSet.holds_of_within lowercase lower, rfl⟩
  have type : (name .uppercase).matchLength? before (c :: rest) = none := by
    apply matchLength?_of_opening
    · rfl
    · exact CharSet.not_contains_of_apart upper lower
  rw [readings, firstMatch?_append, firstMatch?_append, firstMatch?_append, space, marks, Option.none_or,
    Option.none_or, firstMatch?_cons, firstMatch?_cons, firstMatch?_cons, found, type]
  rfl

end

section
variable {front back : String} {t : Token} (made : MadeBy readings front.toList.getLast? back.toList t)
include made

/-- A word that begins with a lower-case letter is a name, unless it is reserved and whole. -/
theorem category_of_word (wordy : ∀ c ∈ t.text.toList, Unicode.isWord c = true) {c : Char} {cs : List Char}
    (letters : t.text.toList = c :: cs) (lower : (CharSet.range 'a' 'z').contains c = true) :
    t.category = if isWordSide back.toList.head? then .name
      else (reservedCategory? (isWordSide front.toList.getLast?) t.text).getD .name := by
  have other : c ≠ '_' := by
    rintro rfl
    exact absurd lower (by decide)
  have whole := wordRun_append wordy back.toList
  have first := firstMatch?_lower lower front.toList.getLast? (cs ++ back.toList)
  rw [firstMatch?_reserved other, ← List.cons_append, ← letters] at first
  cases found : reservedCategory? (isWordSide front.toList.getLast?)
      (String.ofList (wordRun (t.text.toList ++ back.toList))) with
  | some category =>
    rw [found, Option.map_some, Option.some_or] at first
    obtain ⟨same, length⟩ := made.of_firstMatch? first
    have run : t.text.toList = wordRun (t.text.toList ++ back.toList) := eq_takeWhile_of_length length
    rw [← run, String.ofList_toList] at found
    simp [whole.mp run.symm, found, same, Action.resolve]
  | none =>
    have name : t.category = .name := by
      rw [found, Option.map_none, Option.none_or] at first
      cases called : call.matchLength? front.toList.getLast? (t.text.toList ++ back.toList) with
      | some n =>
        rw [called, Option.map_some, Option.some_or] at first
        obtain ⟨name, blanks, -, text⟩ := call_whole made (made.of_firstMatch? first).1
        exact absurd (wordy '!' (by simp [text])) (by decide)
      | none =>
        rw [called, Option.map_none, Option.none_or] at first
        exact (made.of_firstMatch? first).1
    rw [name]
    split
    · rfl
    next ended =>
      rw [whole.mpr (Bool.eq_false_iff.mpr ended), String.ofList_toList] at found
      rw [found, Option.getD_none]

theorem category_of_listed (listed : t.text ∈ keywords ++ typeWords ++ integerTypes ++ floatTypes) :
    t.category = if isWordSide back.toList.head? then .name
      else (reservedCategory? (isWordSide front.toList.getLast?) t.text).getD .name := by
  obtain ⟨⟨full, wordy⟩, lower⟩ := wordy_words t.text listed
  obtain ⟨c, cs, letters⟩ := List.exists_cons_of_ne_nil full
  exact category_of_word made wordy letters (by simpa [letters] using lower)

theorem text_of_keyword (keyword : t.category = .keyword) : t.text = "_" ∨ t.text ∈ keywords := by
  have split : readings = spaceReadings ++ (either (wholeWord keywords) (char '_'), .emit .keyword) :: _ := rfl
  have first := firstMatch?_of_category made keyword (by decide)
  rw [split, firstMatch?_of_only (by simp [spaceReadings]) (by simp [markReadings, numberReadings]),
    matchLength?_either, matchLength?_words fun w member => (wordy_words w (by simp [member])).1] at first
  obtain ⟨-, matched⟩ := first
  split at matched
  next listed =>
    rw [Option.some_or, Option.some.injEq] at matched
    have run : t.text.toList = wordRun (t.text.toList ++ back.toList) := eq_takeWhile_of_length matched.symm
    rw [← run, String.ofList_toList] at listed
    exact .inr listed
  next =>
    obtain ⟨c, cs, letters⟩ := List.exists_cons_of_ne_nil made.full
    rw [Option.none_or, letters, List.cons_append, char, matchLength?_set, CharSet.contains_single] at matched
    split at matched
    next underscore =>
      obtain rfl : c = '_' := by simpa using underscore
      obtain rfl : cs = [] := by simpa using matched
      exact .inl (String.toList_inj.mp letters)
    next => contradiction

end

/-- A token between two parts of a text is a reserved word or a name, as the characters on its two sides decide. -/
structure WordsWhole (front : String) (t : Token) (back : String) : Prop where
  keyword : t.text ∈ keywords → t.category = if isWordSide back.toList.head? then .name else .keyword
  type : t.text ∈ typeWords → t.category = if isWordSide back.toList.head? then .name else .keywordType
  primitive : t.text ∈ integerTypes ++ floatTypes → t.category =
    if isWordSide front.toList.getLast? || isWordSide back.toList.head? then .name else .keywordType
  only : t.category = .keyword → t.text = "_" ∨ t.text ∈ keywords

theorem reservedCategory?_words (inside : Bool) :
    (∀ w ∈ keywords, reservedCategory? inside w = some .keyword) ∧
      (∀ w ∈ typeWords, reservedCategory? inside w = some .keywordType) ∧
        ∀ w ∈ integerTypes ++ floatTypes, reservedCategory? inside w = if inside then none else some .keywordType := by
  cases inside <;> decide

theorem wordsWhole {front back : String} {t : Token} (made : MadeBy readings front.toList.getLast? back.toList t) :
    WordsWhole front t back := by
  obtain ⟨keyword, type, primitive⟩ := reservedCategory?_words (isWordSide front.toList.getLast?)
  refine ⟨?_, ?_, ?_, text_of_keyword made⟩
  · intro listed
    rw [category_of_listed made (by simp [listed]), keyword t.text listed]
    rfl
  · intro listed
    rw [category_of_listed made (by simp [listed]), type t.text listed]
    rfl
  · intro listed
    have among : t.text ∈ keywords ++ typeWords ++ integerTypes ++ floatTypes := by
      rw [List.append_assoc]
      exact List.mem_append_right _ listed
    rw [category_of_listed made among, primitive t.text listed]
    cases isWordSide front.toList.getLast? <;> cases isWordSide back.toList.head? <;> rfl

/-- The reserved words of a source are those that stand as whole words. -/
theorem words_of_listing : ∀ listing, ∃ r, Registry.ofListing listing = .ok r ∧
    (r.findOrPlain "cosy").EveryToken WordsWhole :=
  fun listing => everyToken listing fun _ _ _ => wordsWhole

/-- Behind an underscore, which is a word character, a type is a name; so is a reserved word in front of one. -/
theorem words_of_listing_underscore : ∃ r, Registry.ofListing .empty = .ok r ∧
    r.lex "cosy" "x_i8 let_" = .ok [⟨.name, "x", 0, 1⟩, ⟨.keyword, "_", 1, 2⟩, ⟨.name, "i8", 2, 4⟩,
      ⟨.whitespace, " ", 4, 5⟩, ⟨.name, "let", 5, 8⟩, ⟨.keyword, "_", 8, 9⟩] ∧
    WordsWhole "x_" ⟨.name, "i8", 2, 4⟩ " let_" ∧ WordsWhole "x_i8 " ⟨.name, "let", 5, 8⟩ "_" := by
  obtain ⟨r, built, every⟩ := words_of_listing .empty
  have whole : r.lex "cosy" "x_i8 let_" = .ok [⟨.name, "x", 0, 1⟩, ⟨.keyword, "_", 1, 2⟩, ⟨.name, "i8", 2, 4⟩,
      ⟨.whitespace, " ", 4, 5⟩, ⟨.name, "let", 5, 8⟩, ⟨.keyword, "_", 8, 9⟩] :=
    Registry.lex_eq_of_tableFor built (by decide +kernel)
  exact ⟨r, built, whole, every.holds whole (by simp) ⟨by decide, by decide⟩,
    every.holds whole (by simp) ⟨by decide, by decide⟩⟩

end Highlighter.Cosy
