import Highlighter.Proofs.Lexer.Parts
import Highlighter.Proofs.Pattern.Overlap
import Mathlib.Data.List.TakeWhile

/-!
Where the tokens of a lexer with one state come from. Its rules are patterns with an action each, and the first
pattern that matches at a place decides (`firstMatch?`). A token is made by such a match or, where nothing matches, of
plain text (`MadeBy`), so what holds of everything that the rules can make between two parts of a text holds of
every token of every source (`everyToken`).

Words in a language that classifies them. The last rule is that for words (`WordKind.Rules`). Where a word can begin,
no rule before it matches, and it takes all characters with which words go on (`firstMatch?_word`). Where no word can
begin, it is not the first to match (`emitted_of_firstMatch?`). So it is for all tokens of all sources
(`classifiesWords`).
-/

namespace Highlighter

/-! ## What makes a token -/

open Pattern

/-- The patterns of some rules, each with what is made of its matches. -/
def Table.readings (rules : List Table.Rule) : List (Pattern × Action) :=
  rules.filterMap fun r => (Pattern.parse? r.pattern).map (·, r.action)

theorem Table.readings_append (rules others : List Table.Rule) :
    readings (rules ++ others) = readings rules ++ readings others := List.filterMap_append

theorem Table.readings_eq {xs : List (Pattern × Action)} : ∀ {rules : List Table.Rule},
    rules.map (fun r => Pattern.parse? r.pattern) = xs.map (some ·.1) → rules.map (·.action) = xs.map (·.2) →
      readings rules = xs := by
  induction xs with
  | nil => rintro rules parsed -; rw [List.map_eq_nil_iff.mp parsed]; rfl
  | cons x xs ih =>
    intro rules parsed actions
    obtain ⟨r, later, rfl, first, others⟩ := List.map_eq_cons_iff.mp parsed
    obtain ⟨own, rest⟩ := List.cons.inj actions
    have here : (Pattern.parse? r.pattern).map (·, r.action) = some x := by
      rw [first, show r.action = x.2 from own]
      rfl
    rw [readings, List.filterMap_cons, here, ← ih others rest]
    rfl

theorem Table.readings_token {text : String} {p : Pattern} (parsed : Pattern.parse? text = some p)
    (category : Category) (rules : List Table.Rule) :
    readings (.token text category :: rules) = (p, .emit category) :: readings rules := by
  simp [readings, Table.Rule.token, parsed]

theorem Table.readings_classified {text : String} {p : Pattern} (parsed : Pattern.parse? text = some p)
    (f : String → Category) (rules : List Table.Rule) :
    readings (.classified text f :: rules) = (p, .classify f) :: readings rules := by
  simp [readings, Table.Rule.classified, parsed]

theorem Table.exists_of_mem_readings {rules : List Table.Rule} {x : Pattern × Action} (listed : x ∈ readings rules) :
    ∃ r ∈ rules, r.action = x.2 := by
  obtain ⟨r, member, result⟩ := List.mem_filterMap.mp listed
  obtain ⟨p, -, rfl⟩ := Option.map_eq_some_iff.mp result
  exact ⟨r, member, rfl⟩

/-- The action of the first pattern that matches, and the number of characters in the match. -/
def firstMatch? (readings : List (Pattern × Action)) (before : Option Char) (rest : List Char) :
    Option (Action × Nat) :=
  readings.findSome? fun (p, action) => (p.matchLength? before rest).map (action, ·)

section
variable {readings others : List (Pattern × Action)} {before : Option Char} {rest : List Char} {c : Char}
  {p : Pattern} {action other : Action} {n : Nat}

@[simp] theorem firstMatch?_nil : firstMatch? [] before rest = none := rfl

theorem firstMatch?_append : firstMatch? (readings ++ others) before rest =
    (firstMatch? readings before rest).or (firstMatch? others before rest) := List.findSome?_append

theorem firstMatch?_eq_none_iff :
    firstMatch? readings before rest = none ↔ ∀ x ∈ readings, x.1.matchLength? before rest = none := by
  simp [firstMatch?, List.findSome?_eq_none_iff]

/-- No rule is the first to match where none of their patterns does. -/
theorem firstMatch?_readings_eq_none_iff {rules : List Table.Rule} :
    firstMatch? (Table.readings rules) before rest = none ↔
      ∀ p ∈ Table.patternsOf rules, p.matchLength? before rest = none := by
  have patterns : Table.patternsOf rules = (Table.readings rules).map (·.1) := by
    rw [Table.patternsOf, Table.readings, List.filterMap_map, List.map_filterMap]
    simp [Function.comp_def]
  rw [firstMatch?_eq_none_iff, patterns, List.forall_mem_map]

theorem exists_of_firstMatch? (found : firstMatch? readings before rest = some (action, n)) :
    ∃ p, (p, action) ∈ readings ∧ p.matchLength? before rest = some n := by
  obtain ⟨⟨p, own⟩, listed, result⟩ := List.exists_of_findSome?_eq_some found
  obtain ⟨k, matched, same⟩ := Option.map_eq_some_iff.mp result
  obtain ⟨rfl, rfl⟩ := Prod.mk.inj same
  exact ⟨p, listed, matched⟩

theorem firstMatch?_cons : firstMatch? ((p, action) :: readings) before rest =
    ((p.matchLength? before rest).map (action, ·)).or (firstMatch? readings before rest) := by
  rw [firstMatch?, List.findSome?_cons]
  simp only
  cases p.matchLength? before rest <;> rfl

/-- An action that only one pattern has is taken if this pattern matches and none before it does. -/
theorem firstMatch?_of_only (front : ∀ x ∈ readings, x.2 ≠ action) (back : ∀ x ∈ others, x.2 ≠ action) :
    firstMatch? (readings ++ (p, action) :: others) before rest = some (action, n) ↔
      firstMatch? readings before rest = none ∧ p.matchLength? before rest = some n := by
  rw [firstMatch?_append, firstMatch?_cons]
  cases early : firstMatch? readings before rest with
  | some result =>
    obtain ⟨own, k⟩ := result
    obtain ⟨q, listed, -⟩ := exists_of_firstMatch? early
    have different : own ≠ action := front (q, own) listed
    simp [different]
  | none =>
    cases here : p.matchLength? before rest with
    | some k => simp
    | none =>
      cases late : firstMatch? others before rest with
      | none => simp
      | some result =>
        obtain ⟨own, k⟩ := result
        obtain ⟨q, listed, -⟩ := exists_of_firstMatch? late
        have different : own ≠ action := back (q, own) listed
        simp [different]

/-- Whether no match of some patterns can be empty or begin with a member of a set. -/
def beginsApart (readings : List (Pattern × Action)) (m : CharSet) : Bool :=
  readings.all fun x => !x.1.canBeEmpty && m.outside x.1.opening

theorem firstMatch?_of_beginsApart {m : CharSet} (test : beginsApart readings m = true)
    (member : m.contains c = true) (before : Option Char) (rest : List Char) :
    firstMatch? readings before (c :: rest) = none := by
  refine firstMatch?_eq_none_iff.mpr fun x listed => ?_
  obtain ⟨full, outside⟩ := (Bool.and_eq_true _ _).mp (List.all_eq_true.mp test x listed)
  exact matchLength?_of_opening (by simpa using full) (CharSet.not_contains_of_outside outside member) before rest

/-- Where a pattern matches, no rules do whose patterns cannot begin in the same way. -/
theorem firstMatch?_of_separate {rules : List Table.Rule} {p : Pattern}
    (test : ∀ q ∈ Table.patternsOf rules, q.separate p = true) {e : Spot} (found : p.Matches ⟨before, rest, 0⟩ e) :
    firstMatch? (Table.readings rules) before rest = none := by
  refine firstMatch?_readings_eq_none_iff.mpr fun q listed => ?_
  cases other : q.matchLength? before rest with
  | none => rfl
  | some n => exact absurd found (not_matches_of_separate (test q listed) (matches_of_matchLength? other))

end

/-- The token is what some patterns make of its characters between the character `before` and those `behind`. -/
inductive MadeBy (readings : List (Pattern × Action)) (before : Option Char) (behind : List Char) (t : Token) : Prop
  | matched {action : Action} (full : t.text.toList ≠ [])
      (found : firstMatch? readings before (t.text.toList ++ behind) = some (action, t.text.toList.length))
      (category : t.category = action.resolve t.text)
  | plain (full : t.text.toList ≠ []) (missing : firstMatch? readings before (t.text.toList ++ behind) = none)
      (category : t.category = .plainText)

namespace MadeBy
variable {readings : List (Pattern × Action)} {before : Option Char} {behind : List Char} {t : Token}
  (made : MadeBy readings before behind t)
include made

theorem full : t.text.toList ≠ [] := by
  cases made with
  | matched full => exact full
  | plain full => exact full

theorem of_firstMatch? {action : Action} {n : Nat}
    (found : firstMatch? readings before (t.text.toList ++ behind) = some (action, n)) :
    t.category = action.resolve t.text ∧ t.text.toList.length = n := by
  cases made with
  | plain full missing category => rw [missing] at found; contradiction
  | matched full first category =>
    rw [found, Option.some.injEq, Prod.mk.injEq] at first
    obtain ⟨rfl, length⟩ := first
    exact ⟨category, length.symm⟩

theorem category_eq : t.category = ((firstMatch? readings before (t.text.toList ++ behind)).map Prod.fst).elim
    .plainText (·.resolve t.text) := by
  cases made with
  | matched full found category => rw [found, category]; rfl
  | plain full missing category => rw [missing, category]; rfl

end MadeBy

/-- Only rules with one of the given patterns make tokens of the category. -/
def Table.OnlyFrom (rules : List Table.Rule) (category : Category) (patterns : List Pattern) : Prop :=
  ∀ r ∈ rules, ∀ text, r.action.resolve text = category → ∃ p ∈ patterns, Pattern.parse? r.pattern = some p

namespace Table
variable {category : Category} {patterns : List Pattern}

@[simp] theorem onlyFrom_nil : OnlyFrom [] category patterns := by simp [OnlyFrom]

@[simp] theorem onlyFrom_token {text : String} {made : Category} {rules : List Table.Rule} :
    OnlyFrom (.token text made :: rules) category patterns ↔
      (made = category → ∃ p ∈ patterns, Pattern.parse? text = some p) ∧ OnlyFrom rules category patterns := by
  simp [OnlyFrom, Table.Rule.token, Action.resolve]

@[simp] theorem onlyFrom_classified {text : String} {f : String → Category} {rules : List Table.Rule} :
    OnlyFrom (.classified text f :: rules) category patterns ↔
      (∀ word, f word = category → ∃ p ∈ patterns, Pattern.parse? text = some p) ∧
        OnlyFrom rules category patterns := by
  simp [OnlyFrom, Table.Rule.classified, Action.resolve]

end Table

/-- A token of a category is a match of one of the patterns that make such tokens. -/
theorem MadeBy.exists_pattern {rules : List Table.Rule} {category : Category} {patterns : List Pattern}
    (only : Table.OnlyFrom rules category patterns) (coloured : category ≠ .plainText) {before : Option Char}
    {behind : List Char} {t : Token} (made : MadeBy (Table.readings rules) before behind t)
    (same : t.category = category) :
    ∃ p ∈ patterns, p.matchLength? before (t.text.toList ++ behind) = some t.text.toList.length := by
  cases made with
  | plain full missing plain => exact absurd (same.symm.trans plain) coloured
  | matched full found own =>
    obtain ⟨p, listed, matched⟩ := exists_of_firstMatch? found
    obtain ⟨r, member, result⟩ := List.mem_filterMap.mp listed
    obtain ⟨q, parsed, pair⟩ := Option.map_eq_some_iff.mp result
    obtain ⟨rfl, rfl⟩ := Prod.mk.inj pair
    obtain ⟨q', known, parsed'⟩ := only r member t.text (own.symm.trans same)
    obtain rfl : q = q' := Option.some.inj (parsed.symm.trans parsed')
    exact ⟨q, known, matched⟩

/-- The token stands between two parts of a source. -/
structure Token.Between (t : Token) (src front back : String) : Prop where
  split : src = front ++ (t.text ++ back)
  start : t.start = front.utf8ByteSize

/-- A token stands at one place only. -/
theorem Token.Between.unique {t : Token} {src front back front' back' : String} (here : t.Between src front back)
    (there : t.Between src front' back') : front = front' ∧ back = back' := by
  have split := congrArg String.toList (here.split.symm.trans there.split)
  have size : byteLength front.toList = byteLength front'.toList := by
    rw [← utf8ByteSize_eq, ← utf8ByteSize_eq, ← here.start, ← there.start]
  simp only [String.toList_append] at split
  obtain ⟨fronts, rests⟩ := append_inj_of_byteLength split size
  exact ⟨String.toList_inj.mp fronts, String.toList_inj.mp (List.append_cancel_left rests)⟩

namespace Lexer

/-- Every source has tokens, and something holds of each of them with what stands before and behind it. -/
def EveryToken (l : Lexer) (P : (front : String) → Token → (back : String) → Prop) : Prop :=
  ∀ src, ∃ tokens, l.lex src = .ok tokens ∧ ∀ t ∈ tokens, ∃ front back, t.Between src front back ∧ P front t back

/-- What holds of every token holds of a given one between the two parts of its source. -/
theorem EveryToken.holds {l : Lexer} {P : String → Token → String → Prop} (every : l.EveryToken P)
    {src front back : String} {tokens : List Token} (lexed : l.lex src = .ok tokens) {t : Token} (member : t ∈ tokens)
    (between : t.Between src front back) : P front t back := by
  obtain ⟨found, lexed', each⟩ := every src
  obtain rfl := Except.ok.inj (lexed'.symm.trans lexed)
  obtain ⟨front', back', between', holds⟩ := each t member
  obtain ⟨rfl, rfl⟩ := between.unique between'
  exact holds

/-- The action of the first rule of the root state that matches at a place. -/
def actionAt? (l : Lexer) (front rest : String) : Option Action :=
  (firstHit? front.toList.getLast? rest.toList 0 (l.rulesOf Table.rootName)).map (·.rule.action)

section
variable {language : Language} {rules : List Table.Rule} {declared : List String} {read : List Lexer.Rule}

theorem map_firstHit? (related : List.Forall₂ (Table.Rule.ReadAs declared) rules read) (before : Option Char)
    (rest : List Char) : ∀ index, (firstHit? before rest index read).map (fun hit => (hit.rule.action, hit.length)) =
      firstMatch? (Table.readings rules) before rest := by
  induction related with
  | nil => intro index; rfl
  | @cons r c rules read first others ih =>
    intro index
    have step : Table.readings (r :: rules) = (c.pattern, c.action) :: Table.readings rules := by
      rw [Table.readings, List.filterMap_cons, first.parse?_eq, first.action]
      rfl
    rw [step, firstMatch?_cons, firstHit?_cons, ← ih (index + 1)]
    cases c.pattern.matchLength? before rest <;> rfl

theorem actionAt?_single (related : List.Forall₂ (Table.Rule.ReadAs declared) rules read) (front rest : String) :
    (single language read).actionAt? front rest =
      (firstMatch? (Table.readings rules) front.toList.getLast? rest.toList).map Prod.fst := by
  rw [actionAt?, rulesOf_single, if_pos rfl, ← map_firstHit? related _ _ 0, Option.map_map]
  rfl

theorem Cuts.madeBy (related : List.Forall₂ (Table.Rule.ReadAs declared) rules read) {before : Option Char}
    {offset : Nat} {cs : List Char} {t : Token} {later : List Token} (cuts : Cuts read before offset cs (t :: later)) :
    ∃ behind, cs = t.text.toList ++ behind ∧ t.start = offset ∧ MadeBy (Table.readings rules) before behind t := by
  cases cuts with
  | @hit _ _ text after _ hit found length some later =>
    have first := map_firstHit? related before (text ++ after) 0
    rw [found, Option.map_some, ← length] at first
    have letters : (Token.ofChars (hit.rule.action.resolve (String.ofList text)) offset text).text.toList = text :=
      String.toList_ofList
    refine ⟨after, ?_, rfl, .matched ?_ ?_ rfl⟩
    · rw [letters]
    · rwa [letters]
    · rwa [letters, eq_comm]
  | @plain _ _ run after _ some unmatched ended later =>
    have first := map_firstHit? related before (run ++ after) 0
    rw [unmatched.none_here some] at first
    have letters : (Token.ofChars .plainText offset run).text.toList = run := String.toList_ofList
    refine ⟨after, ?_, rfl, .plain ?_ ?_ rfl⟩
    · rw [letters]
    · rwa [letters]
    · rwa [letters, eq_comm]

section
variable {l : Lexer} (sound : (Table.single language rules).sound = true)
  (built : (Table.single language rules).build = .ok l)
include sound built

theorem actionAt?_of_build (front rest : String) : l.actionAt? front rest =
    (firstMatch? (Table.readings rules) front.toList.getLast? rest.toList).map Prod.fst := by
  obtain ⟨read, built', -, related⟩ := Table.build_single_total sound
  obtain rfl : l = .single language read := Except.ok.inj (built.symm.trans built')
  exact actionAt?_single related front rest

variable (still : ∀ r ∈ rules, r.transition = none)
include still

/-- A source that the first match uses as a whole is one token. -/
theorem lex_of_firstMatch? {src : String} {action : Action} (full : src ≠ "")
    (found : firstMatch? (Table.readings rules) none src.toList = some (action, src.toList.length)) :
    l.lex src = .ok [⟨action.resolve src, src, 0, src.utf8ByteSize⟩] := by
  obtain ⟨read, built', productive, related⟩ := Table.build_single_total sound
  obtain rfl : l = .single language read := Except.ok.inj (built.symm.trans built')
  rw [← map_firstHit? related none _ 0] at found
  obtain ⟨hit, first, same⟩ := Option.map_eq_some_iff.mp found
  obtain ⟨rfl, length⟩ := Prod.mk.inj same
  rw [← List.append_nil src.toList] at first
  have cuts := Cuts.hit first length.symm (by simpa using full) (.nil _ (0 + byteLength src.toList))
  rw [List.append_nil, Token.ofChars_zero, String.ofList_toList] at cuts
  exact cuts.lex (Table.still_of_readAs related still) productive

/-- What holds of all that the rules make between two parts of a text holds of every token of every source. -/
theorem everyToken {P : String → Token → String → Prop}
    (each : ∀ front t back, MadeBy (Table.readings rules) front.toList.getLast? back.toList t → P front t back) :
    l.EveryToken P := by
  obtain ⟨read, built', productive, related⟩ := Table.build_single_total sound
  obtain rfl : l = .single language read := Except.ok.inj (built.symm.trans built')
  intro src
  obtain ⟨tokens, lexed⟩ := lex_total productive src
  refine ⟨tokens, lexed, fun t member => ?_⟩
  obtain ⟨earlier, later, split⟩ := List.append_of_mem member
  rw [split] at lexed
  obtain ⟨front, rest, whole, cuts⟩ := (cuts_of_lex (Table.still_of_readAs related still) lexed).of_append
  obtain ⟨behind, text, start, made⟩ := cuts.madeBy related
  rw [Option.or_none] at made
  rw [Nat.zero_add, ← utf8ByteSize_ofList] at start
  refine ⟨.ofList front, .ofList behind, ⟨?_, start⟩, each _ _ _ ?_⟩
  · rw [← String.toList_inj, String.toList_append, String.toList_append, String.toList_ofList, String.toList_ofList,
      ← text, whole]
  · rwa [String.toList_ofList, String.toList_ofList]

end

end

end Lexer

/-! ## Words -/

/-- The words of a language: the characters with which they begin and go on, and their categories. -/
structure WordKind where
  begins : Char → Bool
  goesOn : Char → Bool
  classify : String → Category

/-- A character with which words begin, and behind it only characters with which they go on. -/
def WordKind.IsWord (k : WordKind) (word : String) : Prop :=
  ∃ c cs, word.toList = c :: cs ∧ k.begins c = true ∧ ∀ d ∈ cs, k.goesOn d = true

/-- A lexer classifies words: a token that begins as words do is all of a word and has the word's category, and no
    other token has been classified. A word that stands alone is one token. -/
structure Lexer.ClassifiesWords (l : Lexer) (k : WordKind) : Prop where
  tokens : l.EveryToken fun front t back => ∃ c cs, t.text.toList = c :: cs ∧
    t.category = (l.actionAt? front (t.text ++ back)).elim .plainText (·.resolve t.text) ∧
    if k.begins c then
      t.text.toList = (t.text ++ back).toList.takeWhile k.goesOn ∧ t.category = k.classify t.text
    else ∀ f, l.actionAt? front (t.text ++ back) ≠ some (.classify f)
  alone : ∀ word, k.IsWord word → l.lex word = .ok [⟨k.classify word, word, 0, word.utf8ByteSize⟩]

namespace WordKind

/-- Rules before that for words, which has the pattern `p`. -/
structure Rules (k : WordKind) (fixed : List Table.Rule) (p : Pattern) : Prop where
  goesOn : ∀ c, k.begins c = true → k.goesOn c = true
  emitted : ∀ r ∈ fixed, ∃ category, r.action = .emit category
  missing : ∀ before c rest, k.begins c = true → firstMatch? (Table.readings fixed) before (c :: rest) = none
  whole : ∀ before c rest, k.begins c = true →
    p.matchLength? before (c :: rest) = some ((c :: rest).takeWhile k.goesOn).length
  other : ∀ before c rest, k.begins c = false → firstMatch? (Table.readings fixed) before (c :: rest) = none →
    p.matchLength? before (c :: rest) = none

section
variable {k : WordKind} {fixed : List Table.Rule} {p : Pattern} {text : String}

theorem readings_words (parsed : Pattern.parse? text = some p) :
    Table.readings (fixed ++ [.classified text k.classify]) = Table.readings fixed ++ [(p, .classify k.classify)] := by
  rw [Table.readings_append, Table.readings_classified parsed]
  rfl

theorem still_words (still : ∀ r ∈ fixed, r.transition = none) :
    ∀ r ∈ fixed ++ [.classified text k.classify], r.transition = none :=
  List.forall_mem_append.mpr ⟨still, List.forall_mem_singleton.mpr rfl⟩

namespace Rules
variable (rules : k.Rules fixed p) (parsed : Pattern.parse? text = some p) {before : Option Char} {c : Char}
  {rest : List Char}
include rules parsed

theorem firstMatch?_word (begins : k.begins c = true) (before : Option Char) (rest : List Char) :
    firstMatch? (Table.readings (fixed ++ [.classified text k.classify])) before (c :: rest) =
      some (.classify k.classify, ((c :: rest).takeWhile k.goesOn).length) := by
  rw [readings_words parsed, firstMatch?_append, rules.missing before c rest begins, firstMatch?_cons,
    rules.whole before c rest begins]
  rfl

theorem emitted_of_firstMatch? (other : k.begins c = false) {action : Action} {n : Nat}
    (found : firstMatch? (Table.readings (fixed ++ [.classified text k.classify])) before (c :: rest) =
      some (action, n)) : ∃ category, action = .emit category := by
  rw [readings_words parsed, firstMatch?_append, firstMatch?_cons] at found
  cases early : firstMatch? (Table.readings fixed) before (c :: rest) with
  | some result =>
    obtain rfl : result = (action, n) := by simpa [early] using found
    obtain ⟨q, listed, -⟩ := exists_of_firstMatch? early
    obtain ⟨r, member, rfl⟩ := Table.exists_of_mem_readings listed
    exact rules.emitted r member
  | none =>
    rw [early, rules.other before c rest other early] at found
    contradiction

section
variable {language : Language} {l : Lexer}
  (sound : (Table.single language (fixed ++ [.classified text k.classify])).sound = true)
  (still : ∀ r ∈ fixed, r.transition = none)
  (built : (Table.single language (fixed ++ [.classified text k.classify])).build = .ok l)
include sound still built

theorem lex_word {word : String} (isWord : k.IsWord word) :
    l.lex word = .ok [⟨k.classify word, word, 0, word.utf8ByteSize⟩] := by
  obtain ⟨c, cs, letters, begins, goesOn⟩ := isWord
  have whole : (c :: cs).takeWhile k.goesOn = c :: cs :=
    List.takeWhile_eq_self_iff.mpr (List.forall_mem_cons.mpr ⟨rules.goesOn c begins, goesOn⟩)
  have found := rules.firstMatch?_word parsed begins none cs
  rw [whole, ← letters] at found
  have full : word ≠ "" := by
    rintro rfl
    simp at letters
  exact Lexer.lex_of_firstMatch? sound built (still_words still) full found

theorem classifiesWords : l.ClassifiesWords k := by
  refine ⟨Lexer.everyToken sound built (still_words still) ?_, fun word => rules.lex_word parsed sound still built⟩
  intro front t back made
  obtain ⟨c, cs, letters⟩ := List.exists_cons_of_ne_nil made.full
  rw [Lexer.actionAt?_of_build sound built, String.toList_append]
  refine ⟨c, cs, letters, made.category_eq, ?_⟩
  split
  next begins =>
    have found := rules.firstMatch?_word parsed begins front.toList.getLast? (cs ++ back.toList)
    rw [← List.cons_append, ← letters] at found
    obtain ⟨category, length⟩ := made.of_firstMatch? found
    exact ⟨eq_takeWhile_of_length length, category⟩
  next other =>
    intro f action
    obtain ⟨⟨own, n⟩, found, rfl⟩ := Option.map_eq_some_iff.mp action
    rw [letters, List.cons_append] at found
    obtain ⟨category, emitted⟩ := rules.emitted_of_firstMatch? parsed (Bool.eq_false_iff.mpr other) found
    contradiction

end

end Rules

end

end WordKind

end Highlighter
