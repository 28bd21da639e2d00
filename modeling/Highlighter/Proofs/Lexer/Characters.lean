import Highlighter.Proofs.Pattern.Overlap
import Highlighter.Proofs.Registry

/-!
The characters of a source and the tokens that have them. A character begins a match, goes on with a match that has
begun before it, or is plain text, as nothing matches where it stands (`HeldBy`). What holds in these cases holds of
every character of every source (`everyCharacter`). A character with which few matches can go on begins its token
outside of these (`HeldBy.opens`).
-/

namespace Highlighter
open Pattern

/-- The token has the byte at an offset of its source. -/
def Token.Covers (t : Token) (offset : Nat) : Prop := t.start ≤ offset ∧ offset < t.stop

/-- Every source has tokens, one of them has each of its characters, and something holds of the character with what
    stands before and behind it and of the token that has it. -/
def Lexer.EveryCharacter (l : Lexer) (P : (before : List Char) → Char → (behind : List Char) → Token → Prop) : Prop :=
  ∀ src, ∃ tokens, l.lex src = .ok tokens ∧ ∀ before c behind, src.toList = before ++ c :: behind →
    (∃ t ∈ tokens, t.Covers (byteLength before)) ∧ ∀ t ∈ tokens, t.Covers (byteLength before) → P before c behind t

/-- What holds of every character holds of a given one and the token that has it. -/
theorem Lexer.EveryCharacter.holds {l : Lexer} {P : List Char → Char → List Char → Token → Prop}
    (every : l.EveryCharacter P) {src : String} {tokens : List Token} (lexed : l.lex src = .ok tokens)
    {before behind : List Char} {c : Char} (split : src.toList = before ++ c :: behind) {t : Token} (member : t ∈ tokens)
    (covers : t.Covers (byteLength before)) : P before c behind t := by
  obtain ⟨found, lexed', each⟩ := every src
  obtain rfl := Except.ok.inj (lexed'.symm.trans lexed)
  exact (each before c behind split).2 t member covers

/-- What some patterns make of a character: the token begins at it, or has begun before it with a match of a pattern
    that uses the character behind its start, or nothing matches where the character stands. -/
inductive HeldBy (readings : List (Pattern × Action)) (before : List Char) (c : Char) (behind : List Char) (t : Token) :
    Prop
  | first {action : Action} (start : t.start = byteLength before) (full : t.text.toList ≠ [])
      (text : t.text.toList <+: c :: behind)
      (found : firstMatch? readings before.getLast? (c :: behind) = some (action, t.text.toList.length))
      (category : t.category = action.resolve t.text)
  | later {p : Pattern} {action : Action} (start : t.start < byteLength before) (listed : (p, action) ∈ readings)
      (used : p.avoidsBehind c = false) (category : t.category = action.resolve t.text)
  | plain (missing : firstMatch? readings before.getLast? (c :: behind) = none) (category : t.category = .plainText)

/-! ### Tokens that have a character -/

theorem Tiles.exists_covers {offset : Nat} {cs : List Char} {tokens : List Token} (tiles : Tiles offset cs tokens) :
    ∀ {before behind : List Char} {c : Char}, cs = before ++ c :: behind →
      ∃ t ∈ tokens, t.Covers (offset + byteLength before) := by
  induction tiles with
  | nil offset => intro before behind c split; simp at split
  | @cons offset text rest tokens category some later ih =>
    have onward {more behind : List Char} {c : Char} (split : rest = more ++ c :: behind) :
        ∃ t ∈ .ofChars category offset text :: tokens, t.Covers (offset + byteLength (text ++ more)) := by
      obtain ⟨t, member, covers⟩ := ih split
      rw [byteLength_append, ← Nat.add_assoc]
      exact ⟨t, List.mem_cons_of_mem _ member, covers⟩
    intro before behind c split
    rcases List.append_eq_append_iff.mp split with ⟨more, rfl, left⟩ | ⟨more, rfl, left⟩
    · exact onward left
    · match more with
      | [] =>
        have here : rest = [] ++ c :: behind := left.symm
        simpa using onward here
      | d :: more =>
        have size := byteLength_pos (List.cons_ne_nil d more)
        refine ⟨_, List.mem_cons_self, Nat.le_add_right .., ?_⟩
        change offset + byteLength before < offset + byteLength (before ++ d :: more)
        rw [byteLength_append]
        omega

/-- A character between the ends of a part of a text stands in this part. -/
theorem exists_split_of_inside {front text after before behind : List Char} {c : Char}
    (same : front ++ (text ++ after) = before ++ c :: behind) (starts : byteLength front ≤ byteLength before)
    (stops : byteLength before < byteLength front + byteLength text) :
    ∃ u v, before = front ++ u ∧ text = u ++ c :: v ∧ behind = v ++ after := by
  obtain ⟨u, rfl, within⟩ : ∃ u, before = front ++ u ∧ text ++ after = u ++ c :: behind := by
    rcases List.append_eq_append_iff.mp same with ⟨u, rfl, left⟩ | ⟨more, rfl, left⟩
    · exact ⟨u, rfl, left⟩
    · rw [byteLength_append] at starts
      obtain rfl : more = [] := eq_nil_of_byteLength (by omega)
      exact ⟨[], by simp, left.symm⟩
  rw [byteLength_append] at stops
  rcases List.append_eq_append_iff.mp within with ⟨more, rfl, -⟩ | ⟨more, rfl, left⟩
  · rw [byteLength_append] at stops
    omega
  · match more, left with
    | [], _ => simp at stops
    | d :: v, left =>
      obtain ⟨rfl, rfl⟩ := List.cons.inj left
      exact ⟨u, v, rfl, rfl, rfl⟩

/-- What holds of every character, of the token that has it and of what stands around this token. -/
theorem Lexer.EveryCharacter.and_token {l : Lexer} {P : List Char → Char → List Char → Token → Prop}
    {Q : String → Token → String → Prop} (every : l.EveryCharacter P) (tokens : l.EveryToken Q) :
    l.EveryCharacter fun before c behind t =>
      P before c behind t ∧ c ∈ t.text.toList ∧ ∃ front back, Q front t back := by
  intro src
  obtain ⟨found, lexed, each⟩ := every src
  refine ⟨found, lexed, fun before c behind split => ?_⟩
  obtain ⟨covered, holds⟩ := each before c behind split
  refine ⟨covered, fun t member covers => ⟨holds t member covers, ?_⟩⟩
  obtain ⟨found', lexed', each'⟩ := tokens src
  obtain rfl := Except.ok.inj (lexed'.symm.trans lexed)
  obtain ⟨front, back, between, own⟩ := each' t member
  refine ⟨?_, front, back, own⟩
  obtain ⟨_, text, _, _, _, made⟩ := (tiles_of_lex lexed).exists_of_mem member
  have stops : t.stop = t.start + byteLength t.text.toList := by
    rw [made]
    simp [Token.ofChars]
  have starts : t.start = byteLength front.toList := between.start.trans (utf8ByteSize_eq front)
  have same : front.toList ++ (t.text.toList ++ back.toList) = before ++ c :: behind := by
    rw [← split, between.split, String.toList_append, String.toList_append]
  obtain ⟨above, below⟩ := covers
  obtain ⟨u, v, -, letters, -⟩ := exists_split_of_inside same (by omega) (by omega)
  rw [letters]
  exact List.mem_append_cons_self

theorem Lexer.EveryCharacter.imp {l : Lexer} {P Q : List Char → Char → List Char → Token → Prop}
    (every : l.EveryCharacter P) (each : ∀ before c behind t, P before c behind t → Q before c behind t) :
    l.EveryCharacter Q := by
  intro src
  obtain ⟨tokens, lexed, holds⟩ := every src
  refine ⟨tokens, lexed, fun before c behind split => ?_⟩
  obtain ⟨covered, own⟩ := holds before c behind split
  exact ⟨covered, fun t member covers => each before c behind t (own t member covers)⟩

namespace Lexer

section
variable {language : Language} {rules : List Table.Rule} {declared : List String} {read : List Lexer.Rule}

theorem Cuts.heldBy (related : List.Forall₂ (Table.Rule.ReadAs declared) rules read) {front rest : List Char}
    {t : Token} {later : List Token} (cuts : Cuts read front.getLast? (byteLength front) rest (t :: later))
    {before behind : List Char} {c : Char} (same : front ++ rest = before ++ c :: behind)
    (covers : t.Covers (byteLength before)) : HeldBy (Table.readings rules) before c behind t := by
  obtain ⟨starts, stops⟩ := covers
  cases cuts with
  | @hit _ _ text after _ hit found length some later =>
    obtain ⟨u, v, rfl, rfl, rfl⟩ := exists_split_of_inside same starts stops
    have letters : (Token.ofChars (hit.rule.action.resolve (String.ofList (u ++ c :: v))) (byteLength front)
      (u ++ c :: v)).text.toList = u ++ c :: v := String.toList_ofList
    have first := map_firstHit? related front.getLast? (u ++ c :: v ++ after) 0
    rw [found, Option.map_some, ← length] at first
    by_cases none : u = []
    · subst none
      rw [List.append_nil]
      refine .first rfl ?_ ?_ ?_ rfl
      · rw [letters]
        exact List.cons_ne_nil c v
      · rw [letters]
        exact List.prefix_append (c :: v) after
      · rw [letters]
        exact first.symm
    · obtain ⟨p, listed, matched⟩ := exists_of_firstMatch? first.symm
      refine .later ?_ listed (avoidsBehind_of_matchLength? matched none) rfl
      rw [byteLength_append]
      exact Nat.lt_add_of_pos_right (byteLength_pos none)
  | @plain _ _ run after _ some unmatched ended later =>
    obtain ⟨u, v, rfl, rfl, rfl⟩ := exists_split_of_inside same starts stops
    have missing := unmatched.none_of_append (List.cons_ne_nil c v)
    rw [← List.getLast?_append] at missing
    refine .plain ?_ rfl
    rw [← map_firstHit? related _ _ 0]
    exact Option.map_eq_none_iff.mpr missing

/-- What holds of the tokens that have a character, however they are made, holds of every character of every source. -/
theorem everyCharacter {l : Lexer} (sound : (Table.single language rules).sound = true)
    (built : (Table.single language rules).build = .ok l) (still : ∀ r ∈ rules, r.transition = none)
    {P : List Char → Char → List Char → Token → Prop}
    (each : ∀ before c behind t, HeldBy (Table.readings rules) before c behind t → P before c behind t) :
    l.EveryCharacter P := by
  obtain ⟨read, built', productive, related⟩ := Table.build_single_total sound
  obtain rfl : l = .single language read := Except.ok.inj (built.symm.trans built')
  intro src
  obtain ⟨tokens, lexed⟩ := lex_total productive src
  refine ⟨tokens, lexed, fun before c behind split => ⟨?_, fun t member covers => each _ _ _ _ ?_⟩⟩
  · have covers := (tiles_of_lex lexed).exists_covers split
    rwa [Nat.zero_add] at covers
  · obtain ⟨earlier, later, rfl⟩ := List.append_of_mem member
    obtain ⟨front, rest, whole, cuts⟩ := (cuts_of_lex (Table.still_of_readAs related still) lexed).of_append
    rw [Option.or_none, Nat.zero_add] at cuts
    exact cuts.heldBy related (whole.symm.trans split) covers

end

end Lexer

theorem Registry.everyCharacter_of_tableFor {listing : Listing} {r : Registry} (built : ofListing listing = .ok r)
    {name : String} {language : Language} {rules : List Table.Rule}
    (table : tableFor listing name = .single language rules) (still : ∀ r ∈ rules, r.transition = none)
    {P : List Char → Char → List Char → Token → Prop}
    (each : ∀ before c behind t, HeldBy (Table.readings rules) before c behind t → P before c behind t) :
    (r.findOrPlain name).EveryCharacter P := by
  have made := build_tableFor built name
  have sound := sound_tableFor listing name
  rw [table] at made sound
  exact Lexer.everyCharacter sound made still each

/-! ### Characters that are matched -/

/-- A pattern that uses the character has matched the token that has it, or nothing matches where it stands. -/
theorem HeldBy.used_or_missing {readings : List (Pattern × Action)} {before behind : List Char} {c : Char} {t : Token}
    (held : HeldBy readings before c behind t) :
    (∃ p action, (p, action) ∈ readings ∧ p.avoids c = false ∧ t.category = action.resolve t.text) ∨
      firstMatch? readings before.getLast? (c :: behind) = none ∧ t.category = .plainText := by
  cases held with
  | @first action start full text found category =>
    obtain ⟨p, listed, matched⟩ := exists_of_firstMatch? found
    obtain ⟨after, split⟩ := text
    obtain ⟨d, v, letters⟩ := List.exists_cons_of_ne_nil full
    rw [letters] at split matched
    obtain ⟨rfl, rfl⟩ := List.cons.inj split
    exact .inl ⟨p, action, listed, avoids_of_matchLength? (u := []) matched, category⟩
  | @later p action start listed used category =>
    refine .inl ⟨p, action, listed, ?_, category⟩
    rw [Bool.eq_false_iff]
    intro avoids
    rw [avoidsBehind_of_avoids avoids] at used
    contradiction
  | plain missing category => exact .inr ⟨missing, category⟩

/-! ### Characters that begin their tokens -/

/-- Whether the action gives every text the same one of some categories. -/
def Action.emitsOneOf (categories : List Category) : Action → Bool
  | .emit category => categories.contains category
  | .classify _ => false

theorem Action.resolve_mem {categories : List Category} {action : Action} (test : action.emitsOneOf categories = true)
    (text : String) : action.resolve text ∈ categories := by
  cases action with
  | emit category => exact List.contains_iff_mem.mp test
  | classify f => contradiction

/-- Whether only the patterns that make tokens of some categories use the character. -/
def usedOnlyIn (readings : List (Pattern × Action)) (categories : List Category) (c : Char) : Bool :=
  readings.all fun x => x.2.emitsOneOf categories || x.1.avoids c

/-- Whether the patterns that make no tokens of some categories use the character only where their matches begin. -/
def opensOutside (readings : List (Pattern × Action)) (categories : List Category) (c : Char) : Bool :=
  readings.all fun x => x.2.emitsOneOf categories || x.1.avoidsBehind c

section
variable {readings : List (Pattern × Action)} {categories : List Category} {before behind : List Char} {c : Char}
  {t : Token}

/-- A character that only some patterns use stands in their tokens, or nothing matches where it stands. -/
theorem HeldBy.mem_or_missing (held : HeldBy readings before c behind t) (test : usedOnlyIn readings categories c = true) :
    t.category ∈ categories ∨ firstMatch? readings before.getLast? (c :: behind) = none := by
  rcases held.used_or_missing with ⟨p, action, listed, used, category⟩ | ⟨missing, -⟩
  · rcases (Bool.or_eq_true _ _).mp (List.all_eq_true.mp test _ listed) with emits | avoids
    · exact .inl (category ▸ Action.resolve_mem emits t.text)
    · rw [avoids] at used
      contradiction
  · exact .inr missing

/-- Where a character begins a match, it begins its token, unless a token of the given categories goes on with it. -/
theorem HeldBy.opens (held : HeldBy readings before c behind t) (test : opensOutside readings categories c = true)
    {action : Action} {n : Nat} (found : firstMatch? readings before.getLast? (c :: behind) = some (action, n)) :
    t.start < byteLength before ∧ t.category ∈ categories ∨
      t.start = byteLength before ∧ t.category = action.resolve t.text ∧ t.text.toList = (c :: behind).take n := by
  cases held with
  | first start full text here category =>
    obtain ⟨rfl, rfl⟩ := Prod.mk.inj (Option.some.inj (here.symm.trans found))
    exact .inr ⟨start, category, List.prefix_iff_eq_take.mp text⟩
  | @later p action start listed used category =>
    rcases (Bool.or_eq_true _ _).mp (List.all_eq_true.mp test _ listed) with emits | avoids
    · exact .inl ⟨start, category ▸ Action.resolve_mem emits t.text⟩
    · rw [avoids] at used
      contradiction
  | plain missing category =>
    rw [missing] at found
    contradiction

end

end Highlighter
