import Highlighter.CommandLine.Run
import Highlighter.Proofs.FileTree
import Highlighter.Proofs.Lexer.Partition
import Highlighter.Proofs.Registry
import Highlighter.Proofs.Text

/-!
Positions carried along and positions counted. Advancing over two texts one after the other is advancing over
both at once (`advance_append`), so the location after a text does not depend on how it is cut
(`advance_additive`). What is counted in a text is what is reached by advancing over it from the start
(`atEnd_eq_advance`). So a location that is carried from token to token is always at the position that the
source gives the next token, and listing the tokens of a file in either way prints the same.

Positions tell offsets apart. Going on over any text leads to a later position (`lt_advance`), so of two places between
the characters of a source the one further on has the later position. An offset has no position just if it lies inside
of a character (`takeBytes?_eq_none_iff`), and from the end of the source on every offset has the position of the end.
-/

namespace Highlighter

/-! ## Positions that are carried -/

@[simp] theorem lineFeeds_append (as bs : List Char) : lineFeeds (as ++ bs) = lineFeeds as + lineFeeds bs :=
  List.count_append

theorem foldl_lastLineLength (cs : List Char) (n : Nat) :
    cs.foldl (fun n c => if c = '\n' then 0 else n + c.utf8Size) n =
      if '\n' ∈ cs then lastLineLength cs else n + byteLength cs := by
  induction cs generalizing n with
  | nil => simp
  | cons c cs ih =>
    rw [lastLineLength, List.foldl_cons, List.foldl_cons, ih, ih]
    by_cases feed : c = '\n'
    · simp [feed]
    · have other : '\n' ≠ c := Ne.symm feed
      by_cases later : '\n' ∈ cs
      · simp [later]
      · simp [feed, other, later]
        omega

theorem lastLineLength_append (as bs : List Char) : lastLineLength (as ++ bs) =
    if '\n' ∈ bs then lastLineLength bs else lastLineLength as + byteLength bs := by
  rw [lastLineLength, List.foldl_append, foldl_lastLineLength]
  rfl

theorem lastLineLength_of_no_feed {cs : List Char} (none : '\n' ∉ cs) : lastLineLength cs = byteLength cs := by
  rw [lastLineLength, foldl_lastLineLength, if_neg none, Nat.zero_add]

theorem lineFeeds_of_no_feed {cs : List Char} (none : '\n' ∉ cs) : lineFeeds cs = 0 :=
  List.count_eq_zero_of_not_mem none

theorem takeBytes?_append (front back : List Char) : takeBytes? (byteLength front) (front ++ back) = some front := by
  induction front with
  | nil => cases back <;> simp [takeBytes?]
  | cons c front ih =>
    have some := c.utf8Size_pos
    rw [byteLength_cons, List.cons_append, takeBytes?, if_neg (by omega), if_neg (by omega), Nat.add_sub_cancel_left,
      ih]
    rfl

namespace Position

theorem advance_append (p : Position) (as bs : List Char) : (p.advance as).advance bs = p.advance (as ++ bs) := by
  unfold advance
  rw [lineFeeds_append, lastLineLength_append, byteLength_append]
  -- The last line feed of the whole is in the second text, or else in the first, or there is none.
  by_cases second : '\n' ∈ bs
  · by_cases first : '\n' ∈ as
    · simp [first, second, Nat.add_assoc]
    · simp [first, second, lineFeeds_of_no_feed first]
  · by_cases first : '\n' ∈ as
    · simp [first, second, lineFeeds_of_no_feed second]
      omega
    · simp [first, second, Nat.add_assoc]

theorem lineFeeds_le (cs : List Char) : lineFeeds cs ≤ byteLength cs := by
  induction cs with
  | nil => rfl
  | cons c cs ih =>
    have some := c.utf8Size_pos
    have step : lineFeeds (c :: cs) ≤ lineFeeds cs + 1 := by
      rw [lineFeeds, List.count_cons]
      split <;> simp [lineFeeds]
    rw [byteLength_cons]
    omega

theorem lastLineLength_lt {cs : List Char} (feed : '\n' ∈ cs) : lastLineLength cs < byteLength cs := by
  induction cs with
  | nil => contradiction
  | cons c cs ih =>
    have some := c.utf8Size_pos
    rw [byteLength_cons, ← List.singleton_append, lastLineLength_append]
    by_cases later : '\n' ∈ cs
    · rw [if_pos later]
      exact (ih later).trans_le (Nat.le_add_left _ _)
    · obtain rfl := (List.mem_cons.mp feed).resolve_right later
      rw [if_neg later]
      exact Nat.add_lt_add_right (by decide) _

/-- Neither counter grows by more than the number of bytes. -/
theorem advance_le (p : Position) (cs : List Char) :
    (p.advance cs).line ≤ p.line + byteLength cs ∧ (p.advance cs).column ≤ p.column + byteLength cs := by
  unfold advance
  split
  next feed =>
    have lines := lineFeeds_le cs
    have column := lastLineLength_lt feed
    exact ⟨Nat.add_le_add_left lines _, column.trans_le (Nat.le_add_left _ _)⟩
  next none => exact ⟨Nat.le_add_right _ _, le_rfl⟩

theorem atEnd_eq_advance (cs : List Char) : atEnd cs = start.advance cs := by
  unfold atEnd advance start
  by_cases feed : '\n' ∈ cs
  · simp [feed, Nat.add_comm]
  · simp [feed, lineFeeds_of_no_feed feed, lastLineLength_of_no_feed feed, Nat.add_comm]

theorem atByte?_append (front back : List Char) :
    atByte? (front ++ back) (byteLength front) = some (start.advance front) := by
  rw [atByte?, takeBytes?_append, ← atEnd_eq_advance]
  rfl

end Position

/-! ### Tokens -/

/-- The location after some tokens that begin here. -/
def Location.past (l : Location) (tokens : List Token) : Location := tokens.foldl (fun l t => l.advance t.text) l

theorem Tiles.location_past {offset : Nat} {cs : List Char} {tokens : List Token} (tiles : Tiles offset cs tokens)
    (l : Location) : l.past tokens = { l with position := l.position.advance cs } := by
  induction tiles generalizing l with
  | nil offset => simp [Location.past, Position.advance]
  | @cons offset text rest tokens category some later ih =>
    have here : l.advance (String.ofList text) = { l with position := l.position.advance text } := by
      rw [Location.advance, String.toList_ofList]
    have next := ih (l.advance (String.ofList text))
    rw [here, Position.advance_append, ← here] at next
    exact next

/-- The location that has been carried over the earlier tokens is that of the next one. -/
theorem Tiles.map_position? {src : String} {earlier later : List Token} {t : Token}
    (tiles : Tiles 0 src.toList (earlier ++ t :: later)) (path : String) :
    (t.position? src).map (Location.mk path) = some ((Location.start path).past earlier) := by
  obtain ⟨front, back, split, first, second⟩ := tiles.of_append
  have start : t.start = byteLength front := by simpa using second.start_of_head t rfl
  rw [Token.position?, start, split, Position.atByte?_append, first.location_past]
  rfl

namespace Location

theorem advance_advance (l : Location) (a b : String) : (l.advance a).advance b = l.advance (a ++ b) := by
  rw [advance, advance, advance, String.toList_append]
  exact congrArg (Location.mk l.path) (Position.advance_append ..)

theorem foldl_advance (l : Location) (texts : List String) : texts.foldl advance l = l.advance (String.join texts) := by
  induction texts generalizing l with
  | nil => rfl
  | cons text texts ih => rw [List.foldl_cons, ih, advance_advance, String.join_cons]

/-- Advancing over one text after the other is advancing over all of them at once, from any location. So the location
    after a source does not depend on how it is cut, and the tokens of every lexer end where the source does. No counter
    grows by more than the number of bytes, so none overflows where there is room for that. -/
theorem advance_additive (l : Location) :
    (∀ a b : String, (l.advance a).advance b = l.advance (a ++ b)) ∧
    (∀ texts : List String, texts.foldl advance l = l.advance (String.join texts)) ∧
    (∀ (lexer : Lexer) (src : String) (tokens : List Token), lexer.lex src = .ok tokens →
      l.past tokens = l.advance src) ∧
    ∀ text : String, (l.advance text).position.line ≤ l.position.line + text.utf8ByteSize ∧
      (l.advance text).position.column ≤ l.position.column + text.utf8ByteSize := by
  refine ⟨l.advance_advance, l.foldl_advance, fun lexer src tokens lexed => ?_, fun text => ?_⟩
  · exact (Lexer.tiles_of_lex lexed).location_past l
  · rw [utf8ByteSize_eq]
    exact Position.advance_le _ _

/-- Three lines with a character of two bytes, from the middle of a file on. -/
theorem advance_additive_three_lines : ∃ r, Registry.ofListing .empty = .ok r ∧
    r.lex "cats" "é\n\nx" =
      .ok [⟨.plainText, "é", 0, 2⟩, ⟨.whitespace, "\n\n", 2, 4⟩, ⟨.nameVariable, "x", 4, 5⟩] ∧
    (Location.mk "a.cats" ⟨7, 5⟩).past
        [⟨.plainText, "é", 0, 2⟩, ⟨.whitespace, "\n\n", 2, 4⟩, ⟨.nameVariable, "x", 4, 5⟩] = ⟨"a.cats", ⟨9, 2⟩⟩ ∧
    (((Location.mk "a.cats" ⟨7, 5⟩).advance "é\n").advance "\nx") = ⟨"a.cats", ⟨9, 2⟩⟩ := by
  obtain ⟨r, built, -⟩ := Registry.exists_ofListing .empty
  have lexed : r.lex "cats" "é\n\nx" =
      .ok [⟨.plainText, "é", 0, 2⟩, ⟨.whitespace, "\n\n", 2, 4⟩, ⟨.nameVariable, "x", 4, 5⟩] :=
    Registry.lex_eq_of_tableFor built (by decide +kernel)
  obtain ⟨two, -, tokens, -⟩ := advance_additive ⟨"a.cats", ⟨7, 5⟩⟩
  refine ⟨r, built, lexed, (tokens _ _ _ lexed).trans (by decide +kernel), (two _ _).trans (by decide +kernel)⟩

end Location

namespace CommandLine
open FileTree (bind_run)

/-- The line for a token in a listing of tokens. -/
def tokenLine (l : Location) (t : Token) : String :=
  l.render ++ " " ++ t.category.qualifiedName ++ " " ++ Quoted.quote t.text ++ "\n"

/-- The tokens of a source, a line for each with the position that the source gives it; `none` if one of them
    starts inside a character. -/
def listByPosition? (path src : String) (tokens : List Token) : Option String :=
  (tokens.mapM fun t : Token => (t.position? src).map fun p => tokenLine ⟨path, p⟩ t).map String.join

theorem mapM_position? {src : String} {earlier later : List Token} (path : String)
    (tiles : Tiles 0 src.toList (earlier ++ later)) : ∃ lines,
    (later.mapM fun t : Token => (t.position? src).map fun p => tokenLine ⟨path, p⟩ t) = some lines ∧
      listTokens ((Location.start path).past earlier) later = String.join lines := by
  induction later generalizing earlier with
  | nil => exact ⟨[], rfl, rfl⟩
  | cons t later ih =>
    obtain ⟨p, found, here⟩ := Option.map_eq_some_iff.mp (tiles.map_position? path)
    have longer : earlier ++ t :: later = (earlier ++ [t]) ++ later := by simp
    rw [longer] at tiles
    obtain ⟨lines, placed, listed⟩ := ih tiles
    have next : (Location.start path).past (earlier ++ [t]) = ((Location.start path).past earlier).advance t.text := by
      simp [Location.past]
    rw [next] at listed
    refine ⟨tokenLine ((Location.start path).past earlier) t :: lines, ?_, ?_⟩
    · simp [List.mapM_cons, found, here, placed]
    · rw [String.join_cons, ← listed]
      rfl

theorem listByPosition?_of_lex {l : Lexer} {src : String} {tokens : List Token} (lexed : l.lex src = .ok tokens)
    (path : String) : listByPosition? path src tokens = some (listTokens (.start path) tokens) := by
  have tiles : Tiles 0 src.toList ([] ++ tokens) := Lexer.tiles_of_lex lexed
  obtain ⟨lines, placed, listed⟩ := mapM_position? path tiles
  rw [listByPosition?, placed, Option.map_some, ← listed]
  rfl

theorem lexInput_of_read {tree : FileTree} {r : Registry} {lang : Option String} {input src : String}
    {tokens : List Token} (read : tree.read input = .ok src) (lexed : (chooseLexer r lang input).lex src = .ok tokens) :
    lexInput FileTree.files r lang input tree = (.ok tokens, tree) := by
  rw [lexInput, bind_run]
  simp only [FileTree.files, read, lexed]
  rfl

end CommandLine

namespace Lexer
open CommandLine
open FileTree (bind_run)

/-- A location that is carried over the tokens of a source is, at each token, where the source has that token; so
    the command that lists the tokens of a file shows for each the position that the file gives it. -/
theorem carried_location_agrees :
    (∀ (P : Type) [Engine P] [LawfulEngine P] (l : Lexer P) (src : String) (tokens : List Token),
      l.lex src = .ok tokens → ∀ path earlier t later, tokens = earlier ++ t :: later →
        t.position? src = some ((Location.start path).past earlier).position) ∧
    ∀ (tree : FileTree) (r : Registry) (lang : Option String) (input src : String) (tokens : List Token),
      tree.read input = .ok src → (chooseLexer r lang input).lex src = .ok tokens →
        ∃ listing, listByPosition? input src tokens = some listing ∧
          (Command.lex input lang false).run FileTree.files r tree = (.success listing, tree) := by
  refine ⟨?_, ?_⟩
  · rintro P _ _ l src tokens lexed path earlier t later rfl
    have here := congrArg (Option.map Location.position) ((tiles_of_lex lexed).map_position? path)
    simpa using here
  · intro tree r lang input src tokens read lexed
    refine ⟨_, listByPosition?_of_lex lexed input, ?_⟩
    rw [Command.run, bind_run, lexInput_of_read read lexed]
    rfl

/-- Three lines with a character of two bytes, in a file of the working directory. -/
theorem carried_location_agrees_three_lines : ∃ r, Registry.ofListing .empty = .ok r ∧
    r.lex "cats" "é\n\nx" =
      .ok [⟨.plainText, "é", 0, 2⟩, ⟨.whitespace, "\n\n", 2, 4⟩, ⟨.nameVariable, "x", 4, 5⟩] ∧
    (Token.mk .nameVariable "x" 4 5).position? "é\n\nx" = some ⟨3, 1⟩ ∧
    ∃ tree : FileTree, tree.read "a.cats" = .ok "é\n\nx" ∧
      (Command.lex "a.cats" (some "cats") false).run FileTree.files r tree =
        (.success "a.cats:1:1 Text \"é\"\na.cats:1:3 Text.Whitespace \"\\n\\n\"\na.cats:3:1 Name.Variable \"x\"\n",
          tree) := by
  obtain ⟨r, built, -⟩ := Registry.exists_ofListing .empty
  have lexed : r.lex "cats" "é\n\nx" =
      .ok [⟨.plainText, "é", 0, 2⟩, ⟨.whitespace, "\n\n", 2, 4⟩, ⟨.nameVariable, "x", 4, 5⟩] :=
    Registry.lex_eq_of_tableFor built (by decide +kernel)
  have read : (FileTree.empty.put [['w', 'o', 'r', 'k'], ['a', '.', 'c', 'a', 't', 's']]
      (.file "é\n\nx".toUTF8)).read "a.cats" = .ok "é\n\nx" := by decide +kernel
  obtain ⟨agrees, listed⟩ := carried_location_agrees
  have last := agrees _ _ _ _ lexed "a.cats" [⟨.plainText, "é", 0, 2⟩, ⟨.whitespace, "\n\n", 2, 4⟩] _ [] rfl
  obtain ⟨listing, placed, ran⟩ := listed _ r (some "cats") _ _ _ read lexed
  refine ⟨r, built, lexed, last, _, read, ?_⟩
  have shown : listByPosition? "a.cats" "é\n\nx"
      [⟨.plainText, "é", 0, 2⟩, ⟨.whitespace, "\n\n", 2, 4⟩, ⟨.nameVariable, "x", 4, 5⟩] =
        some "a.cats:1:1 Text \"é\"\na.cats:1:3 Text.Whitespace \"\\n\\n\"\na.cats:3:1 Name.Variable \"x\"\n" := by
    decide +kernel
  rw [ran, Option.some.inj (placed.symm.trans shown)]

end Lexer

/-! ## The order of positions -/

/-- An offset in bytes lies inside of a character: behind its first byte, and before its last one is complete. -/
def InsideCharacter (cs : List Char) (offset : Nat) : Prop :=
  ∃ front c back, cs = front ++ c :: back ∧ byteLength front < offset ∧ offset < byteLength front + c.utf8Size

theorem not_insideCharacter_nil (offset : Nat) : ¬ InsideCharacter [] offset := by
  rintro ⟨front, c, back, split, -, -⟩
  simp at split

theorem insideCharacter_cons (c : Char) (cs : List Char) (offset : Nat) : InsideCharacter (c :: cs) offset ↔
    0 < offset ∧ offset < c.utf8Size ∨ c.utf8Size < offset ∧ InsideCharacter cs (offset - c.utf8Size) := by
  constructor
  · rintro ⟨front, d, back, split, behind, before⟩
    cases front with
    | nil =>
      obtain ⟨rfl, rfl⟩ := List.cons.inj split
      rw [byteLength_nil] at behind before
      exact .inl ⟨behind, by omega⟩
    | cons e front =>
      obtain ⟨rfl, rfl⟩ := List.cons.inj split
      rw [byteLength_cons] at behind before
      exact .inr ⟨by omega, front, d, back, rfl, by omega, by omega⟩
  · rintro (⟨behind, before⟩ | ⟨later, front, d, back, rfl, behind, before⟩)
    · exact ⟨[], c, cs, rfl, behind, by simpa using before⟩
    · refine ⟨c :: front, d, back, rfl, ?_, ?_⟩ <;> rw [byteLength_cons] <;> omega

/-- Only inside of a character are there no characters that make up the bytes in front. -/
theorem takeBytes?_eq_none_iff (cs : List Char) (offset : Nat) :
    takeBytes? offset cs = none ↔ InsideCharacter cs offset := by
  induction cs generalizing offset with
  | nil => simp [takeBytes?, not_insideCharacter_nil]
  | cons c cs ih =>
    rw [takeBytes?, insideCharacter_cons]
    by_cases start : offset = 0
    · simp [start]
    by_cases inside : offset < c.utf8Size
    · simp [start, inside]
      omega
    rw [if_neg start, if_neg inside, Option.map_eq_none_iff, ih]
    by_cases next : offset = c.utf8Size
    · -- Between this character and the next one, where the offset is nought for what follows.
      have outside : ¬ InsideCharacter cs 0 := by
        rintro ⟨front, d, back, -, behind, -⟩
        omega
      simp [next, outside]
    · have later : c.utf8Size < offset := by omega
      simp [inside, later]

/-- More bytes than there are make up all characters. -/
theorem takeBytes?_of_le {cs : List Char} {offset : Nat} (past : byteLength cs ≤ offset) :
    takeBytes? offset cs = some cs := by
  induction cs generalizing offset with
  | nil => rfl
  | cons c cs ih =>
    have some := c.utf8Size_pos
    rw [byteLength_cons] at past
    rw [takeBytes?, if_neg (by omega), if_neg (by omega), ih (by omega), Option.map_some]

namespace Position

/-- Positions come in the order of their lines, and those on one line in the order of their columns. -/
instance : LT Position := ⟨fun p q => p.line < q.line ∨ p.line = q.line ∧ p.column < q.column⟩

theorem lt_iff {p q : Position} : p < q ↔ p.line < q.line ∨ p.line = q.line ∧ p.column < q.column := Iff.rfl

theorem lt_advance (p : Position) {cs : List Char} (some : cs ≠ []) : p < p.advance cs := by
  rw [lt_iff, advance]
  by_cases feed : '\n' ∈ cs
  · have lines : 0 < lineFeeds cs := List.count_pos_iff.mpr feed
    rw [if_pos feed]
    exact .inl (Nat.lt_add_of_pos_right lines)
  · rw [if_neg feed]
    exact .inr ⟨rfl, Nat.lt_add_of_pos_right (byteLength_pos some)⟩

theorem atByte?_of_le {cs : List Char} {offset : Nat} (past : byteLength cs ≤ offset) :
    atByte? cs offset = some (atEnd cs) := by
  rw [atByte?, takeBytes?_of_le past, Option.map_some]

/-- Of two places between characters the one further on has the later position. -/
theorem exists_lt_of_lt {src : String} {m n : Nat} (first : String.Pos.Raw.IsValid src ⟨m⟩)
    (second : String.Pos.Raw.IsValid src ⟨n⟩) (before : m < n) :
    ∃ p q, atByte? src.toList m = some p ∧ atByte? src.toList n = some q ∧ p < q := by
  obtain ⟨front, back, split, rfl⟩ := exists_split_of_isValid first
  obtain ⟨longer, rest, split', rfl⟩ := exists_split_of_isValid second
  -- The text in front of the second place is that in front of the first, and more.
  rcases List.append_eq_append_iff.mp (split.symm.trans split') with ⟨more, rfl, rfl⟩ | ⟨less, rfl, rfl⟩
  · have some : more ≠ [] := by
      rintro rfl
      simp at before
    refine ⟨_, _, by rw [split, atByte?_append], by rw [split', atByte?_append], ?_⟩
    rw [← advance_append]
    exact lt_advance _ some
  · rw [byteLength_append] at before
    omega

end Position

/-- Of two tokens that start between characters of a source, the one that starts further on has the later position;
    a token that starts behind the end has the position of one that starts at the end; and a token has no position just
    if it starts inside of a character. -/
theorem positions_identify_offsets (src : String) :
    (∀ t u : Token, String.Pos.Raw.IsValid src ⟨t.start⟩ → String.Pos.Raw.IsValid src ⟨u.start⟩ → t.start < u.start →
      ∃ p q, t.position? src = some p ∧ u.position? src = some q ∧ p < q) ∧
    (∀ t u : Token, src.utf8ByteSize < t.start → u.start = src.utf8ByteSize → t.position? src = u.position? src) ∧
    ∀ t : Token, t.position? src = none ↔ InsideCharacter src.toList t.start := by
  refine ⟨fun t u first second before => Position.exists_lt_of_lt first second before, fun t u past ended => ?_,
    fun t => ?_⟩
  · rw [utf8ByteSize_eq] at past ended
    rw [Token.position?, Token.position?, Position.atByte?_of_le (Nat.le_of_lt past), Position.atByte?_of_le ended.ge]
  · rw [Token.position?, Position.atByte?, Option.map_eq_none_iff, takeBytes?_eq_none_iff]

/-- A character of two bytes, a line feed, and a letter on the second line. -/
theorem positions_identify_offsets_two_lines :
    (∃ p q, (Token.mk .whitespace "\n" 2 3).position? "é\nx" = some p ∧
      (Token.mk .name "x" 3 4).position? "é\nx" = some q ∧ p < q) ∧
    (Token.mk .name "" 9 9).position? "é\nx" = (Token.mk .name "" 4 4).position? "é\nx" ∧
    (Token.mk .name "" 1 1).position? "é\nx" = none := by
  obtain ⟨ordered, past, inside⟩ := positions_identify_offsets "é\nx"
  refine ⟨ordered _ _ (isValid_append "é" "\nx") (isValid_append "é\n" "x") (by decide), past _ _ (by decide) rfl, ?_⟩
  exact (inside _).mpr ⟨[], 'é', ['\n', 'x'], rfl, by decide, by decide⟩

end Highlighter
