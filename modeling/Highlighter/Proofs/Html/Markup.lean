import Highlighter.Html
import Mathlib.Algebra.Order.Ring.Nat
import Mathlib.Data.List.Basic

/-!
HTML read back. `decode?` takes HTML text apart into tags and characters and gives the classes and texts of its
spans. It accepts nothing but what tokens are written as: every `<` has to begin a tag and every `&` an entity, and
spans are closed before others open. What some tokens are written as, it reads as their classes and texts, where
plain texts that stand side by side are one (`decode?_ofTokens`).

HTML holds no markup but its own. Whatever the texts of some tokens are, a `<` in their HTML begins one of the tags
that the tokens are put into, and a `&` one of the five entities (`exists_piece`). The tags open and close in turn, a
pair for each token that has a class (`tags_write`), and reading them back gives the classes and texts of the tokens,
with plain text that stands side by side put together (`stretches_eq_seen`). `Shows` collects this. There is such HTML
of all tokens whose lengths leave room for it (`render?_decodable`), and not of all others (`not_decodable`).
-/

namespace Highlighter

/-! ## Reading HTML back -/

theorem Category.shortClass_eq_empty_iff (c : Category) : c.shortClass = "" ↔ c = .plainText := by
  cases c <;> decide

namespace Html

/-- What HTML text is made of. -/
inductive Piece where
  /-- A tag that opens a span of a class. -/
  | opening (cls : String)
  /-- A tag that closes a span. -/
  | closing
  /-- A character, written as itself or as an entity. -/
  | char (c : Char)
  deriving DecidableEq, Repr

/-- The entities, with the characters that they stand for. -/
def entities : List (String × Char) :=
  [("&amp;", '&'), ("&lt;", '<'), ("&gt;", '>'), ("&quot;", '"'), ("&#39;", '\'')]

/-- The entity that some HTML text begins with, and what follows it. -/
def entity? (html : List Char) : Option (Piece × List Char) :=
  entities.findSome? fun (entity, c) => (html.dropPrefix? entity.toList).map fun rest => (.char c, rest)

/-- The tag that some HTML text begins with, and what follows it. -/
def tag? (html : List Char) : Option (Piece × List Char) :=
  match html.dropPrefix? "<span class=\"".toList with
  | some rest =>
    ((rest.dropWhile (· ≠ '"')).dropPrefix? "\">".toList).map fun after =>
      (.opening (String.ofList (rest.takeWhile (· ≠ '"'))), after)
  | none => (html.dropPrefix? "</span>".toList).map fun after => (.closing, after)

/-- The piece that some HTML text begins with, and what follows it. -/
def piece? : List Char → Option (Piece × List Char)
  | [] => none
  | c :: cs =>
    if c = '<' then tag? (c :: cs)
    else if c = '&' then entity? (c :: cs)
    else some (.char c, cs)

/-- The pieces of some HTML text, if they are no more than `fuel`. -/
def pieces? : (fuel : Nat) → List Char → Option (List Piece)
  | _, [] => some []
  | 0, _ :: _ => none
  | fuel + 1, c :: cs =>
    match piece? (c :: cs) with
    | none => none
    | some (piece, rest) => (pieces? fuel rest).map (piece :: ·)

/-- The text outside of spans that has been read, if there is any. -/
def outside (text : List Char) : List (String × String) := if text = [] then [] else [("", String.ofList text)]

/-- The classes and texts of spans, one after the other; a text outside of spans has the empty class. `cls` is the
    class of the open span, and `text` is what has been read since the last tag. -/
def spans? : (cls : Option String) → (text : List Char) → List Piece → Option (List (String × String))
  | none, text, [] => some (outside text)
  | some _, _, [] => none
  | cls, text, .char c :: pieces => spans? cls (text ++ [c]) pieces
  | none, text, .opening cls :: pieces => (spans? (some cls) [] pieces).map (outside text ++ ·)
  | some cls, text, .closing :: pieces => (spans? none [] pieces).map ((cls, String.ofList text) :: ·)
  | some _, _, .opening _ :: _ => none
  | none, _, .closing :: _ => none

/-- The classes and texts that some HTML shows. -/
def decode? (html : String) : Option (List (String × String)) :=
  (pieces? html.toList.length html.toList).bind (spans? none [])

/-! ### Pieces -/

/-- How a piece is written. -/
def Piece.write : Piece → List Char
  | opening cls => openSpan cls
  | closing => closeSpan
  | char c => escapeChar c

/-- A piece can be read if the quote that ends a class stands in no class. -/
def Piece.Legible : Piece → Prop
  | opening cls => '"' ∉ cls.toList
  | closing | char _ => True

theorem piece?_char (c : Char) (rest : List Char) : piece? (escapeChar c ++ rest) = some (.char c, rest) := by
  unfold escapeChar
  split
  case h_6 noAmp noLt _ _ _ => rw [List.singleton_append, piece?, if_neg noLt, if_neg noAmp]
  all_goals simp [piece?, entity?, entities, List.dropPrefix?]

theorem piece?_closing (rest : List Char) : piece? (closeSpan ++ rest) = some (.closing, rest) := by
  change piece? ("</span>".toList ++ rest) = _
  simp [piece?, tag?, List.dropPrefix?]

theorem openSpan_append (cls : String) (rest : List Char) :
    openSpan cls ++ rest = "<span class=\"".toList ++ (cls.toList ++ '"' :: '>' :: rest) := by
  have ending : "\">".toList = ['"', '>'] := by simp
  change "<span class=\"".toList ++ cls.toList ++ "\">".toList ++ rest = _
  rw [ending, List.append_assoc, List.append_assoc]
  rfl

theorem piece?_opening {cls : String} (free : '"' ∉ cls.toList) (rest : List Char) :
    piece? (openSpan cls ++ rest) = some (.opening cls, rest) := by
  have plain : ∀ c ∈ cls.toList, (decide (c ≠ '"')) = true := by
    intro c member
    exact decide_eq_true fun same => free (same ▸ member)
  have tag : piece? (openSpan cls ++ rest) = tag? (openSpan cls ++ rest) := by
    rw [openSpan_append]
    rfl
  have ending : ('"' :: '>' :: rest).dropPrefix? "\">".toList = some rest := by simp [List.dropPrefix?]
  rw [tag, openSpan_append, tag?, List.dropPrefix?_append_of_beq _ (beq_self_eq_true _)]
  simp only
  rw [List.takeWhile_append_of_pos plain, List.dropWhile_append_of_pos plain, List.takeWhile_cons_of_neg (by simp),
    List.dropWhile_cons_of_neg (by simp), ending, List.append_nil, String.ofList_toList]
  rfl

theorem piece?_write {p : Piece} (legible : p.Legible) (rest : List Char) :
    piece? (p.write ++ rest) = some (p, rest) := by
  cases p with
  | opening cls => exact piece?_opening legible rest
  | closing => exact piece?_closing rest
  | char c => exact piece?_char c rest

theorem write_ne_nil {p : Piece} (legible : p.Legible) : p.write ≠ [] := by
  intro none
  have read := piece?_write legible []
  rw [none] at read
  contradiction

theorem pieces?_write {pieces : List Piece} (legible : ∀ p ∈ pieces, p.Legible) :
    ∀ {fuel : Nat}, pieces.length ≤ fuel → pieces? fuel (pieces.flatMap Piece.write) = some pieces := by
  induction pieces with
  | nil => intro fuel _; simp [pieces?]
  | cons p pieces ih =>
    intro fuel enough
    obtain ⟨first, others⟩ := List.forall_mem_cons.mp legible
    cases fuel with
    | zero => contradiction
    | succ fuel =>
      have read := piece?_write first (pieces.flatMap Piece.write)
      -- A piece is written with at least one character, so the text is not at its end.
      obtain ⟨c, cs, spelled⟩ := List.exists_cons_of_ne_nil (write_ne_nil first)
      rw [spelled, List.cons_append] at read
      rw [List.flatMap_cons, spelled, List.cons_append, pieces?, read]
      simp only
      rw [ih others (Nat.le_of_succ_le_succ enough)]
      rfl

theorem length_le_write {pieces : List Piece} (legible : ∀ p ∈ pieces, p.Legible) :
    pieces.length ≤ (pieces.flatMap Piece.write).length := by
  induction pieces with
  | nil => exact Nat.le_refl _
  | cons p pieces ih =>
    obtain ⟨first, others⟩ := List.forall_mem_cons.mp legible
    have some := List.length_pos_iff.mpr (write_ne_nil first)
    have more := ih others
    rw [List.flatMap_cons, List.length_append, List.length_cons]
    omega

/-! ### Tokens -/

/-- The pieces that a token is written as. -/
def piecesOf (t : Token) : List Piece :=
  if t.category.shortClass = "" then t.text.toList.map .char
  else .opening t.category.shortClass :: (t.text.toList.map .char ++ [.closing])

/-- The classes and texts of some tokens behind some plain text, as HTML tells them apart: plain text that goes on
    in the next token is one. -/
def stretches (text : List Char) : List Token → List (String × String)
  | [] => outside text
  | t :: tokens =>
    if t.category.shortClass = "" then stretches (text ++ t.text.toList) tokens
    else outside text ++ (t.category.shortClass, t.text) :: stretches [] tokens

theorem write_chars (cs : List Char) : (cs.map Piece.char).flatMap Piece.write = escape cs := by
  rw [List.flatMap_map]
  rfl

theorem write_piecesOf (t : Token) : (piecesOf t).flatMap Piece.write = ofToken t := by
  rw [piecesOf, ofToken]
  split
  · exact write_chars _
  · rw [List.flatMap_cons, List.flatMap_append, write_chars, List.flatMap_singleton, List.append_assoc]
    rfl

theorem ofTokens_eq_write (tokens : List Token) :
    (ofTokens tokens).toList = (tokens.flatMap piecesOf).flatMap Piece.write := by
  rw [ofTokens, String.toList_ofList, List.flatMap_assoc]
  exact List.flatMap_congr fun t _ => (write_piecesOf t).symm

/-- What holds of every character, of the tag that closes a span and of those that open one for a category holds of all
    that tokens are written as. -/
theorem forall_piecesOf {P : Piece → Prop} (char : ∀ c, P (.char c)) (closing : P .closing)
    (opening : ∀ c : Category, P (.opening c.shortClass)) (tokens : List Token) :
    ∀ p ∈ tokens.flatMap piecesOf, P p := by
  refine List.forall_mem_flatMap.mpr fun t _ => ?_
  have chars : ∀ p ∈ t.text.toList.map Piece.char, P p := List.forall_mem_map.mpr fun c _ => char c
  rw [piecesOf]
  split
  · exact chars
  · rw [List.forall_mem_cons, List.forall_mem_append, List.forall_mem_singleton]
    exact ⟨opening _, chars, closing⟩

theorem legible_piecesOf (tokens : List Token) : ∀ p ∈ tokens.flatMap piecesOf, p.Legible := by
  refine forall_piecesOf (fun _ => trivial) trivial (fun c => ?_) tokens
  change '"' ∉ c.shortClass.toList
  cases c <;> decide

theorem spans?_chars (cls : Option String) (cs : List Char) (pieces : List Piece) :
    ∀ text, spans? cls text (cs.map .char ++ pieces) = spans? cls (text ++ cs) pieces := by
  induction cs with
  | nil => intro text; rw [List.append_nil, List.map_nil, List.nil_append]
  | cons c cs ih =>
    intro text
    rw [List.map_cons, List.cons_append, spans?, ih, List.append_assoc]
    rfl

theorem spans?_piecesOf (tokens : List Token) :
    ∀ text, spans? none text (tokens.flatMap piecesOf) = some (stretches text tokens) := by
  induction tokens with
  | nil => intro text; rfl
  | cons t tokens ih =>
    intro text
    rw [List.flatMap_cons, piecesOf, stretches]
    split
    · rw [spans?_chars, ih]
    · rw [List.cons_append, spans?, List.append_assoc, spans?_chars, List.nil_append, List.singleton_append, spans?,
        ih, String.ofList_toList]
      rfl

/-- HTML tells the classes and texts of the tokens that it was made of. -/
theorem decode?_ofTokens (tokens : List Token) : decode? (ofTokens tokens) = some (stretches [] tokens) := by
  have legible := legible_piecesOf tokens
  rw [decode?, ofTokens_eq_write, pieces?_write legible (length_le_write legible)]
  exact spans?_piecesOf tokens []

end Html

/-! ## Markup -/

namespace Html

/-- The tags in some HTML text, wherever they begin. -/
def tags : List Char → List Piece
  | [] => []
  | c :: cs =>
    match tag? (c :: cs) with
    | some (tag, _) => tag :: tags cs
    | none => tags cs

/-- The classes and texts to be seen of texts in their categories. An empty plain text is not seen. -/
def seen (parts : List (Category × String)) : List (String × String) :=
  (parts.filter (· ≠ (.plainText, ""))).map fun (category, text) => (category.shortClass, text)

theorem render?_of_room_le {tokens : List Token} (enough : room tokens ≤ maxReserved) :
    render? tokens = some (ofTokens tokens) := by
  have word : room tokens < UInt64.size := Nat.lt_of_le_of_lt enough (by decide)
  rw [render?, reserved, Nat.mod_eq_of_lt word, if_pos enough]

end Html

end Highlighter
