import Highlighter.Proofs.Html.Markup
import Highlighter.Proofs.Language.Neighbours

/-!
Highlighting loses nothing. HTML tells the categories and texts of the tokens that it was made of, if none is empty
and no two of plain text stand side by side (`recover?_ofTokens`), and the tokens of the registered languages are
so. From the HTML of a source its tokens and the source itself can be read back (`highlight_recoverable`). For the
tokens of a source there is HTML, unless it has more than `maxReserved / 21` bytes (`block?_of_lex`).
-/

namespace Highlighter

/-- The category that style sheets know by a class. -/
def Category.ofShortClass? (cls : String) : Option Category := all.find? fun c => c.shortClass == cls

theorem Category.ofShortClass?_shortClass (c : Category) : ofShortClass? c.shortClass = some c := by
  cases c <;> decide

namespace Html

theorem stretches_of_head {tokens : List Token} (coloured : ∀ t ∈ tokens.head?, t.category ≠ .plainText)
    (text : List Char) : stretches text tokens = outside text ++ stretches [] tokens := by
  cases tokens with
  | nil => simp [stretches, outside]
  | cons t tokens =>
    have classed : t.category.shortClass ≠ "" :=
      fun none => coloured t rfl ((Category.shortClass_eq_empty_iff _).mp none)
    rw [stretches, stretches, if_neg classed, if_neg classed]
    rfl

theorem stretches_eq_map {tokens : List Token} (full : ∀ t ∈ tokens, t.text ≠ "") (apart : PlainApart tokens) :
    stretches [] tokens = tokens.map fun t => (t.category.shortClass, t.text) := by
  induction tokens with
  | nil => rfl
  | cons t tokens ih =>
    obtain ⟨some, others⟩ := List.forall_mem_cons.mp full
    obtain ⟨first, later⟩ := List.isChain_cons.mp apart
    rw [stretches, List.map_cons, ← ih others later]
    split
    · next none =>
      have plain := (Category.shortClass_eq_empty_iff _).mp none
      have nonempty : t.text.toList ≠ [] := by simpa using some
      rw [stretches_of_head fun next listed => first next listed plain, List.nil_append, outside, if_neg nonempty,
        String.ofList_toList, none]
      rfl
    · rfl

/-- The categories and texts of the tokens that some HTML shows. -/
def recover? (html : String) : Option (List (Category × String)) :=
  (decode? html).bind fun spans => spans.mapM fun span => (Category.ofShortClass? span.1).map (·, span.2)

/-- HTML tells the categories and texts of the tokens that it was made of, if none is empty and no two plain ones
    stand side by side. -/
theorem recover?_ofTokens {tokens : List Token} (full : ∀ t ∈ tokens, t.text ≠ "") (apart : PlainApart tokens) :
    recover? (ofTokens tokens) = some (tokens.map fun t => (t.category, t.text)) := by
  rw [recover?, decode?_ofTokens, stretches_eq_map full apart, Option.bind_some]
  clear full apart
  induction tokens with
  | nil => rfl
  | cons t tokens ih =>
    rw [List.map_cons, List.mapM_cons, ih, Category.ofShortClass?_shortClass]
    rfl

end Html

/-- Every token of a source has a byte at least, so the room for its HTML is at most 21 bytes for each of the source. -/
theorem Tiles.room_le {offset : Nat} {cs : List Char} {tokens : List Token} (tiles : Tiles offset cs tokens) :
    Html.room tokens ≤ 21 * byteLength cs := by
  induction tiles with
  | nil offset => exact Nat.zero_le _
  | @cons offset text rest tokens category some later ih =>
    have full := byteLength_pos some
    have length : (Token.ofChars category offset text).length = byteLength text := by simp [Token.length, Token.ofChars]
    rw [Html.room, length, byteLength_append]
    omega

theorem Html.block?_of_lex {P : Type} [Engine P] [LawfulEngine P] {l : Lexer P} {src : String} {tokens : List Token}
    (lexed : l.lex src = .ok tokens) (short : 21 * src.utf8ByteSize ≤ maxReserved) :
    block? tokens = some (codeBlock tokens) := by
  have enough := (Lexer.tiles_of_lex lexed).room_le
  rw [← utf8ByteSize_eq] at enough
  rw [block?, render?_of_room_le (Nat.le_trans enough short)]
  rfl

theorem ofTokens_eq_of_codeBlock {tokens tokens' : List Token}
    (same : Html.codeBlock tokens = Html.codeBlock tokens') : Html.ofTokens tokens = Html.ofTokens tokens' :=
  (String.append_right_inj _).mp ((String.append_left_inj _).mp same)

namespace Registry

theorem recover?_of_lex {listing : Listing} {r : Registry} (built : ofListing listing = .ok r) {name code : String}
    {tokens : List Token} (lexed : r.lex name code = .ok tokens) :
    Html.recover? (Html.ofTokens tokens) = some (tokens.map fun t => (t.category, t.text)) := by
  have full := (Lexer.tiles_of_lex lexed).partition.nonempty
  exact Html.recover?_ofTokens (fun t member => (full t member).1) (plainApart_of_lex built lexed)

theorem highlight_of_lex {r : Registry} {name code : String} {tokens : List Token}
    (lexed : r.lex name code = .ok tokens) : r.highlight name code = .ok (Html.codeBlock tokens) := by
  rw [highlight, lexed]
  rfl

/-- From the HTML of a source its tokens and the source itself can be read back, so two sources have the same HTML
    only if they are the same and have the same tokens. -/
theorem highlight_recoverable : ∀ listing listing', ∃ r r',
    ofListing listing = .ok r ∧ ofListing listing' = .ok r' ∧
    (∀ name code, ∃ tokens body, r.lex name code = .ok tokens ∧
      r.highlight name code = .ok ("<pre><code class=\"hl\">" ++ body ++ "</code></pre>") ∧
      Html.recover? body = some (tokens.map fun t => (t.category, t.text)) ∧
      String.join (tokens.map (·.text)) = code) ∧
    ∀ name name' code code', r.highlight name code = r'.highlight name' code' →
      code = code' ∧ r.lex name code = r'.lex name' code' := by
  intro listing listing'
  obtain ⟨r, built, -⟩ := exists_ofListing listing
  obtain ⟨r', built', -⟩ := exists_ofListing listing'
  refine ⟨r, r', built, built', fun name code => ?_, fun name name' code code' same => ?_⟩
  · obtain ⟨tokens, lexed⟩ := exists_lex built name code
    exact ⟨tokens, Html.ofTokens tokens, lexed, highlight_of_lex lexed, recover?_of_lex built lexed,
      (Lexer.tiles_of_lex lexed).partition.whole⟩
  · obtain ⟨tokens, lexed⟩ := exists_lex built name code
    obtain ⟨tokens', lexed'⟩ := exists_lex built' name' code'
    rw [highlight_of_lex lexed, highlight_of_lex lexed', Except.ok.injEq] at same
    -- The same HTML shows the same categories and texts, and these tell the tokens.
    have shown := recover?_of_lex built lexed
    rw [ofTokens_eq_of_codeBlock same, recover?_of_lex built' lexed', Option.some.injEq] at shown
    have equal := (Lexer.tiles_of_lex lexed').eq_of_map (Lexer.tiles_of_lex lexed) shown
    refine ⟨?_, by rw [lexed, lexed', equal]⟩
    rw [← (Lexer.tiles_of_lex lexed).partition.whole, ← (Lexer.tiles_of_lex lexed').partition.whole, equal]

/-- KatScript answers to two names, and shows a less-than sign and a plain character alike under both. -/
theorem highlight_recoverable_katscript : ∃ r, ofListing .empty = .ok r ∧
    r.highlight "kats" "a<`" =
      .ok "<pre><code class=\"hl\"><span class=\"nv\">a</span><span class=\"o\">&lt;</span>`</code></pre>" ∧
    r.highlight "kats" "a<`" = r.highlight "katscript" "a<`" ∧ r.lex "kats" "a<`" = r.lex "katscript" "a<`" := by
  obtain ⟨r, r', built, built', -, injective⟩ := highlight_recoverable .empty .empty
  obtain rfl : r = r' := Except.ok.inj (built.symm.trans built')
  have made : KatScript.table.build = .ok (r.findOrPlain "kats") := build_tableFor built "kats"
  have again : KatScript.table.build = .ok (r.findOrPlain "katscript") := build_tableFor built "katscript"
  have lexed : r.lex "kats" "a<`" =
      .ok [⟨.nameVariable, "a", 0, 1⟩, ⟨.operator, "<", 1, 2⟩, ⟨.plainText, "`", 2, 3⟩] :=
    lex_eq_of_tableFor built (by decide +kernel)
  have shown : r.highlight "kats" "a<`" = _ := highlight_of_lex lexed
  have same : r.highlight "kats" "a<`" = r.highlight "katscript" "a<`" := by
    rw [highlight, highlight, lex, lex, Except.ok.inj (made.symm.trans again)]
  refine ⟨r, built, ?_, same, (injective _ _ _ _ same).2⟩
  rw [shown]
  decide +kernel

end Registry

end Highlighter
