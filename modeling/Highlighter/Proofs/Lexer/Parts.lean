import Highlighter.Proofs.Lexer.Cuts
import Highlighter.Proofs.Pattern.Surroundings

/-!
What tokens owe to the text around them. A token and all later ones are found again in what is left of the source
from that token on, if no rule can tell the character in front of it from the start of a text
(`restartsAfter`). If the patterns look at nothing but the characters that they use, this holds everywhere, and
every token is found again in its own text (`tokensStandAlone`).

Texts that are lexed in parts. What follows a text leaves its tokens as they are if it changes no match in the text
(`Closed`) and begins with a match itself: the one condition keeps the matches and the runs between them, the other
ends the last run where the text ends (`Cuts.append`). What follows has the tokens that it has on its own, moved behind
the text, where no rule looks at the character in front (`lex_append`).
-/

namespace Highlighter

/-! ## The text around a token -/

namespace Token

/-- The token as it stands in the rest of its source, from the byte `p` on. -/
def since (p : Nat) (t : Token) : Token := { t with start := t.start - p, stop := t.stop - p }

theorem since_ofChars (category : Category) {p offset : Nat} (inside : p ≤ offset) (cs : List Char) :
    (ofChars category offset cs).since p = ofChars category (offset - p) cs := by
  have stop : offset + byteLength cs - p = offset - p + byteLength cs := by omega
  simp only [since, ofChars, stop]

end Token

namespace Lexer

section
variable {rules : List Rule} {before before' : Option Char} {offset : Nat} {cs : List Char} {tokens : List Token}

/-! ### Parts of a text -/

theorem Cuts.tiles (cuts : Cuts rules before offset cs tokens) : Tiles offset cs tokens := by
  induction cuts with
  | nil before offset => exact .nil offset
  | hit found length some later ih => exact .cons _ some ih
  | plain some unmatched ended later ih => exact .cons _ some ih

/-- The later ones of some tokens are what the text behind the earlier ones is cut into. -/
theorem Cuts.of_append {earlier later : List Token} (cuts : Cuts rules before offset cs (earlier ++ later)) :
    ∃ front back, cs = front ++ back ∧
      Cuts rules (front.getLast?.or before) (offset + byteLength front) back later := by
  induction earlier generalizing before offset cs with
  | nil => exact ⟨[], cs, rfl, cuts⟩
  | cons t earlier ih =>
    -- Whichever kind the first token is, the other earlier ones are taken off the text behind it.
    have behind {text after : List Char}
        (cuts : Cuts rules (text.getLast?.or before) (offset + byteLength text) after (earlier ++ later)) :
        ∃ front back, text ++ after = front ++ back ∧
          Cuts rules (front.getLast?.or before) (offset + byteLength front) back later := by
      obtain ⟨front, back, split, left⟩ := ih cuts
      refine ⟨text ++ front, back, by rw [split, List.append_assoc], ?_⟩
      rw [List.getLast?_append, Option.or_assoc, byteLength_append, ← Nat.add_assoc]
      exact left
    cases cuts with
    | hit found length some cuts => exact behind cuts
    | plain some unmatched ended cuts => exact behind cuts

theorem Cuts.since (cuts : Cuts rules before offset cs tokens) {p : Nat} (inside : p ≤ offset) :
    Cuts rules before (offset - p) cs (tokens.map (Token.since p)) := by
  induction cuts with
  | nil before offset => exact .nil before (offset - p)
  | @hit before offset text after tokens hit found length some later ih =>
    have next := ih (by omega)
    rw [Nat.sub_add_comm inside] at next
    rw [List.map_cons, Token.since_ofChars _ inside]
    exact .hit found length some next
  | @plain before offset run after tokens some unmatched ended later ih =>
    have next := ih (by omega)
    rw [Nat.sub_add_comm inside] at next
    rw [List.map_cons, Token.since_ofChars _ inside]
    exact .plain some unmatched ended next

/-! ### The character in front -/

theorem getLast?_or_of_ne_nil {text : List Char} (some : text ≠ []) (before before' : Option Char) :
    text.getLast?.or before = text.getLast?.or before' := by
  rw [List.getLast?_eq_getLast_of_ne_nil some]
  rfl

theorem Unmatched.change_before {run after : List Char}
    (blind : ∀ rest, firstHit? before rest 0 rules = firstHit? before' rest 0 rules)
    (unmatched : Unmatched rules after before run) : Unmatched rules after before' run := by
  cases unmatched with
  | nil => exact .nil before'
  | cons here later =>
    rw [blind] at here
    exact .cons here later

/-- How a text is cut depends on the character in front of it only so far as the first match does. -/
theorem Cuts.change_before (blind : ∀ rest, firstHit? before rest 0 rules = firstHit? before' rest 0 rules)
    (cuts : Cuts rules before offset cs tokens) : Cuts rules before' offset cs tokens := by
  cases cuts with
  | nil => exact .nil before' offset
  | hit found length some later =>
    rw [blind] at found
    rw [getLast?_or_of_ne_nil some before before'] at later
    exact .hit found length some later
  | plain some unmatched ended later =>
    rw [getLast?_or_of_ne_nil some before before'] at later ended
    exact .plain some (unmatched.change_before blind) ended later

/-- Rules that do not tell two characters apart match alike behind both of them. -/
theorem firstHit?_congr (alike : Option Char → Option Char → Prop)
    (blind : ∀ r ∈ rules, r.pattern.flat = true ∧ ∀ a ∈ r.pattern.assertions, Pattern.Respects alike a.holds)
    (same : alike before before') (rest : List Char) :
    ∀ index, firstHit? before rest index rules = firstHit? before' rest index rules := by
  induction rules with
  | nil => intro index; rfl
  | cons r rules ih =>
    intro index
    obtain ⟨⟨flat, respects⟩, others⟩ := List.forall_mem_cons.mp blind
    rw [firstHit?_cons, firstHit?_cons, Pattern.matchLength?_congr flat respects same rest, ih others]

end

/-- From each of its tokens on the lexer finds the tokens of a source again in what is left of the source, if
    `harmless` holds of the character in front. -/
def RestartsAfter (l : Lexer) (harmless : Option Char → Prop) : Prop :=
  ∀ src, ∃ tokens, l.lex src = .ok tokens ∧ ∀ earlier t later, tokens = earlier ++ t :: later →
    ∃ front back, src = front ++ back ∧ front.utf8ByteSize = t.start ∧
      (harmless front.toList.getLast? → l.lex back = .ok ((t :: later).map (Token.since t.start)))

/-- Every token of a source is the only token of its own text, so its text decides its category. -/
def TokensStandAlone (l : Lexer) : Prop :=
  (∀ src, ∃ tokens, l.lex src = .ok tokens ∧
    ∀ t ∈ tokens, l.lex t.text = .ok [⟨t.category, t.text, 0, t.text.utf8ByteSize⟩]) ∧
  ∀ src src' tokens tokens', l.lex src = .ok tokens → l.lex src' = .ok tokens' →
    ∀ t ∈ tokens, ∀ t' ∈ tokens', t.text = t'.text → t.category = t'.category

section
variable {language : Language} {rules : List Rule}

theorem restartsAfter (still : ∀ r ∈ rules, r.transition = none) (productive : (single language rules).Productive)
    {harmless : Option Char → Prop}
    (blind : ∀ before, harmless before → ∀ rest, firstHit? before rest 0 rules = firstHit? none rest 0 rules) :
    (single language rules).RestartsAfter harmless := by
  intro src
  obtain ⟨tokens, lexed⟩ := lex_total productive src
  refine ⟨tokens, lexed, fun earlier t later split => ?_⟩
  rw [split] at lexed
  obtain ⟨front, back, whole, cuts⟩ := (cuts_of_lex still lexed).of_append
  rw [Option.or_none, Nat.zero_add] at cuts
  have start : t.start = byteLength front := cuts.tiles.start_of_head t rfl
  refine ⟨.ofList front, .ofList back, ?_, ?_, fun harm => ?_⟩
  · rw [← String.ofList_append, ← whole, String.ofList_toList]
  · rw [start, utf8ByteSize_ofList]
  · -- Moved to the start of a text of their own, the later tokens cut it behind no character at all.
    rw [String.toList_ofList] at harm
    have moved := cuts.since (Nat.le_refl _)
    rw [Nat.sub_self, ← start] at moved
    refine Cuts.lex still productive ?_
    rw [String.toList_ofList]
    exact moved.change_before (blind _ harm)

/-! ### The text behind -/

section
variable {before : Option Char} {rest : List Char}

theorem firstHit?_take {hit : Hit} (own : ∀ r ∈ rules, r.pattern.selfContained = true) :
    ∀ {index : Nat}, firstHit? before rest index rules = some hit →
      firstHit? before (rest.take hit.length) index rules = some hit := by
  induction rules with
  | nil => intro index found; contradiction
  | cons r rules ih =>
    intro index found
    obtain ⟨first, others⟩ := List.forall_mem_cons.mp own
    rw [firstHit?_cons] at found ⊢
    cases matched : r.pattern.matchLength? before rest with
    | some length =>
      rw [matched] at found
      have same := Option.some.inj found
      subst same
      rw [Pattern.matchLength?_take first matched, Option.elim_some]
    | none =>
      rw [matched] at found
      rw [Pattern.matchLength?_take_of_none first matched]
      exact ih others found

theorem firstHit?_take_of_none (own : ∀ r ∈ rules, r.pattern.selfContained = true) (n : Nat) :
    ∀ {index : Nat}, firstHit? before rest index rules = none →
      firstHit? before (rest.take n) index rules = none := by
  induction rules with
  | nil => intro index _; rfl
  | cons r rules ih =>
    intro index missing
    obtain ⟨first, others⟩ := List.forall_mem_cons.mp own
    rw [firstHit?_cons] at missing ⊢
    cases matched : r.pattern.matchLength? before rest with
    | some length => rw [matched] at missing; contradiction
    | none =>
      rw [matched] at missing
      rw [Pattern.matchLength?_take_of_none first matched]
      exact ih others missing

theorem Unmatched.alone (own : ∀ r ∈ rules, r.pattern.selfContained = true) {run after : List Char}
    (unmatched : Unmatched rules after before run) : Unmatched rules [] before run := by
  induction unmatched with
  | nil before => exact .nil before
  | @cons before c run here later ih =>
    have cut := firstHit?_take_of_none own (c :: run).length here
    rw [← List.cons_append, List.take_left] at cut
    refine .cons ?_ ih
    rwa [List.append_nil]

end

/-- What is cut out of a text as one token is one token on its own. -/
theorem Cuts.alone (own : ∀ r ∈ rules, r.pattern.selfContained = true) {before : Option Char} {offset : Nat}
    {cs : List Char} {t : Token} {later : List Token} (cuts : Cuts rules before offset cs (t :: later)) :
    Cuts rules before 0 t.text.toList [⟨t.category, t.text, 0, t.text.utf8ByteSize⟩] := by
  cases cuts with
  | @hit _ _ text after _ hit found length some later =>
    have cut := firstHit?_take own found
    rw [← length, List.take_left, ← List.append_nil text] at cut
    have whole : Cuts rules before 0 (text ++ []) _ := .hit cut length some (.nil _ _)
    simp only [Token.ofChars, String.toList_ofList]
    rwa [List.append_nil, Token.ofChars_zero] at whole
  | @plain _ _ run after _ some unmatched ended later =>
    have whole : Cuts rules before 0 (run ++ []) _ := .plain some (unmatched.alone own) (absurd rfl) (.nil _ _)
    simp only [Token.ofChars, String.toList_ofList]
    rwa [List.append_nil, Token.ofChars_zero] at whole

theorem blind_of_selfContained (own : ∀ r ∈ rules, r.pattern.selfContained = true) (before before' : Option Char)
    (rest : List Char) : firstHit? before rest 0 rules = firstHit? before' rest 0 rules := by
  refine firstHit?_congr (fun _ _ => True) (fun r member => ?_) trivial rest 0
  obtain ⟨flat, free⟩ := (Bool.and_eq_true _ _).mp (own r member)
  refine ⟨flat, ?_⟩
  rw [List.isEmpty_iff.mp free]
  simp

theorem tokensStandAlone (still : ∀ r ∈ rules, r.transition = none) (productive : (single language rules).Productive)
    (own : ∀ r ∈ rules, r.pattern.selfContained = true) : (single language rules).TokensStandAlone := by
  have alone {src : String} {tokens : List Token} (lexed : (single language rules).lex src = .ok tokens) :
      ∀ t ∈ tokens, (single language rules).lex t.text = .ok [⟨t.category, t.text, 0, t.text.utf8ByteSize⟩] := by
    intro t member
    -- In the text from the token on, the token is the first to be cut out.
    obtain ⟨earlier, later, split⟩ := List.append_of_mem member
    rw [split] at lexed
    obtain ⟨front, back, whole, cuts⟩ := (cuts_of_lex still lexed).of_append
    exact Cuts.lex still productive ((cuts.alone own).change_before (blind_of_selfContained own _ none))
  refine ⟨fun src => ?_, ?_⟩
  · obtain ⟨tokens, lexed⟩ := lex_total productive src
    exact ⟨tokens, lexed, alone lexed⟩
  · intro src src' tokens tokens' lexed lexed' t member t' member' same
    have once := alone lexed t member
    have again := alone lexed' t' member'
    rw [same, again] at once
    have equal := (List.cons.inj (Except.ok.inj once)).1
    exact (congrArg Token.category equal).symm

end

end Lexer

/-! ## Texts in parts -/

namespace Token

/-- The token where its source stands `p` bytes further on. -/
def moved (p : Nat) (t : Token) : Token := { t with start := p + t.start, stop := p + t.stop }

theorem moved_ofChars (category : Category) (p offset : Nat) (cs : List Char) :
    (ofChars category offset cs).moved p = ofChars category (p + offset) cs := by
  simp only [moved, ofChars, Nat.add_assoc]

end Token

namespace Lexer

/-- What follows some text changes no match in the text. -/
def Closed (rules : List Rule) (after text : List Char) : Prop :=
  ∀ rest, rest <:+ text → rest ≠ [] → ∀ before, firstHit? before (rest ++ after) 0 rules = firstHit? before rest 0 rules

section
variable {rules : List Rule} {before : Option Char} {offset : Nat} {cs text after : List Char} {tokens : List Token}

theorem Closed.of_append (closed : Closed rules after (cs ++ text)) : Closed rules after text :=
  fun rest behind => closed rest (behind.trans (List.suffix_append cs text))

theorem firstHit?_append {rest : List Char} (same : ∀ r ∈ rules,
      r.pattern.matchLength? before (rest ++ after) = r.pattern.matchLength? before rest) :
    ∀ index, firstHit? before (rest ++ after) index rules = firstHit? before rest index rules := by
  induction rules with
  | nil => intro index; rfl
  | cons r rules ih =>
    intro index
    obtain ⟨first, others⟩ := List.forall_mem_cons.mp same
    rw [firstHit?_cons, firstHit?_cons, first, ih others]

theorem firstHit?_ne_none {r : Rule} (member : r ∈ rules) (matched : r.pattern.matchLength? before cs ≠ none) :
    ∀ index, firstHit? before cs index rules ≠ none := by
  induction rules with
  | nil => contradiction
  | cons q rules ih =>
    intro index
    rw [firstHit?_cons]
    cases found : q.pattern.matchLength? before cs with
    | some length => simp
    | none =>
      rcases List.mem_cons.mp member with rfl | later
      · exact absurd found matched
      · exact ih later (index + 1)

theorem Unmatched.append {run rest : List Char} (closed : Closed rules after (run ++ rest))
    (unmatched : Unmatched rules rest before run) : Unmatched rules (rest ++ after) before run := by
  induction unmatched with
  | nil before => exact .nil before
  | @cons before c run here later ih =>
    have same := closed (c :: (run ++ rest)) List.suffix_rfl (List.cons_ne_nil c _) before
    have split : Closed rules after ([c] ++ (run ++ rest)) := closed
    refine .cons ?_ (ih split.of_append)
    rw [← List.append_assoc]
    exact same.trans here

/-- A text keeps its tokens in front of a text that changes none of its matches and begins with a match. -/
theorem Cuts.append (cuts : Cuts rules before offset text tokens) (closed : Closed rules after text)
    (seam : ∀ before, firstHit? before after 0 rules ≠ none) {later : List Token}
    (behind : Cuts rules (text.getLast?.or before) (offset + byteLength text) after later) :
    Cuts rules before offset (text ++ after) (tokens ++ later) := by
  induction cuts with
  | nil before offset => exact behind
  | @hit before offset text rest tokens hit found length some left ih =>
    rw [List.getLast?_append, Option.or_assoc, byteLength_append, ← Nat.add_assoc] at behind
    have same := closed (text ++ rest) List.suffix_rfl (List.append_ne_nil_of_left_ne_nil some _) before
    rw [List.append_assoc] at same
    rw [List.append_assoc]
    exact .hit (same.trans found) length some (ih closed.of_append behind)
  | @plain before offset run rest tokens some unmatched ended left ih =>
    rw [List.getLast?_append, Option.or_assoc, byteLength_append, ← Nat.add_assoc] at behind
    rw [List.append_assoc]
    refine .plain some (unmatched.append closed) (fun _ => ?_) (ih closed.of_append behind)
    by_cases last : rest = []
    · rw [last]
      exact seam _
    · rw [closed.of_append rest List.suffix_rfl last]
      exact ended last

theorem Cuts.moved (cuts : Cuts rules before offset cs tokens) (p : Nat) :
    Cuts rules before (p + offset) cs (tokens.map (Token.moved p)) := by
  induction cuts with
  | nil before offset => exact .nil before (p + offset)
  | hit found length some later ih =>
    rw [List.map_cons, Token.moved_ofChars]
    rw [← Nat.add_assoc] at ih
    exact .hit found length some ih
  | plain some unmatched ended later ih =>
    rw [List.map_cons, Token.moved_ofChars]
    rw [← Nat.add_assoc] at ih
    exact .plain some unmatched ended ih

end

theorem lex_append {language : Language} {rules : List Rule} (still : ∀ r ∈ rules, r.transition = none)
    (productive : (single language rules).Productive) (own : ∀ r ∈ rules, r.pattern.selfContained = true)
    {text after : String} (closed : Closed rules after.toList text.toList)
    (seam : ∀ before, firstHit? before after.toList 0 rules ≠ none) : ∃ tokens later,
      (single language rules).lex text = .ok tokens ∧ (single language rules).lex after = .ok later ∧
      (single language rules).lex (text ++ after) = .ok (tokens ++ later.map (Token.moved text.utf8ByteSize)) := by
  obtain ⟨tokens, lexed⟩ := lex_total productive text
  obtain ⟨later, lexedAfter⟩ := lex_total productive after
  refine ⟨tokens, later, lexed, lexedAfter, Cuts.lex still productive ?_⟩
  have moved := (cuts_of_lex still lexedAfter).moved (byteLength text.toList)
  have behind := moved.change_before (blind_of_selfContained own none (text.toList.getLast?.or none))
  rw [Nat.add_comm] at behind
  have cuts := (cuts_of_lex still lexed).append closed seam behind
  rw [String.toList_append, utf8ByteSize_eq]
  exact cuts

end Lexer

end Highlighter
