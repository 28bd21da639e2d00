import Highlighter.Lexer
import Highlighter.Proofs.Lexer.Building
import Highlighter.Proofs.Pattern.Matches
import Highlighter.Proofs.Text
import Mathlib.Data.List.Chain

/-!
What one step of a scan does, and what every run of it keeps. A step passes over an unmatched character or
accepts a hit (`step_cases`), so what both of these keep holds wherever a run gets (`run_induction`), and a
run with enough fuel gets to the end of the source (`rest_of_run`). `Scan.At` says where a scan is: how its
source divides into the text of the tokens found, the unmatched run and what is still to be read.

The tokens of a source are a partition of it. `Tiles` says so of the characters: the tokens follow each other
without a gap, and each of them is made of the characters that it covers. Every step of a scan keeps that the
tokens found tile what has been matched (`tiles_of_step`), so the tokens of the whole source tile the source,
and `Partition` is what that means for its bytes.
-/

namespace Highlighter

/-! ## Steps -/

instance : LawfulEngine Pattern := ⟨Pattern.matchLength?_le⟩

namespace Scan

/-- The record of an unmatched run of some characters, which begins at the given offset. -/
def pendingRun (start : Nat) (pending : List Char) : Option UnmatchedRun :=
  if pending = [] then none else some ⟨start, pending.reverse⟩

/-- The scan of `src` has found the tokens of `matched`, and no rule has matched in `pending`, which ends at
    its place. -/
structure At (src matched pending : List Char) (s : Scan) : Prop where
  split : src = matched ++ pending ++ s.rest
  before : s.before = (matched ++ pending).getLast?
  offset : s.offset = byteLength (matched ++ pending)
  unmatched : s.unmatched = pendingRun (byteLength matched) pending

theorem at_start (root : Nat) (src : List Char) : At src [] [] (start root src) := ⟨rfl, rfl, rfl, rfl⟩

theorem at_skip {src matched pending rest : List Char} {s : Scan} {c : Char} (place : At src matched pending s)
    (here : s.rest = c :: rest) : At src matched (pending ++ [c]) (s.skip c rest) := by
  refine ⟨?_, ?_, ?_, ?_⟩
  · rw [place.split, here]
    simp [skip]
  · simp [skip, ← List.append_assoc]
  · simp [skip, place.offset]
    omega
  · simp only [skip, place.unmatched, pendingRun]
    by_cases none : pending = []
    · simp [none, place.offset]
    · simp [none]

/-- The tokens of an unmatched run: one of plain text, if there is a run. -/
def pendingTokens (start : Nat) (pending : List Char) : List Token :=
  if pending = [] then [] else [.ofChars .plainText start pending]

theorem flushed_reverse {src matched pending : List Char} {s : Scan} (place : At src matched pending s) :
    s.flushed.reverse = s.tokens.reverse ++ pendingTokens (byteLength matched) pending := by
  rw [flushed, place.unmatched, pendingRun, pendingTokens]
  by_cases none : pending = []
  · simp [none]
  · simp [none]

end Scan

namespace Lexer
variable {P : Type} {l : Lexer P}

theorem at_accept {src matched pending : List Char} {s : Scan} (place : s.At src matched pending) (hit : Hit P) :
    (l.accept s hit).At src (matched ++ pending ++ s.rest.take hit.length) [] := by
  refine ⟨?_, ?_, ?_, rfl⟩
  · simp only [accept, List.append_nil, List.append_assoc, List.take_append_drop]
    rw [← List.append_assoc, ← place.split]
  · simp only [accept, List.append_nil, place.before]
    rw [← List.getLast?_append]
  · simp [accept, Token.ofChars, place.offset, Nat.add_assoc]

variable [Engine P]

theorem step_of_ended {s : Scan} (ended : s.rest = []) : l.step s = .ok s := by
  rw [step, ended]

theorem step_of_none {s : Scan} {c : Char} {rest : List Char} (here : s.rest = c :: rest)
    (noHit : firstHit? s.before s.rest 0 (l.current s).rules = none) : l.step s = .ok (s.skip c rest) := by
  rw [here] at noHit
  rw [step, here]
  simp only [noHit]

theorem step_of_some {s : Scan} {hit : Hit P} (more : s.rest ≠ [])
    (found : firstHit? s.before s.rest 0 (l.current s).rules = some hit) :
    l.step s =
      if hit.length = 0 then
        .error ⟨l.language.tag, (l.current s).name, hit.index, hit.rule.text, s.offset⟩
      else .ok (l.accept s hit) := by
  obtain ⟨c, rest, here⟩ := List.exists_cons_of_ne_nil more
  rw [here] at found
  rw [step, here]
  simp only [found]

/-- A step at the end of the source changes nothing; anywhere else it passes over an unmatched character or
    accepts a hit of at least one character. -/
theorem step_cases {s next : Scan} (stepped : l.step s = .ok next) :
    (s.rest = [] ∧ next = s) ∨
      (∃ c rest, s.rest = c :: rest ∧ firstHit? s.before s.rest 0 (l.current s).rules = none ∧
        next = s.skip c rest) ∨
      (∃ hit, firstHit? s.before s.rest 0 (l.current s).rules = some hit ∧ 0 < hit.length ∧
        next = l.accept s hit) := by
  cases here : s.rest with
  | nil =>
    rw [step_of_ended here] at stepped
    exact .inl ⟨rfl, (Except.ok.inj stepped).symm⟩
  | cons c rest =>
    rw [← here]
    cases found : firstHit? s.before s.rest 0 (l.current s).rules with
    | none =>
      rw [step_of_none here found] at stepped
      exact .inr (.inl ⟨c, rest, here, rfl, (Except.ok.inj stepped).symm⟩)
    | some hit =>
      rw [step_of_some (by simp [here]) found] at stepped
      by_cases stalled : hit.length = 0
      · rw [if_pos stalled] at stepped
        contradiction
      · rw [if_neg stalled] at stepped
        exact .inr (.inr ⟨hit, rfl, Nat.pos_of_ne_zero stalled, (Except.ok.inj stepped).symm⟩)

theorem run_of_ended {s : Scan} (ended : s.rest = []) (fuel : Nat) : l.run fuel s = .ok s := by
  cases fuel with
  | zero => rfl
  | succ fuel => simp [run, step_of_ended ended, ended]

theorem run_of_step {s next : Scan} (stepped : l.step s = .ok next) (fuel : Nat) :
    l.run (fuel + 1) s = l.run fuel next := by
  rw [run, stepped]
  by_cases ended : next.rest = []
  · rw [run_of_ended ended]
    simp [ended]
  · simp [ended]

theorem run_of_error {s : Scan} {e : Stall} (stepped : l.step s = .error e) (fuel : Nat) :
    l.run (fuel + 1) s = .error e := by
  rw [run, stepped]

theorem lex_of_run {src : String} {last : Scan} (ran : l.run src.toList.length (.start l.root src.toList) = .ok last) :
    l.lex src = .ok last.flushed.reverse := by
  rw [lex, ran, outcome]

theorem lex_of_stall {src : String} {e : Stall} (ran : l.run src.toList.length (.start l.root src.toList) = .error e) :
    l.lex src = .error ⟨e, src⟩ := by
  rw [lex, ran, outcome]

theorem exists_run_of_lex {src : String} {tokens : List Token} (lexed : l.lex src = .ok tokens) :
    ∃ last, l.run src.toList.length (.start l.root src.toList) = .ok last ∧ last.flushed.reverse = tokens := by
  cases ran : l.run src.toList.length (.start l.root src.toList) with
  | error e =>
    rw [lex_of_stall ran] at lexed
    contradiction
  | ok last =>
    rw [lex_of_run ran] at lexed
    exact ⟨last, rfl, Except.ok.inj lexed⟩

/-- What every step keeps holds at the end of every run. -/
theorem run_induction {holds : Scan → Prop} (kept : ∀ s next, holds s → l.step s = .ok next → holds next)
    (fuel : Nat) : ∀ s last, holds s → l.run fuel s = .ok last → holds last := by
  induction fuel with
  | zero => intro s last here ran; exact Except.ok.inj ran ▸ here
  | succ fuel ih =>
    intro s last here ran
    cases stepped : l.step s with
    | error e => rw [run_of_error stepped] at ran; contradiction
    | ok next =>
      rw [run_of_step stepped] at ran
      exact ih next last (kept s next here stepped) ran

theorem firstHit?_mem {before : Option Char} {rest : List Char} {hit : Hit P} (rules : List (Rule P)) :
    ∀ index, firstHit? before rest index rules = some hit →
      hit.rule ∈ rules ∧ Engine.matchLength? hit.rule.pattern before rest = some hit.length := by
  induction rules with
  | nil => intro index found; contradiction
  | cons r rules ih =>
    intro index found
    rw [firstHit?] at found
    split at found
    next length matched => exact Option.some.inj found ▸ ⟨by simp, matched⟩
    · exact (ih (index + 1) found).imp_left (List.mem_cons_of_mem r)

theorem firstHit?_append_of_none {before : Option Char} {rest : List Char} {rules : List (Rule P)}
    (others : List (Rule P)) : ∀ {index : Nat}, (∀ r ∈ rules, Engine.matchLength? r.pattern before rest = none) →
      firstHit? before rest index (rules ++ others) = firstHit? before rest (index + rules.length) others := by
  induction rules with
  | nil => intro index _; rfl
  | cons r rules ih =>
    intro index missing
    obtain ⟨first, later⟩ := List.forall_mem_cons.mp missing
    rw [List.cons_append, firstHit?, first, List.length_cons, Nat.add_comm rules.length, ← Nat.add_assoc]
    exact ih later

theorem firstHit?_eq_none_iff {before : Option Char} {rest : List Char} (rules : List (Rule P)) : ∀ index,
    firstHit? before rest index rules = none ↔ ∀ r ∈ rules, Engine.matchLength? r.pattern before rest = none := by
  induction rules with
  | nil => simp [firstHit?]
  | cons r rules ih =>
    intro index
    rw [firstHit?]
    cases matched : Engine.matchLength? r.pattern before rest with
    | some length => simp [matched]
    | none => simp [matched, ih]

/-- The first hit is that of a rule that matches, where none of the rules before it does. -/
theorem firstHit?_eq_some_iff {before : Option Char} {rest : List Char} {hit : Hit P} (rules : List (Rule P)) :
    ∀ index, firstHit? before rest index rules = some hit ↔
      ∃ front back, rules = front ++ hit.rule :: back ∧ hit.index = index + front.length ∧
        Engine.matchLength? hit.rule.pattern before rest = some hit.length ∧
        ∀ r ∈ front, Engine.matchLength? r.pattern before rest = none := by
  intro index
  constructor
  · intro found
    induction rules generalizing index with
    | nil => contradiction
    | cons r rules ih =>
      rw [firstHit?] at found
      cases matched : Engine.matchLength? r.pattern before rest with
      | some length =>
        rw [matched] at found
        obtain rfl := Option.some.inj found
        exact ⟨[], rules, rfl, rfl, matched, by simp⟩
      | none =>
        rw [matched] at found
        obtain ⟨front, back, split, place, length, missing⟩ := ih (index + 1) found
        refine ⟨r :: front, back, by rw [split, List.cons_append], ?_, length, ?_⟩
        · rw [place, List.length_cons, Nat.add_assoc, Nat.add_comm 1]
        · exact List.forall_mem_cons.mpr ⟨matched, missing⟩
  · rintro ⟨front, back, split, place, length, missing⟩
    rw [split, firstHit?_append_of_none _ missing, firstHit?, length, ← place]

variable [LawfulEngine P]

/-- A hit stays inside the source. -/
theorem length_le_of_firstHit? {before : Option Char} {rest : List Char} {hit : Hit P} {rules : List (Rule P)}
    {index : Nat} (found : firstHit? before rest index rules = some hit) : hit.length ≤ rest.length :=
  LawfulEngine.matchLength?_le (firstHit?_mem rules index found).2

theorem rest_length_of_step {s next : Scan} (stepped : l.step s = .ok next) :
    next.rest = [] ∨ next.rest.length < s.rest.length := by
  rcases step_cases stepped with ⟨ended, rfl⟩ | ⟨c, rest, here, _, rfl⟩ | ⟨hit, found, some, rfl⟩
  · exact .inl ended
  · exact .inr (by simp [Scan.skip, here])
  · have inside := length_le_of_firstHit? found
    exact .inr (by simp only [accept, List.length_drop]; omega)

/-- A run with a step for each character reads the source to its end. -/
theorem rest_of_run (fuel : Nat) :
    ∀ s last, s.rest.length ≤ fuel → l.run fuel s = .ok last → last.rest = [] := by
  induction fuel with
  | zero =>
    intro s last enough ran
    rw [← Except.ok.inj ran]
    exact List.length_eq_zero_iff.mp (Nat.le_zero.mp enough)
  | succ fuel ih =>
    intro s last enough ran
    cases stepped : l.step s with
    | error e => rw [run_of_error stepped] at ran; contradiction
    | ok next =>
      rw [run_of_step stepped] at ran
      rcases rest_length_of_step stepped with ended | shorter
      · rw [run_of_ended ended] at ran
        exact Except.ok.inj ran ▸ ended
      · exact ih next last (by omega) ran

end Lexer

/-! ## Tokens that tile the source -/

/-- Some tokens tile the characters that begin at an offset: each token is made of the next of them, and of at
    least one. -/
inductive Tiles : Nat → List Char → List Token → Prop where
  | nil (offset : Nat) : Tiles offset [] []
  | cons {offset : Nat} {cs rest : List Char} {tokens : List Token} (category : Category) (some : cs ≠ [])
      (later : Tiles (offset + byteLength cs) rest tokens) :
      Tiles offset (cs ++ rest) (.ofChars category offset cs :: tokens)

namespace Tiles

theorem append {offset : Nat} {front back : List Char} {tokens others : List Token}
    (first : Tiles offset front tokens) (second : Tiles (offset + byteLength front) back others) :
    Tiles offset (front ++ back) (tokens ++ others) := by
  induction first with
  | nil offset => simpa using second
  | cons category some later ih =>
    rw [byteLength_append, ← Nat.add_assoc] at second
    rw [List.append_assoc]
    exact .cons category some (ih second)

theorem of_append {offset : Nat} {cs : List Char} {earlier later : List Token}
    (tiles : Tiles offset cs (earlier ++ later)) :
    ∃ front back, cs = front ++ back ∧ Tiles offset front earlier ∧ Tiles (offset + byteLength front) back later := by
  induction earlier generalizing offset cs with
  | nil => exact ⟨[], cs, rfl, .nil offset, tiles⟩
  | cons t earlier ih =>
    cases tiles with
    | @cons _ text rest _ category some behind =>
      obtain ⟨front, back, rfl, first, second⟩ := ih behind
      refine ⟨text ++ front, back, (List.append_assoc ..).symm, .cons category some first, ?_⟩
      rw [byteLength_append, ← Nat.add_assoc]
      exact second

theorem single (offset : Nat) (category : Category) {cs : List Char} (some : cs ≠ []) :
    Tiles offset cs [.ofChars category offset cs] := by
  simpa using Tiles.cons category some (.nil (offset + byteLength cs))

/-- Every token is made of some characters that stand where it says. -/
theorem exists_of_mem {offset : Nat} {cs : List Char} {tokens : List Token} (tiles : Tiles offset cs tokens)
    {t : Token} (member : t ∈ tokens) :
    ∃ front text back, cs = front ++ (text ++ back) ∧ text ≠ [] ∧
      t = .ofChars t.category (offset + byteLength front) text := by
  induction tiles with
  | nil offset => simp at member
  | @cons offset first rest tokens category some later ih =>
    rcases List.mem_cons.mp member with rfl | listed
    · exact ⟨[], first, rest, rfl, some, rfl⟩
    · obtain ⟨front, text, back, split, full, made⟩ := ih listed
      refine ⟨first ++ front, text, back, ?_, full, ?_⟩
      · rw [split, List.append_assoc]
      · rw [byteLength_append, ← Nat.add_assoc]
        exact made

theorem start_of_head {offset : Nat} {cs : List Char} {tokens : List Token} (tiles : Tiles offset cs tokens) :
    ∀ t ∈ tokens.head?, t.start = offset := by
  cases tiles with
  | nil => simp
  | cons category some later => rintro t ⟨rfl⟩; rfl

/-- Each token starts where the one before it stops. -/
theorem adjacent {offset : Nat} {cs : List Char} {tokens : List Token} (tiles : Tiles offset cs tokens) :
    tokens.IsChain fun t next => next.start = t.stop := by
  induction tiles with
  | nil offset => exact .nil
  | @cons offset first rest tokens category some later ih =>
    cases tokens with
    | nil => exact .singleton _
    | cons next tokens => exact .cons_cons (later.start_of_head next rfl) ih

theorem stop_of_last {offset : Nat} {cs : List Char} {tokens : List Token} (tiles : Tiles offset cs tokens) :
    ∀ t ∈ tokens.getLast?, t.stop = offset + byteLength cs := by
  induction tiles with
  | nil offset => simp
  | @cons offset first rest tokens category some later ih =>
    cases later with
    | nil =>
      rintro t ⟨rfl⟩
      rw [List.append_nil]
      rfl
    | cons other full others =>
      intro t last
      rw [List.getLast?_cons_cons] at last
      rw [ih t last, byteLength_append first, Nat.add_assoc]

theorem join_texts {offset : Nat} {cs : List Char} {tokens : List Token} (tiles : Tiles offset cs tokens) :
    String.join (tokens.map (·.text)) = String.ofList cs := by
  induction tiles with
  | nil offset => rfl
  | cons category some later ih =>
    rw [List.map_cons, String.join_cons, ih, String.ofList_append]
    rfl

/-- Tokens that tile some characters are told by their categories and texts. -/
theorem eq_of_map {offset : Nat} {cs cs' : List Char} {tokens tokens' : List Token} (tiles : Tiles offset cs tokens)
    (others : Tiles offset cs' tokens')
    (same : (tokens.map fun t => (t.category, t.text)) = tokens'.map fun t => (t.category, t.text)) :
    tokens = tokens' := by
  induction tiles generalizing cs' tokens' with
  | nil offset => exact (List.map_eq_nil_iff.mp same.symm).symm
  | @cons offset text rest tokens category some later ih =>
    cases others with
    | nil => contradiction
    | @cons _ text' rest' tokens' category' some' later' =>
      obtain ⟨first, behind⟩ := List.cons.inj same
      have texts : text = text' := String.ofList_injective (congrArg Prod.snd first)
      have kinds : category = category' := congrArg Prod.fst first
      subst texts kinds
      rw [ih later' behind]

theorem nil_iff {offset : Nat} {cs : List Char} {tokens : List Token} (tiles : Tiles offset cs tokens) :
    tokens = [] ↔ cs = [] := by
  cases tiles with
  | nil => simp
  | cons category some later => simp [some]

end Tiles

/-- The tokens of a source are a partition of its bytes. -/
structure Partition (src : String) (tokens : List Token) : Prop where
  nonempty : ∀ t ∈ tokens, t.text ≠ "" ∧ t.start < t.stop
  first : ∀ t ∈ tokens.head?, t.start = 0
  adjacent : tokens.IsChain fun t next => next.start = t.stop
  last : ∀ t ∈ tokens.getLast?, t.stop = src.utf8ByteSize
  boundaries : ∀ t ∈ tokens, String.Pos.Raw.IsValid src ⟨t.start⟩ ∧ String.Pos.Raw.IsValid src ⟨t.stop⟩
  slices : ∀ t ∈ tokens, t.text.toByteArray = src.toByteArray.extract t.start t.stop
  whole : String.join (tokens.map (·.text)) = src
  empty : tokens = [] ↔ src = ""

/-- What tiles the characters of a source is a partition of its bytes. -/
theorem Tiles.partition {src : String} {tokens : List Token} (tiles : Tiles 0 src.toList tokens) :
    Partition src tokens := by
  have spans : ∀ t ∈ tokens, ∃ front text back : String, src = front ++ (text ++ back) ∧ text ≠ "" ∧
      t.text = text ∧ t.start = front.utf8ByteSize ∧ t.stop = front.utf8ByteSize + text.utf8ByteSize := by
    intro t member
    obtain ⟨front, text, back, split, full, made⟩ := tiles.exists_of_mem member
    rw [Nat.zero_add] at made
    refine ⟨.ofList front, .ofList text, .ofList back, ?_, by simpa using full, ?_, ?_, ?_⟩
    · rw [← String.ofList_append, ← String.ofList_append, ← split, String.ofList_toList]
    · rw [made]; rfl
    · rw [made, utf8ByteSize_ofList]; rfl
    · rw [made, utf8ByteSize_ofList, utf8ByteSize_ofList]; rfl
  refine ⟨?_, tiles.start_of_head, tiles.adjacent, ?_, ?_, ?_, ?_, ?_⟩
  · intro t member
    obtain ⟨front, text, back, _, full, same, starts, stops⟩ := spans t member
    have size : text.utf8ByteSize ≠ 0 := fun none => full (String.utf8ByteSize_eq_zero_iff.mp none)
    exact ⟨same ▸ full, by omega⟩
  · rw [utf8ByteSize_eq]
    simpa using tiles.stop_of_last
  · intro t member
    obtain ⟨front, text, back, split, _, _, starts, stops⟩ := spans t member
    rw [starts, stops, ← String.utf8ByteSize_append]
    refine ⟨split ▸ isValid_append front (text ++ back), ?_⟩
    rw [split, ← String.append_assoc]
    exact isValid_append (front ++ text) back
  · intro t member
    obtain ⟨front, text, back, split, _, same, starts, stops⟩ := spans t member
    rw [same, starts, stops, split, extract_append]
  · rw [tiles.join_texts, String.ofList_toList]
  · rw [tiles.nil_iff]
    simp

namespace Lexer
variable {P : Type} [Engine P] [LawfulEngine P] {l : Lexer P}

/-- What has been matched is tiled by the tokens found. -/
def Tiled (src : List Char) (s : Scan) : Prop :=
  ∃ matched pending, s.At src matched pending ∧ Tiles 0 matched s.tokens.reverse

theorem tiles_flushed {src matched pending : List Char} {s : Scan} (here : s.At src matched pending)
    (tiles : Tiles 0 matched s.tokens.reverse) : Tiles 0 (matched ++ pending) s.flushed.reverse := by
  rw [Scan.flushed_reverse here, Scan.pendingTokens]
  by_cases none : pending = []
  · simpa [none] using tiles
  · rw [if_neg none]
    refine tiles.append ?_
    rw [Nat.zero_add]
    exact .single _ .plainText none

theorem tiles_of_step {src : List Char} {s next : Scan} (tiled : Tiled src s) (stepped : l.step s = .ok next) :
    Tiled src next := by
  obtain ⟨matched, pending, here, tiles⟩ := tiled
  rcases step_cases stepped with ⟨_, rfl⟩ | ⟨c, rest, left, _, rfl⟩ | ⟨hit, found, some, rfl⟩
  · exact ⟨matched, pending, here, tiles⟩
  · exact ⟨matched, pending ++ [c], Scan.at_skip here left, tiles⟩
  · have inside := length_le_of_firstHit? found
    have full : s.rest.take hit.length ≠ [] := by
      intro none
      have length := congrArg List.length none
      rw [List.length_take, List.length_nil] at length
      omega
    refine ⟨_, [], at_accept here hit, ?_⟩
    rw [accept, List.reverse_cons]
    refine (tiles_flushed here tiles).append ?_
    rw [here.offset, Nat.zero_add]
    exact .single _ _ full

/-- The tokens of every source tile its characters. -/
theorem tiles_of_lex {src : String} {tokens : List Token} (lexed : l.lex src = .ok tokens) :
    Tiles 0 src.toList tokens := by
  obtain ⟨last, ran, rfl⟩ := exists_run_of_lex lexed
  have started : Tiled src.toList (.start l.root src.toList) := ⟨[], [], Scan.at_start _ _, .nil 0⟩
  obtain ⟨matched, pending, here, tiles⟩ := run_induction (fun _ _ => tiles_of_step) _ _ _ started ran
  have finished : last.rest = [] :=
    rest_of_run src.toList.length (.start l.root src.toList) last (Nat.le_refl _) ran
  rw [here.split, finished, List.append_nil]
  exact tiles_flushed here tiles

/-- The tokens that a lexer finds in a source are a partition of it. -/
theorem partition_of_lex {l : Lexer P} {src : String} {tokens : List Token} (lexed : l.lex src = .ok tokens) :
    Partition src tokens :=
  (tiles_of_lex lexed).partition

theorem partition_nestedComments : ∃ l, Table.nestedComments.build = .ok l ∧
    ∃ tokens, l.lex "é(*ü(**)" = .ok tokens ∧ tokens.length = 5 ∧ Partition "é(*ü(**)" tokens := by
  obtain ⟨l, built, lexed⟩ : ∃ l, Table.nestedComments.build = .ok l ∧ l.lex "é(*ü(**)" =
      .ok [⟨.plainText, "é", 0, 2⟩, ⟨.commentBlock, "(*", 2, 4⟩, ⟨.plainText, "ü", 4, 6⟩,
        ⟨.commentBlock, "(*", 6, 8⟩, ⟨.commentBlock, "*)", 8, 10⟩] := ⟨_, rfl, by decide +kernel⟩
  exact ⟨l, built, _, lexed, rfl, partition_of_lex lexed⟩

end Lexer

end Highlighter
