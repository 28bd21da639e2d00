import Highlighter.Proofs.Lexer.Partition
import Highlighter.Proofs.Lexer.Replay
import Highlighter.Proofs.Text
import Mathlib.Logic.Relation

/-!
What a scan can rely on at every point. `After` counts the rounds of a scan, and each of them keeps that the root is at
the bottom of the stack and that the stack is no higher than the tokens found allow (`Stacked`). So every look-up of
a state, every state that a rule enters and every stretch of the source that is cut out is there (`Safe`), and a scan
makes at most one round for each character (`scan_safe`).

Where scans fail. `Advances` says how a scan gets from one point of a source to the next, by the rules alone, and
`Stalls` when it cannot: the first rule that matches matches nothing. A scan fails if and only if it reaches a point
where it stalls, and its error says where that is (`lex_fails_iff_stalls`).
-/

namespace Highlighter

/-! ## What a scan can rely on -/

theorem Scan.length_le_flushed (s : Scan) : s.tokens.length ≤ s.flushed.length := by
  rw [flushed]
  cases s.unmatched with
  | none => exact Nat.le_refl _
  | some run => exact Nat.le_succ _

namespace Lexer
variable {P : Type} {l : Lexer P}

/-! ### The stack -/

/-- The root is at the bottom of the stack, every entry is the index of a state, and for each state on top of the
    root a token has been found. -/
structure Stacked (l : Lexer P) (s : Scan) : Prop where
  bottom : s.stack.getLast? = some l.root
  entries : ∀ index ∈ s.stack, index < l.states.length
  height : s.stack.length ≤ s.tokens.length + 1

theorem root_lt (well : l.WellFormed) : l.root < l.states.length := by
  obtain ⟨inside, _⟩ := List.getElem?_eq_some_iff.mp well.root
  simpa [stateNames] using inside

theorem stacked_start (well : l.WellFormed) (src : List Char) : l.Stacked (.start l.root src) :=
  ⟨rfl, List.forall_mem_singleton.mpr (root_lt well), Nat.le_refl _⟩

theorem stateIndex?_lt {name : String} {index : Nat} (found : l.stateIndex? name = some index) :
    index < l.states.length := by
  obtain ⟨inside, _⟩ := List.idxOf?_eq_some_iff.mp found
  simpa using inside

theorem exists_stateIndex? {name : String} (known : name ∈ l.stateNames) :
    ∃ index, l.stateIndex? name = some index ∧ (l.states[index]?).map (·.name) = some name := by
  obtain ⟨index, found⟩ := Option.isSome_iff_exists.mp (List.isSome_idxOf?.mpr known)
  obtain ⟨inside, here, _⟩ := List.idxOf?_eq_some_iff.mp found
  refine ⟨index, found, ?_⟩
  rw [← List.getElem?_map]
  exact (List.getElem?_eq_getElem inside).trans (congrArg some here)

/-- A transition leaves the stack, puts a state on top of it, or takes its top away from above another entry. -/
theorem move_cases (l : Lexer P) (transition : Option Transition) (stack : List Nat) :
    l.move transition stack = stack ∨
      (∃ name index, l.stateIndex? name = some index ∧ l.move transition stack = index :: stack) ∨
      ∃ top below others, stack = top :: below :: others ∧ l.move transition stack = below :: others := by
  rcases transition with _ | ⟨name⟩ | _
  · exact .inl rfl
  · cases found : l.stateIndex? name with
    | none => exact .inl (by rw [move, found])
    | some index => exact .inr (.inl ⟨name, index, found, by rw [move, found]⟩)
  · rcases stack with _ | ⟨top, _ | ⟨below, others⟩⟩
    · exact .inl rfl
    · exact .inl rfl
    · exact .inr (.inr ⟨top, below, others, rfl, rfl⟩)

theorem stacked_accept {s : Scan} (stacked : l.Stacked s) (hit : Hit P) : l.Stacked (l.accept s hit) := by
  obtain ⟨bottom, entries, height⟩ := stacked
  have found := s.length_le_flushed
  have more : s.stack.length ≤ s.flushed.length + 1 := by omega
  -- Only a push makes the stack higher, and the token of the hit makes up for it.
  rcases l.move_cases hit.rule.transition s.stack with
    moved | ⟨name, index, known, moved⟩ | ⟨top, below, others, stack, moved⟩
  · refine ⟨?_, ?_, ?_⟩ <;> simp only [accept, moved, List.length_cons]
    · exact bottom
    · exact entries
    · omega
  · refine ⟨?_, ?_, ?_⟩ <;> simp only [accept, moved, List.length_cons]
    · rw [List.getLast?_cons, bottom]
      rfl
    · exact List.forall_mem_cons.mpr ⟨stateIndex?_lt known, entries⟩
    · omega
  · rw [stack] at bottom entries more
    refine ⟨?_, ?_, ?_⟩ <;> simp only [accept, moved, List.length_cons] at more ⊢
    · rwa [List.getLast?_cons_cons] at bottom
    · exact (List.forall_mem_cons.mp entries).2
    · omega

/-! ### Rounds -/

variable [Engine P]

/-- After some number of rounds the scan of a source is at `s`. A round is one step, and one is made only while
    something of the source is left. -/
inductive After (l : Lexer P) (src : List Char) : Nat → Scan → Prop where
  | start : After l src 0 (.start l.root src)
  | round {n : Nat} {s next : Scan} (here : After l src n s) (more : s.rest ≠ []) (stepped : l.step s = .ok next) :
      After l src (n + 1) next

theorem stacked_of_step {s next : Scan} (stacked : l.Stacked s) (stepped : l.step s = .ok next) : l.Stacked next := by
  rcases step_cases stepped with ⟨_, rfl⟩ | ⟨c, rest, _, _, rfl⟩ | ⟨hit, _, _, rfl⟩
  · exact stacked
  · exact ⟨stacked.bottom, stacked.entries, stacked.height⟩
  · exact stacked_accept stacked hit

section
variable {src : List Char} {n : Nat} {s : Scan}

theorem After.stacked (well : l.WellFormed) (after : l.After src n s) : l.Stacked s := by
  induction after with
  | start => exact stacked_start well src
  | round here more stepped ih => exact stacked_of_step ih stepped

theorem After.tiled [LawfulEngine P] (after : l.After src n s) : Tiled src s := by
  induction after with
  | start => exact ⟨[], [], Scan.at_start _ _, .nil 0⟩
  | round here more stepped ih => exact tiles_of_step ih stepped

/-- Every round passes over a character. -/
theorem After.rounds_le [LawfulEngine P] (after : l.After src n s) : n + s.rest.length ≤ src.length := by
  induction after with
  | start => simp [Scan.start]
  | round here more stepped ih =>
    have some := List.length_pos_iff.mpr more
    rcases rest_length_of_step stepped with ended | shorter
    · rw [ended, List.length_nil]
      omega
    · omega

theorem After.run (after : l.After src n s) :
    ∀ fuel, l.run (n + fuel) (.start l.root src) = l.run fuel s := by
  induction after with
  | start => simp
  | @round n s next here more stepped ih =>
    intro fuel
    rw [Nat.add_right_comm, Nat.add_assoc, ih, run_of_step stepped]

theorem After.of_run (fuel : Nat) : ∀ {n : Nat} {s last : Scan}, l.After src n s → l.run fuel s = .ok last →
    last.rest ≠ [] → l.After src (n + fuel) last := by
  induction fuel with
  | zero =>
    intro n s last after ran more
    exact Except.ok.inj ran ▸ after
  | succ fuel ih =>
    intro n s last after ran more
    have some : s.rest ≠ [] := by
      intro ended
      rw [run_of_ended ended] at ran
      exact more (Except.ok.inj ran ▸ ended)
    cases stepped : l.step s with
    | error e => rw [run_of_error stepped] at ran; contradiction
    | ok next =>
      rw [run_of_step stepped] at ran
      rw [← Nat.add_assoc, Nat.add_right_comm]
      exact ih (.round after some stepped) ran more

/-- A scan goes on to the end of the source or to a step that fails. -/
theorem After.exists_last [LawfulEngine P] (fuel : Nat) : ∀ {n : Nat} {s : Scan}, l.After src n s →
    s.rest.length ≤ fuel →
      ∃ m last, l.After src m last ∧ (last.rest = [] ∨ last.rest ≠ [] ∧ ∃ e, l.step last = .error e) := by
  induction fuel with
  | zero =>
    intro n s after enough
    exact ⟨n, s, after, .inl (List.length_eq_zero_iff.mp (Nat.le_zero.mp enough))⟩
  | succ fuel ih =>
    intro n s after enough
    by_cases ended : s.rest = []
    · exact ⟨n, s, after, .inl ended⟩
    · cases stepped : l.step s with
      | error e => exact ⟨n, s, after, .inr ⟨ended, e, stepped⟩⟩
      | ok next =>
        refine ih (.round after ended stepped) ?_
        rcases rest_length_of_step stepped with none | shorter
        · simp [none]
        · omega

end

/-- A round at the end of which the scan goes on moves it past a whole character at least. -/
theorem offset_of_step {s next : Scan} {c : Char} {rest : List Char} (here : s.rest = c :: rest)
    (stepped : l.step s = .ok next) : s.offset + c.utf8Size ≤ next.offset := by
  rcases step_cases stepped with ⟨ended, _⟩ | ⟨d, others, left, _, rfl⟩ | ⟨hit, _, some, rfl⟩
  · rw [here] at ended
    contradiction
  · obtain ⟨rfl, rfl⟩ := List.cons.inj (here.symm.trans left)
    exact Nat.le_refl _
  · obtain ⟨length, more⟩ := Nat.exists_eq_add_of_lt some
    rw [Nat.zero_add] at more
    simp only [accept, Token.ofChars, here, more, List.take_succ_cons, byteLength_cons]
    omega

/-! ### What is there -/

/-- What a scan of `src` can rely on at a point. Every entry of the stack is the index of a state, the lowest is that
    of the root, and there is at most one more for each token found; so the present state is there, and so is every
    state that a rule of it enters. The place is not inside a character, nor is the start of an unmatched run, and the
    rest of the source, what a rule matches and the unmatched run can be cut out. The next round fails or gets past a
    whole character. -/
structure Safe (l : Lexer P) (src : String) (s : Scan) : Prop where
  nonempty : s.stack ≠ []
  bottom : ∃ index, s.stack.getLast? = some index ∧ l.stateNames[index]? = some Table.rootName
  entries : ∀ index ∈ s.stack, index < l.states.length
  height : s.stack.length ≤ s.tokens.length + 1
  present : ∃ index, s.stack.head? = some index ∧ l.states[index]? = some (l.current s)
  targets : ∀ r ∈ (l.current s).rules, ∀ name, r.transition = some (.push name) →
    ∃ index, l.stateIndex? name = some index ∧ (l.states[index]?).map (·.name) = some name
  place : String.Pos.Raw.IsValid src ⟨s.offset⟩ ∧ s.offset ≤ src.utf8ByteSize
  rest : Stretch src s.offset src.utf8ByteSize s.rest
  matched : ∀ hit, firstHit? s.before s.rest 0 (l.current s).rules = some hit →
    Stretch src s.offset (l.accept s hit).offset (s.rest.take hit.length)
  unmatched : ∀ run ∈ s.unmatched, String.Pos.Raw.IsValid src ⟨run.start⟩ ∧ run.start < s.offset ∧
    Stretch src run.start s.offset run.chars.reverse
  progress : ∀ c rest, s.rest = c :: rest →
    (∃ e, l.step s = .error e) ∨ ∃ next, l.step s = .ok next ∧ s.offset + c.utf8Size ≤ next.offset

variable [LawfulEngine P]

theorem safe_of_after (well : l.WellFormed) {src : String} {n : Nat} {s : Scan} (after : l.After src.toList n s) :
    l.Safe src s := by
  have stacked := after.stacked well
  obtain ⟨matched, pending, here, _⟩ := after.tiled
  have rest : Stretch src s.offset src.utf8ByteSize s.rest := by
    have split : src.toList = matched ++ pending ++ (s.rest ++ []) := by rw [List.append_nil, here.split]
    have cut := stretch_of_split split
    rwa [← here.split, ← here.offset, ← utf8ByteSize_eq] at cut
  obtain ⟨index, others, stack⟩ : ∃ index others, s.stack = index :: others :=
    List.exists_cons_of_ne_nil fun none => by simpa [none] using stacked.bottom
  have present : l.states[index]? = some (l.current s) := by
    have inside := stacked.entries index (by simp [stack])
    rw [current, stack, List.headD_cons, stateAt, List.getElem?_eq_getElem inside]
    rfl
  refine ⟨?_, ⟨_, stacked.bottom, well.root⟩, stacked.entries, stacked.height, ⟨index, ?_, present⟩, ?_,
    ⟨rest.starts, rest.ordered⟩, rest, ?_, ?_, ?_⟩
  · simp [stack]
  · simp [stack]
  · intro r listed name enters
    exact exists_stateIndex? (well.targets _ (List.mem_of_getElem? present) r listed name enters)
  · intro hit found
    have split : src.toList = matched ++ pending ++ (s.rest.take hit.length ++ s.rest.drop hit.length) := by
      rw [List.take_append_drop, here.split]
    have cut := stretch_of_split split
    rwa [byteLength_append _ (s.rest.take _), ← here.offset] at cut
  -- The unmatched run is what has been passed over since the last match.
  · intro run listed
    by_cases none : pending = []
    · simp [here.unmatched, Scan.pendingRun, none] at listed
    · have run_eq : s.unmatched = some ⟨byteLength matched, pending.reverse⟩ := by
        rw [here.unmatched, Scan.pendingRun, if_neg none]
      obtain rfl := Option.some.inj (run_eq.symm.trans listed)
      have split : src.toList = matched ++ (pending ++ s.rest) := by rw [← List.append_assoc, here.split]
      have cut := stretch_of_split split
      rw [← here.offset] at cut
      refine ⟨cut.starts, ?_, by simpa using cut⟩
      rw [here.offset, byteLength_append]
      exact Nat.lt_add_of_pos_right (byteLength_pos none)
  · intro c rest left
    cases stepped : l.step s with
    | error e => exact .inl ⟨e, rfl⟩
    | ok next => exact .inr ⟨next, rfl, offset_of_step left stepped⟩

/-- At every point of a scan the stack and the offsets are safe, and no more rounds have been made than characters
    passed over; and some round is the last, at the end of the source or with an error. -/
theorem scan_safe {t : Table} (built : t.build P = .ok l) (src : String) :
    (∀ n s, l.After src.toList n s → l.Safe src s ∧ n + s.rest.length ≤ src.toList.length) ∧
      ∃ n last, l.After src.toList n last ∧
        (last.rest = [] ∧ l.lex src = .ok last.flushed.reverse ∨
          last.rest ≠ [] ∧ ∃ e, l.step last = .error e ∧ l.lex src = .error ⟨e, src⟩) := by
  have well := wellFormed_of_build built
  refine ⟨fun n s after => ⟨safe_of_after well after, after.rounds_le⟩, ?_⟩
  have started : l.After src.toList 0 _ := .start
  obtain ⟨n, last, after, finished⟩ := started.exists_last src.toList.length (Nat.le_refl _)
  refine ⟨n, last, after, ?_⟩
  have rounds := after.rounds_le
  rcases finished with ended | ⟨more, e, failed⟩
  · obtain ⟨fuel, enough⟩ := Nat.exists_eq_add_of_le (Nat.le_of_add_right_le rounds)
    refine .inl ⟨ended, ?_⟩
    rw [lex, enough, after.run, run_of_ended ended]
    rfl
  · have some := List.length_pos_iff.mpr more
    obtain ⟨fuel, enough⟩ := Nat.exists_eq_add_of_lt (show n < src.toList.length by omega)
    refine .inr ⟨more, e, failed, ?_⟩
    rw [lex, enough, Nat.add_assoc, after.run, run_of_error failed]
    rfl

/-- Inside two comments the scan has an unmatched character behind it. -/
theorem scan_safe_nestedComments : ∃ l, Table.nestedComments.build = .ok l ∧
    ∃ s, l.After "é(*(*ü*)".toList 4 s ∧ l.Safe "é(*(*ü*)" s ∧ s.stack = [1, 1, 0] ∧
      s.unmatched = some ⟨6, ['ü']⟩ ∧ s.offset = 8 := by
  obtain ⟨l, built, ran⟩ : ∃ l, Table.nestedComments.build = .ok l ∧ l.run 4 (.start l.root "é(*(*ü*)".toList) =
      .ok ⟨some 'ü', ['*', ')'], 8, [1, 1, 0], some ⟨6, ['ü']⟩,
        [⟨.commentBlock, "(*", 4, 6⟩, ⟨.commentBlock, "(*", 2, 4⟩, ⟨.plainText, "é", 0, 2⟩]⟩ :=
    ⟨_, rfl, by decide +kernel⟩
  have started : l.After "é(*(*ü*)".toList 0 _ := .start
  have after := started.of_run 4 ran (by simp)
  exact ⟨l, built, _, after, ((scan_safe built "é(*(*ü*)").1 _ _ after).1, rfl, rfl, rfl⟩

end Lexer

/-! ## Where scans fail -/

namespace Lexer
variable {P : Type} [Engine P]

/-- A hit is the first at a place of a source if its rule matches there and no rule of a lower index does. -/
structure IsFirst (rules : List (Rule P)) (src : List Char) (place : Nat) (hit : Hit P) : Prop where
  listed : rules[hit.index]? = some hit.rule
  matched : hit.rule.matchAt? src place = some hit.length
  earlier : ∀ r ∈ rules.take hit.index, r.matchAt? src place = none

theorem head?_hitsAt_eq_some_iff {rules : List (Rule P)} {src : List Char} {place : Nat} {hit : Hit P} :
    (hitsAt rules src place).head? = some hit ↔ IsFirst rules src place hit := by
  rw [head?_hitsAt, firstHit?_eq_some_iff]
  constructor
  · rintro ⟨front, back, rfl, index, matched, missing⟩
    rw [Nat.zero_add] at index
    refine ⟨by simp [index], matched, ?_⟩
    rw [index, List.take_left]
    exact missing
  · rintro ⟨listed, matched, earlier⟩
    obtain ⟨inside, here⟩ := List.getElem?_eq_some_iff.mp listed
    refine ⟨rules.take hit.index, rules.drop (hit.index + 1), ?_, ?_, matched, earlier⟩
    · rw [← here, ← List.drop_eq_getElem_cons inside, List.take_append_drop]
    · rw [List.length_take_of_le (Nat.le_of_lt inside), Nat.zero_add]

theorem head?_hitsAt_eq_none_iff {rules : List (Rule P)} {src : List Char} {place : Nat} :
    (hitsAt rules src place).head? = none ↔ ∀ r ∈ rules, r.matchAt? src place = none := by
  rw [head?_hitsAt, firstHit?_eq_none_iff]
  rfl

/-- Where a scan is: the states entered, and how many characters it has passed over. -/
structure Point where
  stack : Stack
  place : Nat

/-- A scan gets from one point to the next: past a character that no rule of the present state matches, or past all
    that the first rule to match there matches, which may change the state. -/
inductive Advances (l : Lexer P) (src : List Char) : Point → Point → Prop where
  | skip {stack : Stack} {place : Nat} (more : place < src.length)
      (unmatched : ∀ r ∈ l.rulesOf stack.top, r.matchAt? src place = none) :
      Advances l src ⟨stack, place⟩ ⟨stack, place + 1⟩
  | hit {stack : Stack} {place : Nat} {hit : Hit P} (more : place < src.length)
      (first : IsFirst (l.rulesOf stack.top) src place hit) (some : 0 < hit.length) :
      Advances l src ⟨stack, place⟩ ⟨stack.follow hit.rule.transition, place + hit.length⟩

/-- The scan of a source gets to a point. -/
def Reaches (l : Lexer P) (src : List Char) (point : Point) : Prop :=
  Relation.ReflTransGen (l.Advances src) ⟨.initial, 0⟩ point

/-- A scan stalls at a point before the end of the source if the first rule to match there matches nothing. -/
structure Stalls (l : Lexer P) (src : List Char) (point : Point) (hit : Hit P) : Prop where
  more : point.place < src.length
  first : IsFirst (l.rulesOf point.stack.top) src point.place hit
  nothing : hit.length = 0

theorem map_eq_error_iff {α β ε : Type} {f : α → β} {x : Except ε α} {e : ε} :
    x.map f = .error e ↔ x = .error e := by
  cases x <;> simp [Except.map]

section
variable {l : Lexer P} {src : List Char} {point next : Point} {hit : Hit P}

/-- The error of a scan that stalls at a point. -/
def stallError (l : Lexer P) (src : List Char) (point : Point) (hit : Hit P) : LexError :=
  ⟨⟨l.language.tag, point.stack.top, hit.index, hit.rule.text, byteLength (src.take point.place)⟩, .ofList src⟩

theorem replay_of_advances (advances : l.Advances src point next) : ∃ event,
    l.replay List.head? src point.stack point.place =
      (l.replay List.head? src next.stack next.place).map (event :: ·) := by
  cases advances with
  | @skip stack place more unmatched =>
    exact ⟨.skip place, replay_of_none (Nat.not_le.mpr more) (head?_hitsAt_eq_none_iff.mpr unmatched)⟩
  | @hit stack place hit more first some =>
    refine ⟨.hit hit.rule place hit.length, ?_⟩
    rw [replay_of_some (Nat.not_le.mpr more) (head?_hitsAt_eq_some_iff.mpr first),
      if_neg (Nat.ne_of_gt some)]

theorem replay_of_stalls (stalls : l.Stalls src point hit) :
    l.replay List.head? src point.stack point.place = .error (l.stallError src point hit) := by
  rw [replay_of_some (Nat.not_le.mpr stalls.more) (head?_hitsAt_eq_some_iff.mpr stalls.first),
    if_pos stalls.nothing, stallError]

theorem exists_stalls_of_replay (stack : Stack) (place : Nat) {e : LexError}
    (failed : l.replay List.head? src stack place = .error e) :
    ∃ point hit, Relation.ReflTransGen (l.Advances src) ⟨stack, place⟩ point ∧ l.Stalls src point hit ∧
      e = l.stallError src point hit := by
  -- Every call of the first pass but the one that fails is one advance.
  induction stack, place using replay.induct l List.head? src with
  | case1 stack place ended =>
    rw [replay_of_ended ended] at failed
    contradiction
  | case2 stack place more noHit ih =>
    rw [replay_of_none more noHit, map_eq_error_iff] at failed
    obtain ⟨point, hit, reaches, stalls, same⟩ := ih failed
    have first : l.Advances src ⟨stack, place⟩ ⟨stack, place + 1⟩ :=
      .skip (Nat.not_le.mp more) (head?_hitsAt_eq_none_iff.mp noHit)
    exact ⟨point, hit, .head first reaches, stalls, same⟩
  | case3 stack place more hit found stalled =>
    have stalls : l.Stalls src ⟨stack, place⟩ hit :=
      ⟨Nat.not_le.mp more, head?_hitsAt_eq_some_iff.mp found, stalled⟩
    have failed' := replay_of_stalls stalls
    rw [failed] at failed'
    exact ⟨⟨stack, place⟩, hit, .refl, stalls, Except.error.inj failed'⟩
  | case4 stack place more hit found some ih =>
    rw [replay_of_some more found, if_neg some, map_eq_error_iff] at failed
    obtain ⟨point, other, reaches, stalls, same⟩ := ih failed
    have first := Advances.hit (l := l) (Nat.not_le.mp more) (head?_hitsAt_eq_some_iff.mp found)
      (Nat.pos_of_ne_zero some)
    exact ⟨point, other, .head first reaches, stalls, same⟩

theorem replay_of_reaches {start : Point} (reaches : Relation.ReflTransGen (l.Advances src) start point)
    (stalls : l.Stalls src point hit) :
    l.replay List.head? src start.stack start.place = .error (l.stallError src point hit) := by
  induction reaches using Relation.ReflTransGen.head_induction_on with
  | refl => exact replay_of_stalls stalls
  | head first later ih =>
    obtain ⟨event, same⟩ := replay_of_advances first
    rw [same, map_eq_error_iff, ih]

end

/-- A scan fails if and only if it gets to a point where it stalls, and with the error of this point. -/
theorem lex_eq_error_iff [LawfulEngine P] {l : Lexer P} (well : l.WellFormed) {src : String} {e : LexError} :
    l.lex src = .error e ↔ ∃ point hit, l.Reaches src.toList point ∧ l.Stalls src.toList point hit ∧
      e = l.stallError src.toList point hit := by
  rw [lex_eq_replay well, map_eq_error_iff]
  constructor
  · exact exists_stalls_of_replay Stack.initial 0
  · rintro ⟨point, hit, reaches, stalls, rfl⟩
    exact replay_of_reaches reaches stalls

/-- What the error says of the point where a scan stalls: the lexer, the present state, the index that the rule has
    in the declaration of this state with the pattern that it has there, and the place, which is before the end of
    the source and not inside a character; and it carries the source. -/
structure Reports (t : Table) (src : String) (point : Point) (hit : Hit P) (e : LexError) : Prop where
  lexer : e.lexer = t.language.tag
  state : e.state = point.stack.top
  rule : e.rule = hit.index
  pattern : ∃ s ∈ t.states, s.name = e.state ∧ (s.rules[e.rule]?).map (·.pattern) = some e.pattern
  span : e.span = (byteLength (src.toList.take point.place), 0)
  inside : e.offset < src.utf8ByteSize
  source : e.source = src
  boundary : String.Pos.Raw.IsValid src ⟨e.offset⟩

theorem exists_declared {t : Table} {l : Lexer P} (built : t.build P = .ok l) {name : String} {index : Nat} {r : Rule P}
    (listed : (l.rulesOf name)[index]? = some r) :
    ∃ s ∈ t.states, s.name = name ∧ (s.rules[index]?).map (·.pattern) = some r.text := by
  obtain ⟨_, _, _, related⟩ := (Table.build_eq_ok_iff t l).mp built
  rw [rulesOf] at listed
  cases found : l.states.find? (·.name == name) with
  | none => rw [found] at listed; simp at listed
  | some state =>
    rw [found] at listed
    obtain ⟨s, declared, read⟩ := exists_of_mem_right related (List.mem_of_find?_eq_some found)
    have called : state.name = name := by simpa using List.find?_some found
    obtain ⟨inside, here⟩ := List.getElem?_eq_some_iff.mp listed
    have declaredInside : index < s.rules.length := read.rules.length_eq ▸ inside
    have same := read.rules.get declaredInside inside
    refine ⟨s, declared, read.name ▸ called, ?_⟩
    rw [List.getElem?_eq_getElem declaredInside, Option.map_some, ← here]
    exact congrArg some same.text.symm

theorem byteLength_take_lt {src : String} {place : Nat} (more : place < src.toList.length) :
    byteLength (src.toList.take place) < src.utf8ByteSize := by
  have size := byteLength_append (src.toList.take place) (src.toList.drop place)
  rw [List.take_append_drop, ← utf8ByteSize_eq] at size
  have rest : 0 < byteLength (src.toList.drop place) :=
    byteLength_pos (List.drop_eq_nil_iff.not.mpr (Nat.not_le.mpr more))
  omega

theorem reports_stallError {t : Table} {l : Lexer P} (built : t.build P = .ok l) {src : String} {point : Point}
    {hit : Hit P} (stalls : l.Stalls src.toList point hit) : Reports t src point hit (l.stallError src.toList point hit) := by
  have split : src.toList = src.toList.take point.place ++ ([] ++ src.toList.drop point.place) := by
    rw [List.nil_append, List.take_append_drop]
  refine ⟨?_, rfl, rfl, exists_declared built stalls.first.listed, rfl, byteLength_take_lt stalls.more,
    String.ofList_toList, (stretch_of_split split).starts⟩
  exact congrArg Language.tag (Table.language_of_build built)

/-- A scan fails if and only if it gets to a point where the first rule to match matches nothing, whatever later
    rules match there; and the error reports this point. -/
theorem lex_fails_iff_stalls [LawfulEngine P] {t : Table} {l : Lexer P} (built : t.build P = .ok l) (src : String) :
    ((∃ e, l.lex src = .error e) ↔ ∃ point hit, l.Reaches src.toList point ∧ l.Stalls src.toList point hit) ∧
      ∀ e point hit, l.lex src = .error e → l.Reaches src.toList point → l.Stalls src.toList point hit →
        Reports t src point hit e := by
  have well := wellFormed_of_build built
  refine ⟨⟨?_, ?_⟩, ?_⟩
  · rintro ⟨e, failed⟩
    obtain ⟨point, hit, reaches, stalls, _⟩ := (lex_eq_error_iff well).mp failed
    exact ⟨point, hit, reaches, stalls⟩
  · rintro ⟨point, hit, reaches, stalls⟩
    exact ⟨_, (lex_eq_error_iff well).mpr ⟨point, hit, reaches, stalls, rfl⟩⟩
  · intro e point hit failed reaches stalls
    have failed' := (lex_eq_error_iff well).mpr ⟨point, hit, reaches, stalls, rfl⟩
    rw [Except.error.inj (failed.symm.trans failed')]
    exact reports_stallError built stalls

end Lexer

/-- Words between angle brackets, where the rule for words also matches if there is no letter. -/
def Table.bracketedWords : Table where
  language := ⟨"bracketed", [], "Bracketed words", "", []⟩
  states :=
    [⟨"root", [⟨"<", .emit .punctuation, some (.push "word")⟩]⟩,
      ⟨"word", [⟨"[a-z]*", .emit .name, none⟩, ⟨">", .emit .punctuation, some .pop⟩]⟩]

namespace Lexer

/-- The closing bracket is never reached, as the rule before it matches nothing there. -/
theorem lex_bracketedWords : ∃ l, Table.bracketedWords.build = .ok l ∧
    ∃ e point hit, l.lex "é<ab>" = .error e ∧ l.Reaches "é<ab>".toList point ∧ l.Stalls "é<ab>".toList point hit ∧
      Reports .bracketedWords "é<ab>" point hit e ∧ e = ⟨⟨"bracketed", "word", 0, "[a-z]*", 5⟩, "é<ab>"⟩ := by
  obtain ⟨l, built, failed⟩ : ∃ l, Table.bracketedWords.build = .ok l ∧
      l.lex "é<ab>" = .error ⟨⟨"bracketed", "word", 0, "[a-z]*", 5⟩, "é<ab>"⟩ := ⟨_, rfl, by decide +kernel⟩
  obtain ⟨fails, reports⟩ := lex_fails_iff_stalls built "é<ab>"
  obtain ⟨point, hit, reaches, stalls⟩ := fails.mp ⟨_, failed⟩
  exact ⟨l, built, _, point, hit, failed, reaches, stalls, reports _ _ _ failed reaches stalls, rfl⟩

end Lexer

end Highlighter
