import Highlighter.Proofs.Lexer.Building
import Highlighter.Proofs.Lexer.Partition

/-!
Scanning in two passes. The first pass replays a scan over the whole source and records an event for each
match and for each character that no rule matches; its stack holds the names of states. The second pass
makes a token of each match and one token of plain text of each run of unmatched characters. `Agrees` relates
a scan to the first pass; each step keeps it (`agrees_of_none`, `agrees_of_hit`), so every lexer that a table
makes finds what the two passes find (`lex_eq_gather_replay`).
-/

namespace Highlighter

namespace Lexer
variable {P : Type}

/-- The number of characters that a rule matches at a place of a source, counted in characters. -/
def Rule.matchAt? [Engine P] (r : Rule P) (src : List Char) (place : Nat) : Option Nat :=
  Engine.matchLength? r.pattern (src.take place).getLast? (src.drop place)

/-- The rules that match at a place, in their order. -/
def hitsAt [Engine P] (rules : List (Rule P)) (src : List Char) (place : Nat) : List (Hit P) :=
  rules.zipIdx.filterMap fun (r, index) => (r.matchAt? src place).map (⟨index, r, ·⟩)

/-- The names of the states entered, with the present one on top. -/
structure Stack where
  top : String
  below : List String

namespace Stack

def initial : Stack := ⟨Table.rootName, []⟩

def names (stack : Stack) : List String := stack.top :: stack.below

/-- The stack after a transition: a state is put on top, or the top is removed unless it is the only entry. -/
def follow : Option Transition → Stack → Stack
  | some (.push name), stack => ⟨name, stack.names⟩
  | some .pop, ⟨_, top :: below⟩ => ⟨top, below⟩
  | _, stack => stack

end Stack

/-- The rules of the state of a given name. -/
def rulesOf (l : Lexer P) (name : String) : List (Rule P) := (l.states.find? (·.name == name)).elim [] (·.rules)

/-- What a scan meets at a place of its source: some characters that a rule matches, or one that no rule matches. -/
inductive Event (P : Type := Pattern) where
  | hit (rule : Rule P) (place length : Nat)
  | skip (place : Nat)

def Event.isSkip : Event P → Bool
  | hit .. => false
  | skip _ => true

/-- The first pass: the events from a place on, where `choose` says which of the rules that match is taken. -/
def replay [Engine P] (l : Lexer P) (choose : List (Hit P) → Option (Hit P)) (src : List Char) (stack : Stack)
    (place : Nat) : Except LexError (List (Event P)) :=
  if src.length ≤ place then .ok []
  else
    match choose (hitsAt (l.rulesOf stack.top) src place) with
    | none => (replay l choose src stack (place + 1)).map (.skip place :: ·)
    | some hit =>
      if hit.length = 0 then
        .error ⟨⟨l.language.tag, stack.top, hit.index, hit.rule.text, byteLength (src.take place)⟩, .ofList src⟩
      else
        (replay l choose src (stack.follow hit.rule.transition) (place + hit.length)).map
          (.hit hit.rule place hit.length :: ·)
termination_by src.length - place

section
variable [Engine P] {l : Lexer P} {choose : List (Hit P) → Option (Hit P)} {src : List Char} {stack : Stack}
  {place : Nat}

theorem replay_of_ended (ended : src.length ≤ place) : l.replay choose src stack place = .ok [] := by
  rw [replay, if_pos ended]

theorem replay_of_none (more : ¬ src.length ≤ place)
    (noHit : choose (hitsAt (l.rulesOf stack.top) src place) = none) :
    l.replay choose src stack place = (l.replay choose src stack (place + 1)).map (.skip place :: ·) := by
  rw [replay, if_neg more, noHit]

theorem replay_of_some {hit : Hit P} (more : ¬ src.length ≤ place)
    (found : choose (hitsAt (l.rulesOf stack.top) src place) = some hit) :
    l.replay choose src stack place =
      if hit.length = 0 then
        .error ⟨⟨l.language.tag, stack.top, hit.index, hit.rule.text, byteLength (src.take place)⟩, .ofList src⟩
      else
        (l.replay choose src (stack.follow hit.rule.transition) (place + hit.length)).map
          (.hit hit.rule place hit.length :: ·) := by
  rw [replay, if_neg more, found]

end

/-- The token of the given number of characters from a place on. -/
def tokenAt (category : Category) (src : List Char) (place length : Nat) : Token :=
  .ofChars category (byteLength (src.take place)) ((src.drop place).take length)

/-- The second pass: one token for each match, and one for each run of unmatched characters. -/
def gather (src : List Char) : List (Event P) → List Token
  | [] => []
  | .hit rule place length :: events =>
    tokenAt (rule.action.resolve (String.ofList ((src.drop place).take length))) src place length ::
      gather src events
  | .skip place :: events =>
    tokenAt .plainText src place ((events.takeWhile Event.isSkip).length + 1) ::
      gather src (events.dropWhile Event.isSkip)
termination_by events => events.length
decreasing_by
  · simp
  · exact Nat.lt_succ_of_le (List.dropWhile_suffix _).length_le

/-- The events of some unmatched characters from a place on. -/
def skips (place : Nat) : Nat → List (Event P)
  | 0 => []
  | n + 1 => .skip place :: skips (place + 1) n

theorem skips_append (place n : Nat) (events : List (Event P)) :
    skips place n ++ .skip (place + n) :: events = skips place (n + 1) ++ events := by
  induction n generalizing place with
  | zero => rfl
  | succ n ih =>
    have later := ih (place + 1)
    rw [Nat.add_right_comm, Nat.add_assoc] at later
    rw [skips, skips, List.cons_append, List.cons_append, later]

theorem takeWhile_skips (place n : Nat) {events : List (Event P)} (ended : ∀ e ∈ events.head?, e.isSkip = false) :
    (skips place n ++ events).takeWhile Event.isSkip = skips place n ∧
      (skips place n ++ events).dropWhile Event.isSkip = events := by
  induction n generalizing place with
  | zero =>
    cases events with
    | nil => exact ⟨rfl, rfl⟩
    | cons e events =>
      have here : ¬ e.isSkip := by simp [ended e rfl]
      exact ⟨List.takeWhile_cons_of_neg here, List.dropWhile_cons_of_neg here⟩
  | succ n ih =>
    obtain ⟨taken, dropped⟩ := ih (place + 1)
    rw [skips, List.cons_append, List.takeWhile_cons_of_pos rfl, List.dropWhile_cons_of_pos rfl, taken, dropped]
    exact ⟨rfl, rfl⟩

theorem length_skips (place n : Nat) : (skips place n : List (Event P)).length = n := by
  induction n generalizing place with
  | zero => rfl
  | succ n ih => rw [skips, List.length_cons, ih]

/-- A run of unmatched characters that ends here is gathered into one token. -/
theorem gather_skips (src : List Char) (place n : Nat) {events : List (Event P)}
    (ended : ∀ e ∈ events.head?, e.isSkip = false) :
    gather src (skips place n ++ events) =
      (if n = 0 then [] else [tokenAt .plainText src place n]) ++ gather src events := by
  cases n with
  | zero => rfl
  | succ n =>
    obtain ⟨taken, dropped⟩ := takeWhile_skips (place + 1) n ended
    rw [skips, List.cons_append, gather, taken, dropped, length_skips]
    rfl

theorem exists_plainText_of_skip {src : List Char} {place : Nat} {events : List (Event P)}
    (skipped : .skip place ∈ events) : ∃ t ∈ gather src events, t.category = .plainText := by
  induction events using gather.induct with
  | case1 => contradiction
  | case2 rule start length events ih =>
    obtain ⟨t, member, plain⟩ := ih (by simpa using skipped)
    rw [gather]
    exact ⟨t, List.mem_cons_of_mem _ member, plain⟩
  | case3 start events ih =>
    rw [gather]
    exact ⟨_, List.mem_cons_self, rfl⟩

variable {l : Lexer P}

/-- The states of some indices have the given names. -/
def Named (l : Lexer P) : List Nat → List String → Prop :=
  List.Forall₂ fun index name => l.stateNames[index]? = some name

theorem stateAt_of_named (well : l.WellFormed) {index : Nat} {name : String}
    (named : l.stateNames[index]? = some name) :
    l.stateAt index ∈ l.states ∧ (l.stateAt index).name = name ∧
      (l.stateAt index).rules = l.rulesOf name := by
  obtain ⟨inside, here⟩ := List.getElem?_eq_some_iff.mp named
  have bound : index < l.states.length := by simpa [stateNames] using inside
  have called : l.states[index].name = name := by simpa [stateNames] using here
  have first : l.states.find? (·.name == name) = some l.states[index] := by
    refine List.find?_eq_some_iff_getElem.mpr ⟨by simp [called], index, bound, rfl, fun j earlier => ?_⟩
    have before : j < l.stateNames.length := Nat.lt_trans earlier inside
    have other : l.stateNames[j] ≠ l.stateNames[index] :=
      fun same => Nat.ne_of_lt earlier ((List.getElem_inj well.distinct).mp same)
    rw [here] at other
    simpa [stateNames] using other
  rw [stateAt, List.getElem?_eq_getElem bound, Option.getD_some, rulesOf, first]
  exact ⟨List.getElem_mem bound, called, rfl⟩

theorem rulesOf_of_mem (well : l.WellFormed) {s : State P} (member : s ∈ l.states) :
    l.rulesOf s.name = s.rules := by
  obtain ⟨index, inside, here⟩ := List.mem_iff_getElem.mp member
  have named : l.stateNames[index]? = some s.name := by simp [stateNames, List.getElem?_eq_getElem inside, here]
  obtain ⟨_, _, rules⟩ := stateAt_of_named well named
  rw [← rules, stateAt, List.getElem?_eq_getElem inside, here, Option.getD_some]

theorem current_of_named (well : l.WellFormed) {s : Scan} {stack : Stack} (named : l.Named s.stack stack.names) :
    l.current s ∈ l.states ∧ (l.current s).name = stack.top ∧ (l.current s).rules = l.rulesOf stack.top := by
  rw [Stack.names] at named
  rw [current]
  cases stacked : s.stack with
  | nil => rw [stacked] at named; cases named
  | cons index indices =>
    rw [stacked] at named
    cases named with
    | cons top below => exact stateAt_of_named well top

/-- Transitions on indices follow transitions on names. -/
theorem named_move {indices : List Nat} {stack : Stack} {transition : Option Transition}
    (declared : ∀ name, transition = some (.push name) → name ∈ l.stateNames)
    (named : l.Named indices stack.names) :
    l.Named (l.move transition indices) (stack.follow transition).names := by
  rcases transition with _ | ⟨name⟩ | _
  · exact named
  · have known : (l.stateNames.idxOf? name).isSome := by simp [declared name rfl]
    obtain ⟨index, found⟩ := Option.isSome_iff_exists.mp known
    obtain ⟨inside, here, _⟩ := List.idxOf?_eq_some_iff.mp found
    have entered : l.move (some (.push name)) indices = index :: indices := by
      rw [move, stateIndex?, ← stateNames, found]
    rw [entered]
    exact .cons ((List.getElem?_eq_getElem inside).trans (congrArg some here)) named
  · rcases stack with ⟨top, _ | ⟨below, others⟩⟩
    · cases named with
      | cons first none =>
        cases none
        exact .cons first .nil
    · cases named with
      | cons first later =>
        cases later with
        | cons second rest => exact .cons second rest

theorem pendingTokens_eq {src matched pending : List Char} {s : Scan} (here : s.At src matched pending) :
    Scan.pendingTokens (byteLength matched) pending =
      if pending.length = 0 then [] else [tokenAt .plainText src matched.length pending.length] := by
  simp only [Scan.pendingTokens, tokenAt, List.length_eq_zero_iff]
  rw [here.split, List.append_assoc, List.take_left, List.drop_left, List.take_left]

/-- The tokens of a scan, the unmatched run included, are those of the second pass. -/
theorem flushed_eq_gather {src matched pending : List Char} {s : Scan} (here : s.At src matched pending)
    {events : List (Event P)} (ended : ∀ e ∈ events.head?, e.isSkip = false) :
    s.flushed.reverse ++ gather src events =
      s.tokens.reverse ++ gather src (skips matched.length pending.length ++ events) := by
  rw [Scan.flushed_reverse here, pendingTokens_eq here, gather_skips src _ _ ended, List.append_assoc]

theorem gather_after_skip (src matched pending : List Char) (s : Scan) (c : Char) (rest : List Char)
    (events : List (Event P)) :
    (s.skip c rest).tokens.reverse ++ gather src (skips matched.length (pending ++ [c]).length ++ events) =
      s.tokens.reverse ++
        gather src (skips matched.length pending.length ++ .skip (matched ++ pending).length :: events) := by
  rw [List.length_append, List.length_append, skips_append]
  rfl

theorem gather_after_hit {src matched pending : List Char} {s : Scan} (here : s.At src matched pending) (hit : Hit P)
    (events : List (Event P)) :
    (l.accept s hit).tokens.reverse ++ gather src events =
      s.tokens.reverse ++ gather src (skips matched.length pending.length ++
        .hit hit.rule (matched ++ pending).length hit.length :: events) := by
  rw [← flushed_eq_gather here (by simp [Event.isSkip]), gather, tokenAt, here.split, List.take_left,
    List.drop_left, ← here.offset, accept, List.reverse_cons, List.append_assoc]
  rfl

variable [Engine P]

theorem firstHit?_eq_findSome? (before : Option Char) (rest : List Char) (rules : List (Rule P)) (index : Nat) :
    firstHit? before rest index rules =
      (rules.zipIdx index).findSome? fun (r, i) => (Engine.matchLength? r.pattern before rest).map (⟨i, r, ·⟩) := by
  induction rules generalizing index with
  | nil => rfl
  | cons r rules ih =>
    rw [firstHit?, List.zipIdx_cons, List.findSome?_cons]
    cases matched : Engine.matchLength? r.pattern before rest with
    | none => simpa [matched] using ih (index + 1)
    | some length => simp [matched]

/-- The scan takes the first of the rules that match. -/
theorem head?_hitsAt (rules : List (Rule P)) (src : List Char) (place : Nat) :
    (hitsAt rules src place).head? = firstHit? (src.take place).getLast? (src.drop place) 0 rules := by
  rw [hitsAt, List.head?_filterMap, firstHit?_eq_findSome?]
  rfl

def Hit.taken (hit : Hit P) : Rule P × Nat := (hit.rule, hit.length)

theorem map_taken_hitsAt (rules : List (Rule P)) (src : List Char) (place : Nat) :
    (hitsAt rules src place).map Hit.taken = rules.filterMap fun r => (r.matchAt? src place).map (r, ·) := by
  have general : ∀ (rules : List (Rule P)) (index : Nat),
      ((rules.zipIdx index).filterMap fun (r, i) => (r.matchAt? src place).map (⟨i, r, ·⟩)).map Hit.taken =
        rules.filterMap fun r => (r.matchAt? src place).map (r, ·) := by
    intro rules
    induction rules with
    | nil => intro index; rfl
    | cons r rules ih =>
      intro index
      rw [List.zipIdx_cons, List.filterMap_cons, List.filterMap_cons]
      cases matched : r.matchAt? src place with
      | none => simpa [matched] using ih (index + 1)
      | some n => simpa [matched, Hit.taken] using ih (index + 1)
  exact general rules 0

theorem mem_hitsAt {rules : List (Rule P)} {src : List Char} {place : Nat} {hit : Hit P}
    (listed : hit ∈ hitsAt rules src place) :
    hit.rule ∈ rules ∧ hit.rule.matchAt? src place = some hit.length := by
  have member := List.mem_map_of_mem (f := Hit.taken) listed
  rw [map_taken_hitsAt] at member
  obtain ⟨r, declared, matched⟩ := List.mem_filterMap.mp member
  obtain ⟨n, found, same⟩ := Option.map_eq_some_iff.mp matched
  obtain ⟨rfl, rfl⟩ := Prod.mk.inj same
  exact ⟨declared, found⟩

theorem firstHit?_eq_head? {src matched pending : List Char} {s : Scan} (here : s.At src matched pending)
    (rules : List (Rule P)) :
    firstHit? s.before s.rest 0 rules = (hitsAt rules src (matched ++ pending).length).head? := by
  rw [head?_hitsAt, here.split, List.take_left, List.drop_left, here.before]

/-- What is left of a scan is what is left of the first pass, after the unmatched characters that have been
    passed over. -/
def Agrees (l : Lexer P) (src matched pending : List Char) (stack : Stack) (s : Scan) (fuel : Nat) : Prop :=
  outcome (.ofList src) (l.run fuel s) =
    (l.replay List.head? src stack (matched ++ pending).length).map fun events =>
      s.tokens.reverse ++ gather src (skips matched.length pending.length ++ events)

section
variable {src matched pending : List Char} {stack : Stack} {s : Scan} {fuel : Nat}

theorem agrees_of_ended (here : s.At src matched pending) (ended : s.rest = []) :
    l.Agrees src matched pending stack s fuel := by
  have whole : src = matched ++ pending := by rw [here.split, ended, List.append_nil]
  have finished : src.length ≤ (matched ++ pending).length := Nat.le_of_eq (congrArg List.length whole)
  have same : s.flushed.reverse ++ gather src ([] : List (Event P)) =
      s.tokens.reverse ++ gather src (skips matched.length pending.length ++ []) :=
    flushed_eq_gather here (by simp)
  rw [gather, List.append_nil] at same
  rw [Agrees, run_of_ended ended, replay_of_ended finished]
  exact congrArg Except.ok same

theorem not_ended (here : s.At src matched pending) (more : s.rest ≠ []) :
    ¬ src.length ≤ (matched ++ pending).length := by
  have some := List.length_pos_iff.mpr more
  have longer : src.length = (matched ++ pending).length + s.rest.length := by
    rw [here.split, List.length_append]
  omega

theorem agrees_of_none {c : Char} {rest : List Char} (here : s.At src matched pending) (left : s.rest = c :: rest)
    (listed : (l.current s).rules = l.rulesOf stack.top)
    (noHit : firstHit? s.before s.rest 0 (l.current s).rules = none)
    (next : l.Agrees src matched (pending ++ [c]) stack (s.skip c rest) fuel) :
    l.Agrees src matched pending stack s (fuel + 1) := by
  have taken := (firstHit?_eq_head? here (l.current s).rules).symm.trans noHit
  rw [listed] at taken
  have place : (matched ++ (pending ++ [c])).length = (matched ++ pending).length + 1 := by
    rw [← List.append_assoc, List.length_append, List.length_singleton]
  rw [Agrees, place] at next
  rw [Agrees, run_of_step (step_of_none left noHit), next, replay_of_none (not_ended here (by simp [left])) taken]
  cases l.replay List.head? src stack ((matched ++ pending).length + 1) with
  | error e => rfl
  | ok events => exact congrArg Except.ok (gather_after_skip src matched pending s c rest events)

theorem agrees_of_stall {hit : Hit P} (here : s.At src matched pending) (more : s.rest ≠ [])
    (called : (l.current s).name = stack.top) (listed : (l.current s).rules = l.rulesOf stack.top)
    (found : firstHit? s.before s.rest 0 (l.current s).rules = some hit) (stalled : hit.length = 0) :
    l.Agrees src matched pending stack s (fuel + 1) := by
  have stepped := step_of_some more found
  have taken := (firstHit?_eq_head? here (l.current s).rules).symm.trans found
  rw [listed] at taken
  rw [if_pos stalled, called, here.offset] at stepped
  rw [Agrees, run_of_error stepped, replay_of_some (not_ended here more) taken, if_pos stalled, here.split,
    List.take_left]
  rfl

theorem agrees_of_hit [LawfulEngine P] {hit : Hit P} (here : s.At src matched pending) (more : s.rest ≠ [])
    (listed : (l.current s).rules = l.rulesOf stack.top)
    (found : firstHit? s.before s.rest 0 (l.current s).rules = some hit) (some : hit.length ≠ 0)
    (next : l.Agrees src (matched ++ pending ++ s.rest.take hit.length) [] (stack.follow hit.rule.transition)
      (l.accept s hit) fuel) :
    l.Agrees src matched pending stack s (fuel + 1) := by
  have stepped := step_of_some more found
  have taken := (firstHit?_eq_head? here (l.current s).rules).symm.trans found
  have inside := length_le_of_firstHit? found
  have place : (matched ++ pending ++ s.rest.take hit.length ++ []).length =
      (matched ++ pending).length + hit.length := by
    rw [List.append_nil, List.length_append, List.length_take, Nat.min_eq_left inside]
  rw [listed] at taken
  rw [if_neg some] at stepped
  rw [Agrees, place] at next
  rw [Agrees, run_of_step stepped, next, replay_of_some (not_ended here more) taken, if_neg some]
  cases l.replay List.head? src (stack.follow hit.rule.transition) ((matched ++ pending).length + hit.length) with
  | error e => rfl
  | ok events => exact congrArg Except.ok (gather_after_hit here hit events)

end

variable [LawfulEngine P]

/-- A scan agrees with the first pass from every place, if its stack holds the states that the first pass
    names. -/
theorem agrees (well : l.WellFormed) {src : List Char} (fuel : Nat) :
    ∀ {s : Scan} {matched pending : List Char} {stack : Stack}, s.At src matched pending →
      l.Named s.stack stack.names → s.rest.length ≤ fuel → l.Agrees src matched pending stack s fuel := by
  induction fuel with
  | zero =>
    intro s matched pending stack here named enough
    exact agrees_of_ended here (List.length_eq_zero_iff.mp (Nat.le_zero.mp enough))
  | succ fuel ih =>
    intro s matched pending stack here named enough
    obtain ⟨declared, called, listed⟩ := current_of_named well named
    cases left : s.rest with
    | nil => exact agrees_of_ended here left
    | cons c rest =>
      have more : s.rest ≠ [] := by simp [left]
      cases found : firstHit? s.before s.rest 0 (l.current s).rules with
      | none =>
        have shorter : (s.skip c rest).rest.length ≤ fuel := by
          rw [left] at enough
          exact Nat.le_of_succ_le_succ enough
        exact agrees_of_none here left listed found (ih (Scan.at_skip here left) named shorter)
      | some hit =>
        by_cases stalled : hit.length = 0
        · exact agrees_of_stall here more called listed found stalled
        · have shorter : (l.accept s hit).rest.length ≤ fuel := by
            have some := List.length_pos_iff.mpr more
            simp only [accept, List.length_drop]
            omega
          have targets := well.targets _ declared hit.rule (firstHit?_mem _ 0 found).1
          have next := ih (at_accept here hit) (named_move targets named) shorter
          exact agrees_of_hit here more listed found stalled next

/-- A scan with a well-formed lexer finds what the two passes find. -/
theorem lex_eq_replay (well : l.WellFormed) (src : String) :
    l.lex src = (l.replay List.head? src.toList Stack.initial 0).map (gather src.toList) := by
  have started : l.Named [l.root] Stack.initial.names := .cons well.root .nil
  have both := agrees well src.toList.length (Scan.at_start l.root src.toList) started (Nat.le_refl _)
  rw [Agrees, String.ofList_toList] at both
  exact both

/-- Every lexer that a table makes finds what the two passes find, in every source, and it stops with an error
    where the first pass does. -/
theorem lex_eq_gather_replay {t : Table} {l : Lexer P} (built : t.build P = .ok l) (src : String) :
    l.lex src = (l.replay List.head? src.toList Stack.initial 0).map (gather src.toList) :=
  lex_eq_replay (wellFormed_of_build built) src

theorem lex_nestedComments : ∃ l, Table.nestedComments.build = .ok l ∧
    l.lex "(*(**)*)*)" =
      (l.replay List.head? "(*(**)*)*)".toList Stack.initial 0).map (gather "(*(**)*)*)".toList) ∧
    l.lex "(*(**)*)*)" =
      .ok [⟨.commentBlock, "(*", 0, 2⟩, ⟨.commentBlock, "(*", 2, 4⟩, ⟨.commentBlock, "*)", 4, 6⟩,
        ⟨.commentBlock, "*)", 6, 8⟩, ⟨.plainText, "*)", 8, 10⟩] := by
  refine ⟨_, rfl, lex_eq_gather_replay (t := Table.nestedComments) rfl _, ?_⟩
  decide +kernel

end Lexer

end Highlighter
