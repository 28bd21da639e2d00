import Highlighter.Proofs.Pattern.Matches

/-!
Matching as a search. The places where a match can end are tried in the order of preference until what
follows succeeds from one of them. `Pattern.search` says this by recursion on the pattern alone: a sequence
searches its second part from the ends of the first, and a choice turns to its second part where the first
finds nothing. `findSome?_ends` and `matchLength?_eq_search` say that matching is this search.

A repetition of a set is searched without going back where what follows cannot begin inside the run
(`search_star_of_stuck`) or succeeds behind it (`search_star_greedy`). So two runs of different characters and a mark
behind them match in one way only (`matchLength?_runs_char`).
-/

namespace Highlighter

namespace Trail

/-- The ranges of the trail cover just the numbers of characters that its places have used. -/
structure Exact (t : Trail) : Prop where
  ordered : ∀ r ∈ t.ranges, r.1 ≤ r.2
  covers_iff : ∀ n, covers t.ranges n = true ↔ ∃ e ∈ t.spots, e.used = n

theorem exact_empty : Exact .empty := ⟨by simp [empty], by simp [empty, covers]⟩

theorem cover_ordered (n : Nat) {ranges : List (Nat × Nat)} (ordered : ∀ r ∈ ranges, r.1 ≤ r.2) :
    ∀ r ∈ cover n ranges, r.1 ≤ r.2 := by
  match ranges with
  | [] => simp [cover]
  | (low, high) :: ranges =>
    have first := ordered (low, high) (by simp)
    have others : ∀ r ∈ ranges, r.1 ≤ r.2 := fun r member => ordered r (by simp [member])
    simp only [cover]
    split
    · exact List.forall_mem_cons.mpr ⟨by simp only at first ⊢; omega, others⟩
    · split
      · exact List.forall_mem_cons.mpr ⟨by simp only at first ⊢; omega, others⟩
      · exact List.forall_mem_cons.mpr ⟨Nat.le_refl n, ordered⟩

theorem exact_add {t : Trail} (exact : t.Exact) (s : Spot) : (t.add s).Exact := by
  unfold add
  split
  · exact exact
  · refine ⟨cover_ordered s.used exact.ordered, fun n => ?_⟩
    rw [covers_cover exact.ordered, exact.covers_iff]
    simp [eq_comm]

theorem has_iff {t : Trail} (exact : t.Exact) (s : Spot) : t.has s = true ↔ ∃ e ∈ t.spots, e.used = s.used :=
  exact.covers_iff s.used

end Trail

namespace Spot
variable {α : Type}

/-- Leaving out places that are listed before does not change what is found first. -/
theorem findSome?_distinct (k : Spot → Option α) (origin : Spot) {spots : List Spot}
    (ahead : ∀ e ∈ spots, Ahead 0 origin e) : (distinct spots).findSome? k = spots.findSome? k := by
  have general : ∀ (spots : List Spot) (t : Trail), t.Exact → (∀ e ∈ t.spots, Ahead 0 origin e) →
      (∀ e ∈ spots, Ahead 0 origin e) →
        (spots.foldl Trail.add t).toList.findSome? k = (t.toList ++ spots).findSome? k := by
    intro spots
    induction spots with
    | nil => intro t _ _ _; simp
    | cons s spots ih =>
      intro t exact before after
      have here := after s (by simp)
      have later : ∀ e ∈ spots, Ahead 0 origin e := fun e member => after e (by simp [member])
      by_cases known : t.has s
      · obtain ⟨e, listed, same⟩ := (Trail.has_iff exact s).mp known
        have member : s ∈ t.toList := by
          rw [← (before e listed).eq_of_used here same]
          exact List.mem_reverse.mpr listed
        rw [List.foldl_cons, Trail.add, if_pos known, ih t exact before later]
        cases found : t.toList.findSome? k with
        | some r => simp [found]
        | none => simp [found, List.findSome?_eq_none_iff.mp found s member]
      · have added : (t.add s).toList = t.toList ++ [s] := by
          rw [Trail.add, if_neg known, Trail.toList, Trail.toList, List.reverse_cons]
        rw [List.foldl_cons, ih (t.add s) (Trail.exact_add exact s) ?_ later, added, List.append_assoc,
          List.singleton_append]
        intro e listed
        rcases mem_add listed with rfl | earlier
        · exact here
        · exact before e earlier
  exact general spots .empty Trail.exact_empty (by simp [Trail.empty]) ahead

theorem findSome?_flatMap {β γ : Type} (k : γ → Option α) (step : β → List γ) (items : List β) :
    (items.flatMap step).findSome? k = items.findSome? fun m => (step m).findSome? k := by
  induction items with
  | nil => rfl
  | cons s items ih =>
    rw [List.flatMap_cons, List.findSome?_append, ih, List.findSome?_cons]
    cases (step s).findSome? k <;> rfl

theorem findSome?_andThen (k : Spot → Option α) {origin : Spot} {step : Spot → List Spot}
    {spots : List Spot} (ahead : ∀ e ∈ spots, Ahead 0 origin e)
    (onward : ∀ s, ∀ e ∈ step s, Ahead 0 s e) :
    (andThen step spots).findSome? k = spots.findSome? fun m => (step m).findSome? k := by
  match spots with
  | [] => rfl
  | [s] => simp only [andThen, List.findSome?_cons, List.findSome?_nil]; cases (step s).findSome? k <;> rfl
  | s :: m :: spots =>
    rw [← findSome?_flatMap]
    refine findSome?_distinct k origin fun e member => ?_
    obtain ⟨m, first, second⟩ := List.mem_flatMap.mp member
    exact (ahead m first).trans (onward m e second)

end Spot

namespace Pattern
open Spot
variable {α : Type}

/-- What is found first when `k` is tried at the places where a match from the given place can end. -/
def search : Pattern → (Spot → Option α) → Spot → Option α
  | empty, k, s => k s
  | set m, k, s =>
    match s.rest with
    | [] => none
    | c :: rest => if m.contains c then k ⟨some c, rest, s.used + 1⟩ else none
  | assertion a, k, s => if a.holds s then k s else none
  | seq p q, k, s => p.search (q.search k) s
  | either p q, k, s => (p.search k s).or (q.search k s)
  | star preference p, k, s => ((star preference p).ends s).findSome? k
  | loop preference p, k, s => ((loop preference p).ends s).findSome? k

theorem findSome?_ends (p : Pattern) : ∀ (k : Spot → Option α) (s : Spot),
    (p.ends s).findSome? k = p.search k s := by
  have onward (q : Pattern) (s : Spot) : ∀ e ∈ q.ends s, Ahead 0 s e := fun e => ahead_of_mem_ends
  induction p with
  | empty => intro k s; simp only [ends, search, List.findSome?_cons, List.findSome?_nil]; cases k s <;> rfl
  | set m =>
    intro k s
    rw [ends, past, search]
    cases s.rest with
    | nil => rfl
    | cons c rest =>
      by_cases member : m.contains c
      · simp only [member, ↓reduceIte, List.findSome?_cons, List.findSome?_nil]
        cases k ⟨some c, rest, s.used + 1⟩ <;> rfl
      · simp [member]
  | assertion a =>
    intro k s
    rw [ends, search]
    split
    · simp only [List.findSome?_cons, List.findSome?_nil]; cases k s <;> rfl
    · rfl
  | seq p q ihp ihq =>
    intro k s
    rw [ends, findSome?_andThen k (onward p s) (onward q), search, ← ihp]
    simp only [ihq]
  | either p q ihp ihq =>
    intro k s
    have ahead : ∀ e ∈ p.ends s ++ q.ends s, Ahead 0 s e :=
      List.forall_mem_append.mpr ⟨onward p s, onward q s⟩
    rw [ends, findSome?_distinct k s ahead, List.findSome?_append, ihp, ihq, search]
  | star | loop => intro k s; rfl

theorem map_search {β : Type} (p : Pattern) (f : α → β) (k : Spot → Option α) (s : Spot) :
    (p.search k s).map f = p.search (fun e => (k e).map f) s := by
  rw [← findSome?_ends, ← findSome?_ends, List.map_findSome?]
  rfl

theorem runOver_eq_farthest_cons (member : Char → Bool) (rest : List Char) :
    ∀ (before : Option Char) (used : Nat) (nearer : List Spot),
      ∃ others, runOver member nearer before rest used = farthest member before rest used :: others := by
  induction rest with
  | nil => intro before used nearer; exact ⟨nearer, rfl⟩
  | cons c rest ih =>
    intro before used nearer
    unfold runOver farthest
    split
    · exact ih (some c) (used + 1) _
    · exact ⟨nearer, rfl⟩

/-- The preferred place is the one that is found first. -/
theorem first?_eq_search (p : Pattern) : ∀ s : Spot, p.first? s = p.search some s := by
  have head (p : Pattern) (s : Spot) : (p.ends s).head? = p.search some s := by
    rw [← findSome?_ends]
    cases p.ends s <;> rfl
  induction p with
  | empty | set | assertion | loop => intro s; exact head _ s
  | seq p q ihp ihq =>
    intro s
    rw [first?, search, findSome?_ends]
    exact congrArg (fun k => p.search k s) (funext ihq)
  | either p q ihp ihq =>
    intro s
    rw [first?, search, ← ihp, ← ihq]
    cases p.first? s <;> rfl
  | star preference p ih =>
    intro s
    by_cases greedy : ∃ m, star preference p = star .more (set m)
    · obtain ⟨m, same⟩ := greedy
      obtain ⟨others, listed⟩ := runOver_eq_farthest_cons m.contains s.rest s.before s.used []
      rw [same, first?, search, ends, listed, List.findSome?_cons]
    · rw [first?]
      · exact head _ s
      · simp
      · simp
      · exact fun m same => greedy ⟨m, same⟩

theorem matchLength?_eq_search (p : Pattern) (before : Option Char) (rest : List Char) :
    p.matchLength? before rest = p.search (fun e => some e.used) ⟨before, rest, 0⟩ := by
  rw [matchLength?, first?_eq_search, map_search]
  rfl

theorem matchLength?_either (p q : Pattern) (before : Option Char) (rest : List Char) :
    (either p q).matchLength? before rest = (p.matchLength? before rest).or (q.matchLength? before rest) := by
  simp only [matchLength?_eq_search, search]

/-! ### Runs of characters of a set -/

/-- How many characters of a set stand at the start of a text. -/
def runLength (m : CharSet) (cs : List Char) : Nat := (cs.takeWhile m.contains).length

theorem runLength_append {m : CharSet} {front behind : List Char}
    (within : ∀ c ∈ front, m.contains c = true) (ended : ∀ c ∈ behind.head?, m.contains c = false) :
    runLength m (front ++ behind) = front.length := by
  have stop : behind.takeWhile m.contains = [] := by
    cases behind with
    | nil => rfl
    | cons c cs => exact List.takeWhile_cons_of_neg (by simp [ended c rfl])
  rw [runLength, List.takeWhile_append_of_pos within, stop, List.append_nil]

/-- What is as long as a run at the start of a text, and stands there, is the run. -/
theorem eq_takeWhile_of_length {member : Char → Bool} {front behind : List Char}
    (length : front.length = ((front ++ behind).takeWhile member).length) :
    front = (front ++ behind).takeWhile member := by
  have run := List.prefix_iff_eq_take.mp (List.takeWhile_prefix member (l := front ++ behind))
  rwa [← length, List.take_left, eq_comm] at run

theorem farthest_eq_advance (m : CharSet) (s : Spot) :
    farthest m.contains s.before s.rest s.used = s.advance (runLength m s.rest) := by
  have general : ∀ (rest : List Char) (before : Option Char) (used : Nat),
      farthest m.contains before rest used = advance ⟨before, rest, used⟩ (runLength m rest) := by
    intro rest
    induction rest with
    | nil => intro before used; rfl
    | cons c rest ih =>
      intro before used
      unfold farthest
      split
      next member =>
        have one : advance ⟨before, c :: rest, used⟩ 1 = ⟨some c, rest, used + 1⟩ := advance_one rfl
        rw [ih, ← one, advance_add, runLength, runLength, List.takeWhile_cons, if_pos member,
          List.length_cons, Nat.add_comm]
      next missing =>
        have none : runLength m (c :: rest) = 0 := by simp [runLength, missing]
        rw [none, advance_zero]
  exact general s.rest s.before s.used

/-- A place inside a run: the next character belongs to the set. -/
def Inside (m : CharSet) (e : Spot) : Prop := ∃ c rest, e.rest = c :: rest ∧ m.contains c = true

theorem mem_runOver (m : CharSet) (rest : List Char) :
    ∀ (before : Option Char) (used : Nat) (nearer : List Spot),
      ∀ e ∈ runOver m.contains nearer before rest used,
        e = farthest m.contains before rest used ∨ Inside m e ∨ e ∈ nearer := by
  induction rest with
  | nil =>
    intro before used nearer e listed
    exact (List.mem_cons.mp listed).imp_right .inr
  | cons c rest ih =>
    intro before used nearer e listed
    unfold runOver at listed
    unfold farthest
    by_cases member : m.contains c
    · rw [if_pos member] at listed ⊢
      rcases ih (some c) (used + 1) _ e listed with far | inside | earlier
      · exact .inl far
      · exact .inr (.inl inside)
      · rcases List.mem_cons.mp earlier with rfl | earlier
        · exact .inr (.inl ⟨c, rest, rfl, member⟩)
        · exact .inr (.inr earlier)
    · rw [if_neg member] at listed ⊢
      rcases List.mem_cons.mp listed with far | earlier
      · exact .inl far
      · exact .inr (.inr earlier)

theorem findSome?_eq_of_only {β : Type} {k : β → Option α} {items : List β} {e : β} (listed : e ∈ items)
    (only : ∀ f ∈ items, f = e ∨ k f = none) : items.findSome? k = k e := by
  cases found : k e with
  | none =>
    refine List.findSome?_eq_none_iff.mpr fun f member => ?_
    rcases only f member with rfl | stuck
    · exact found
    · exact stuck
  | some r =>
    cases first : items.findSome? k with
    | none => rw [List.findSome?_eq_none_iff.mp first e listed] at found; contradiction
    | some r' =>
      obtain ⟨f, member, result⟩ := List.exists_of_findSome?_eq_some first
      rcases only f member with rfl | stuck
      · rw [← result, found]
      · rw [stuck] at result; contradiction

/-- A run is searched at its end only, if what follows cannot begin with a character of the run. -/
theorem search_star_of_stuck (preference : Preference) {m : CharSet} {k : Spot → Option α}
    (stuck : ∀ e, Inside m e → k e = none) (s : Spot) :
    (star preference (set m)).search k s = k (s.advance (runLength m s.rest)) := by
  have only : ∀ e ∈ runOver m.contains [] s.before s.rest s.used,
      e = s.advance (runLength m s.rest) ∨ k e = none := by
    intro e listed
    rcases mem_runOver m s.rest s.before s.used [] e listed with far | inside | impossible
    · exact .inl (far.trans (farthest_eq_advance m s))
    · exact .inr (stuck e inside)
    · simp at impossible
  have listed : s.advance (runLength m s.rest) ∈ runOver m.contains [] s.before s.rest s.used :=
    farthest_eq_advance m s ▸ farthest_mem_runOver m.contains s.rest s.before s.used []
  rw [search]
  cases preference with
  | more => exact findSome?_eq_of_only listed only
  | fewer =>
    exact findSome?_eq_of_only (List.mem_reverse.mpr listed) fun e member => only e (List.mem_reverse.mp member)

/-- A run that prefers more is searched at its end first. -/
theorem search_star_greedy {m : CharSet} {k : Spot → Option α} {s : Spot} {r : α}
    (found : k (s.advance (runLength m s.rest)) = some r) : (star .more (set m)).search k s = some r := by
  obtain ⟨others, listed⟩ := runOver_eq_farthest_cons m.contains s.rest s.before s.used []
  rw [search, ends, listed, List.findSome?_cons, farthest_eq_advance, found]

theorem runLength_cons_of_mem {m : CharSet} {c : Char} (member : m.contains c = true) (rest : List Char) :
    runLength m (c :: rest) = runLength m rest + 1 := by
  rw [runLength, List.takeWhile_cons, if_pos member, List.length_cons, runLength]

/-- What stands behind a run is the text from the first character on that does not belong to the set. -/
theorem drop_runLength (m : CharSet) (cs : List Char) : cs.drop (runLength m cs) = cs.dropWhile m.contains :=
  calc cs.drop (runLength m cs)
      = (cs.takeWhile m.contains ++ cs.dropWhile m.contains).drop (runLength m cs) := by
        rw [List.takeWhile_append_dropWhile]
    _ = cs.dropWhile m.contains := List.drop_left

/-- A run of characters of a set goes on behind a run of some of them. -/
theorem runLength_of_subset {m more : CharSet} (subset : ∀ c, m.contains c = true → more.contains c = true)
    (cs : List Char) : runLength more cs = runLength m cs + runLength more (cs.drop (runLength m cs)) := by
  induction cs with
  | nil => rfl
  | cons c cs ih =>
    by_cases member : m.contains c = true
    · rw [runLength_cons_of_mem member, runLength_cons_of_mem (subset c member), List.drop_succ_cons, ih]
      omega
    · have none : runLength m (c :: cs) = 0 := by simp [runLength, member]
      rw [none, Nat.zero_add, List.drop_zero]

theorem matchLength?_set (m : CharSet) (before : Option Char) (c : Char) (rest : List Char) :
    (set m).matchLength? before (c :: rest) = if m.contains c then some 1 else none := by
  rw [matchLength?_eq_search, search]

/-- A character and, behind it, as many characters of a set as there are. -/
theorem matchLength?_set_star {m more : CharSet} (before : Option Char) {c : Char} {rest : List Char}
    (member : m.contains c = true) :
    (seq (set m) (star .more (set more))).matchLength? before (c :: rest) = some (1 + runLength more rest) := by
  rw [matchLength?_eq_search, search, search]
  simp only [member, ↓reduceIte]
  rw [search_star_greedy (k := fun e => some e.used) rfl, advance_used]

/-- One member or more, as many as there are. -/
theorem matchLength?_oneOrMore {m : CharSet} (before : Option Char) {c : Char} {rest : List Char}
    (member : m.contains c = true) :
    (oneOrMore .more (set m)).matchLength? before (c :: rest) = some (runLength m (c :: rest)) := by
  rw [oneOrMore, matchLength?_set_star before member, runLength_cons_of_mem member, Nat.add_comm]

theorem search_oneOrMore (m : CharSet) (s : Spot) : (oneOrMore .more (set m)).search (fun e => some e.used) s =
    if runLength m s.rest = 0 then none else some (s.used + runLength m s.rest) := by
  obtain ⟨before, rest, n⟩ := s
  cases rest with
  | nil => simp [oneOrMore, search, runLength]
  | cons c rest =>
    rw [oneOrMore, search, search]
    by_cases member : m.contains c = true
    · simp only [member, ↓reduceIte, runLength_cons_of_mem member]
      rw [search_star_greedy (k := fun e => some e.used) rfl, advance_used, if_neg (Nat.succ_ne_zero _)]
      simp only [Nat.add_assoc, Nat.add_comm]
    · simp [member, runLength]

/-- Members of a set and then of a larger one, as many as there are. -/
theorem matchLength?_oneOrMore_star {m more : CharSet} (subset : ∀ c, m.contains c = true → more.contains c = true)
    (before : Option Char) {c : Char} {rest : List Char} (member : m.contains c = true) :
    (seq (oneOrMore .more (set m)) (star .more (set more))).matchLength? before (c :: rest) =
      some (runLength more (c :: rest)) := by
  rw [matchLength?_eq_search, oneOrMore, search, search, search]
  simp only [member, ↓reduceIte]
  have behind : ((star .more (set more)).search fun e => some e.used)
      (advance ⟨some c, rest, 0 + 1⟩ (runLength m rest)) =
        some (1 + runLength m rest + runLength more (rest.drop (runLength m rest))) := by
    rw [search_star_greedy (k := fun e => some e.used) rfl]
    simp
  rw [search_star_greedy behind, runLength_cons_of_mem (subset c member), runLength_of_subset subset rest]
  congr 1
  omega

/-! ### Two runs and a character -/

/-- Every text begins with a run of characters of a set, which may be empty. -/
theorem exists_run (m : CharSet) (cs : List Char) : ∃ run behind, cs = run ++ behind ∧
    (∀ c ∈ run, m.contains c = true) ∧ ∀ c ∈ behind.head?, m.contains c = false := by
  induction cs with
  | nil => exact ⟨[], [], rfl, by simp, by simp⟩
  | cons c cs ih =>
    cases member : m.contains c with
    | false => exact ⟨[], c :: cs, rfl, by simp, by simpa using member⟩
    | true =>
      obtain ⟨run, behind, rfl, within, ended⟩ := ih
      exact ⟨c :: run, behind, rfl, List.forall_mem_cons.mpr ⟨member, within⟩, ended⟩

theorem search_char (d : Char) (s : Spot) : (char d).search (fun e => some e.used) s =
    if s.rest.head? = some d then some (s.used + 1) else none := by
  rw [char, search]
  cases s.rest with
  | nil => simp
  | cons c rest => simp [CharSet.contains_single]

theorem search_char_cons (k : Spot → Option α) (c d : Char) (before : Option Char) (rest : List Char) (n : Nat) :
    (char d).search k ⟨before, c :: rest, n⟩ = if c = d then k ⟨some c, rest, n + 1⟩ else none := by
  simp [char, search, CharSet.contains_single]

section
variable {a b : CharSet} {mark : Char} (apart : ∀ c, a.contains c = true → b.contains c = false)
  (first : a.contains mark = false) (second : b.contains mark = false)
include apart first second

theorem matchLength?_runs_append (before : Option Char) {u v after : List Char} (within : ∀ c ∈ u, a.contains c = true)
    (ended : ∀ c ∈ (v ++ after).head?, a.contains c = false) (within' : ∀ c ∈ v, b.contains c = true)
    (ended' : ∀ c ∈ after.head?, b.contains c = false) :
    (seq (seq (star .more (set a)) (star .more (set b))) (char mark)).matchLength? before (u ++ (v ++ after)) =
      if after.head? = some mark then some (u.length + v.length + 1) else none := by
  have inner : ∀ e, Inside b e → (char mark).search (fun e => some e.used) e = none := by
    rintro e ⟨c, rest, here, member⟩
    have other : c ≠ mark := by rintro rfl; simp [second] at member
    simp [search_char, here, other]
  have outer : ∀ e, Inside a e → (star .more (set b)).search ((char mark).search fun e => some e.used) e = none := by
    rintro e ⟨c, rest, here, member⟩
    have other : c ≠ mark := by rintro rfl; simp [first] at member
    have none : runLength b e.rest = 0 := by simp [here, runLength, apart c member]
    rw [search_star_of_stuck _ inner, none, advance_zero, search_char]
    simp [here, other]
  rw [matchLength?_eq_search, search, search, search_star_of_stuck _ outer, search_star_of_stuck _ inner,
    search_char, runLength_append within ended]
  simp [runLength_append within' ended']

/-- Two runs and a character behind them match in one way only, if no character can stand in two of these places. -/
theorem matchLength?_runs_char (before : Option Char) (rest : List Char) (n : Nat) :
    (seq (seq (star .more (set a)) (star .more (set b))) (char mark)).matchLength? before rest = some n ↔
      ∃ u v after, rest = u ++ (v ++ mark :: after) ∧ (∀ c ∈ u, a.contains c = true) ∧
        (∀ c ∈ v, b.contains c = true) ∧ n = u.length + v.length + 1 := by
  constructor
  · intro found
    obtain ⟨u, behind, rfl, within, ended⟩ := exists_run a rest
    obtain ⟨v, after, rfl, within', ended'⟩ := exists_run b behind
    rw [matchLength?_runs_append apart first second before within ended within' ended'] at found
    split at found
    next here =>
      obtain ⟨after, rfl⟩ := List.head?_eq_some_iff.mp here
      exact ⟨u, v, after, rfl, within, within', (Option.some.inj found).symm⟩
    · contradiction
  · rintro ⟨u, v, after, rfl, within, within', rfl⟩
    have ended : ∀ c ∈ (v ++ mark :: after).head?, a.contains c = false := by
      cases v with
      | nil => simpa using first
      | cons d v =>
        rintro c ⟨rfl⟩
        rw [Bool.eq_false_iff]
        intro member
        simpa [apart d member] using within' d
    rw [matchLength?_runs_append apart first second before within ended within' (by simpa using second)]
    simp

end

end Pattern

end Highlighter
