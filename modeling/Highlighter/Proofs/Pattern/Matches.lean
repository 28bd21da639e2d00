import Highlighter.Pattern

/-!
What a pattern can match, without regard to preference. `Pattern.Matches` relates the place where a match
begins to the places where it can end, with one rule for each way to build a pattern. Every place that the
matcher lists is one of them (`matches_of_mem_ends`), and so is the place that it prefers
(`matches_of_first?`), whatever the order in which it follows the rounds of a repetition.

How far a match can reach, and how it can begin. Every place where a match can end lies on the text ahead of
the place where it starts, so such a place is known by the number of characters used
(`Matches.ahead`, `Ahead.eq_of_used`). A match stays inside the text and uses at least as many characters as
the shortest text of its pattern has (`matchLength?_le`, `shortest_le_matchLength?`), and at least one if the
pattern cannot be empty (`matchLength?_pos`). `Pattern.opening` is the set of the characters with which a match can
begin (`Matches.opening`), and `Pattern.leads` are the sets to which its first characters belong (`Matches.leads`).
-/

namespace Highlighter

/-! ## What a match is -/

namespace Pattern

/-- A match of the pattern from `s` can end at `e`. -/
inductive Matches : Pattern → Spot → Spot → Prop
  | empty (s : Spot) : Matches empty s s
  | set {m : CharSet} {s : Spot} {c : Char} {rest : List Char} (here : s.rest = c :: rest)
      (member : m.contains c = true) : Matches (set m) s ⟨some c, rest, s.used + 1⟩
  | assertion {a : Assertion} {s : Spot} (holds : a.holds s = true) : Matches (assertion a) s s
  | seq {p q : Pattern} {s m e : Spot} (first : Matches p s m) (second : Matches q m e) :
      Matches (seq p q) s e
  | preferred {p q : Pattern} {s e : Spot} (found : Matches p s e) : Matches (either p q) s e
  | other {p q : Pattern} {s e : Spot} (found : Matches q s e) : Matches (either p q) s e
  | none {preference : Preference} {p : Pattern} (s : Spot) : Matches (star preference p) s s
  | round {preference : Preference} {p : Pattern} {s m e : Spot} (before : Matches (star preference p) s m)
      (last : Matches p m e) : Matches (star preference p) s e
  | once {preference : Preference} {p : Pattern} {s e : Spot} (found : Matches p s e) :
      Matches (loop preference p) s e
  | again {preference : Preference} {p : Pattern} {s m e : Spot} (before : Matches (loop preference p) s m)
      (last : Matches p m e) : Matches (loop preference p) s e

end Pattern

namespace Spot

theorem matches_of_mem_past {m : CharSet} {s e : Spot} (reached : e ∈ s.past m) : (Pattern.set m).Matches s e := by
  unfold past at reached
  split at reached
  · simp at reached
  next c rest here =>
    rw [List.mem_ite_nil_right, List.mem_singleton] at reached
    exact reached.2 ▸ .set here reached.1

/-! ### Lists of places -/

theorem mem_add {t : Trail} {s e : Spot} (listed : e ∈ (t.add s).spots) : e = s ∨ e ∈ t.spots := by
  unfold Trail.add at listed
  split at listed
  · exact .inr listed
  · simpa using listed

theorem mem_of_mem_distinct {spots : List Spot} {e : Spot} (listed : e ∈ distinct spots) : e ∈ spots := by
  rw [distinct, Trail.toList, List.mem_reverse] at listed
  refine List.foldlRecOn (motive := fun t => ∀ e ∈ t.spots, e ∈ spots) spots Trail.add
    (by simp [Trail.empty]) ?_ e listed
  intro t all s member e listed
  rcases mem_add listed with rfl | earlier
  · exact member
  · exact all e earlier

theorem mem_andThen {step : Spot → List Spot} {spots : List Spot} {e : Spot}
    (reached : e ∈ andThen step spots) : ∃ m ∈ spots, e ∈ step m := by
  match spots with
  | [] => simp [andThen] at reached
  | [s] => exact ⟨s, by simp, reached⟩
  | s :: m :: spots => exact List.mem_flatMap.mp (mem_of_mem_distinct reached)

theorem matches_of_mem_runOver (preference : Preference) (m : CharSet) (s : Spot) (rest : List Char) :
    ∀ (before : Option Char) (used : Nat) (nearer : List Spot),
      (Pattern.star preference (.set m)).Matches s ⟨before, rest, used⟩ →
      (∀ e ∈ nearer, (Pattern.star preference (.set m)).Matches s e) →
        ∀ e ∈ runOver m.contains nearer before rest used, (Pattern.star preference (.set m)).Matches s e := by
  induction rest with
  | nil => intro before used nearer here all; exact List.forall_mem_cons.mpr ⟨here, all⟩
  | cons c rest ih =>
    intro before used nearer here all
    have extended := List.forall_mem_cons.mpr ⟨here, all⟩
    unfold runOver
    split
    next member => exact ih (some c) (used + 1) _ (.round here (.set rfl member)) extended
    · exact extended

theorem farthest_mem_runOver (member : Char → Bool) (rest : List Char) :
    ∀ (before : Option Char) (used : Nat) (nearer : List Spot),
      farthest member before rest used ∈ runOver member nearer before rest used := by
  induction rest with
  | nil => intro before used nearer; simp [farthest, runOver]
  | cons c rest ih =>
    intro before used nearer
    unfold farthest runOver
    split
    · exact ih (some c) (used + 1) _
    · simp

section
variable {preference : Preference} {step : Spot → List Spot} {P : Spot → Prop}

/-- What holds of a place and is kept by every step holds of all places that repeating the step lists. -/
theorem repeated_induction (kept : ∀ s, P s → ∀ e ∈ step s, P e) (fuel : List Char) :
    ∀ (seen : Trail) (s : Spot), (∀ e ∈ seen.spots, P e) → P s →
      ∀ e ∈ (repeated preference step fuel seen s).spots, P e := by
  have added (t : Trail) (s : Spot) (all : ∀ e ∈ t.spots, P e) (here : P s) : ∀ e ∈ (t.add s).spots, P e := by
    intro e listed
    rcases mem_add listed with rfl | earlier
    · exact here
    · exact all e earlier
  induction fuel with
  | nil =>
    intro seen s all here
    rw [repeated]
    split
    · exact all
    · exact added seen s all here
  | cons c fuel ih =>
    intro seen s all here
    have rounds (t : Trail) (before : ∀ e ∈ t.spots, P e) :
        ∀ e ∈ ((step s).foldl (repeated preference step fuel) t).spots, P e :=
      List.foldlRecOn (step s) (repeated preference step fuel) before
        fun t before e member => ih t e before (kept s here e member)
    unfold repeated
    split
    · exact all
    · cases preference with
      | more => exact added _ s (rounds seen all) here
      | fewer => exact rounds _ (added seen s all here)

/-- The same for a repetition that begins at several places. -/
theorem foldl_repeated_induction (kept : ∀ s, P s → ∀ e ∈ step s, P e) (fuel : List Char)
    (spots : List Spot) (starts : ∀ e ∈ spots, P e) :
    ∀ e ∈ (spots.foldl (repeated preference step fuel) .empty).toList, P e := by
  intro e listed
  rw [Trail.toList, List.mem_reverse] at listed
  exact List.foldlRecOn (motive := fun t => ∀ e ∈ t.spots, P e) spots (repeated preference step fuel)
    (by simp [Trail.empty])
    (fun t before s member => repeated_induction kept fuel t s before (starts s member)) e listed

end

end Spot

/-! ### Repetitions of which a round may use no character -/

theorem Waypoint.mem_of_mem_distinct {ways : List Waypoint} {e : Waypoint} (listed : e ∈ distinct ways) :
    e ∈ ways := by
  rw [distinct, List.mem_reverse] at listed
  refine List.foldlRecOn (motive := fun t : List (Nat × Nat) × List Waypoint => ∀ e ∈ t.2, e ∈ ways) ways _
    (by simp) ?_ e listed
  rintro ⟨seen, found⟩ all s member e listed
  by_cases covered : Trail.covers seen s.spot.used
  · exact all e (by simpa [covered] using listed)
  · simp only [covered, Bool.false_eq_true, ↓reduceIte] at listed
    rcases List.mem_cons.mp listed with rfl | earlier
    · exact member
    · exact all e earlier

namespace Rounds
variable {preference : Preference} {branching : List Bool} {step : Waypoint → List Waypoint}
  {P : Spot → Prop}

/-- What holds of the place of a waypoint and is kept by every round holds of all that are listed. -/
theorem follow_induction (kept : ∀ s : Waypoint, P s.spot → ∀ e ∈ step s, P e.spot) (fuel : List Char) :
    ∀ (r : Rounds) (s : Waypoint), (∀ e ∈ r.listed, P e.spot) → P s.spot →
      ∀ e ∈ (follow preference branching step fuel r s).listed, P e.spot := by
  have added (r : Rounds) (s : Waypoint) (all : ∀ e ∈ r.listed, P e.spot) (here : P s.spot) :
      ∀ e ∈ (r.list s).listed, P e.spot := List.forall_mem_cons.mpr ⟨here, all⟩
  induction fuel with
  | nil =>
    intro r s all here
    unfold follow
    split
    · exact all
    · exact added (r.enter s) (s.pass branching) all here
  | cons c fuel ih =>
    intro r s all here
    have rounds (t : Rounds) (before : ∀ e ∈ t.listed, P e.spot) :
        ∀ e ∈ ((step (s.pass branching)).foldl (follow preference branching step fuel) t).listed, P e.spot :=
      List.foldlRecOn _ (follow preference branching step fuel) before
        fun t before e member => ih t e before (kept (s.pass branching) here e member)
    unfold follow
    split
    · exact all
    · cases preference with
      | more => exact added _ (s.pass branching) (rounds (r.enter s) all) here
      | fewer => exact rounds _ (added (r.enter s) (s.pass branching) all here)

/-- The same for a repetition that begins at several waypoints. -/
theorem foldl_follow_induction (kept : ∀ s : Waypoint, P s.spot → ∀ e ∈ step s, P e.spot) (fuel : List Char)
    (ways : List Waypoint) (starts : ∀ e ∈ ways, P e.spot) :
    ∀ e ∈ (ways.foldl (follow preference branching step fuel) .start).listed.reverse, P e.spot := by
  intro e listed
  rw [List.mem_reverse] at listed
  exact List.foldlRecOn (motive := fun r => ∀ e ∈ r.listed, P e.spot) ways
    (follow preference branching step fuel) (by simp [start])
    (fun r before s member => follow_induction kept fuel r s before (starts s member)) e listed

end Rounds

namespace Pattern
open Spot

theorem matches_of_mem_waypoints (p : Pattern) : ∀ (path : List Bool) (s e : Waypoint),
    e ∈ p.waypoints path s → p.Matches s.spot e.spot := by
  induction p with
  | empty =>
    intro path s e listed
    rw [waypoints, List.mem_singleton] at listed
    exact listed ▸ .empty s.spot
  | set m =>
    intro path s e listed
    obtain ⟨spot, reached, rfl⟩ := List.mem_map.mp listed
    exact matches_of_mem_past reached
  | assertion a =>
    intro path s e listed
    rw [waypoints, List.mem_ite_nil_right, List.mem_singleton] at listed
    obtain ⟨holds, rfl⟩ := listed
    exact .assertion holds
  | seq p q ihp ihq =>
    intro path s e listed
    obtain ⟨m, first, second⟩ := List.mem_flatMap.mp (Waypoint.mem_of_mem_distinct listed)
    exact .seq (ihp _ s m first) (ihq _ m e second)
  | either p q ihp ihq =>
    intro path s e listed
    rw [waypoints] at listed
    split at listed
    · simp at listed
    · rcases List.mem_append.mp (Waypoint.mem_of_mem_distinct listed) with left | right
      · exact .preferred (ihp _ (s.pass path) e left)
      · exact .other (ihq _ (s.pass path) e right)
  | star preference p ih =>
    intro path s e listed
    rw [waypoints, List.mem_reverse] at listed
    exact Rounds.follow_induction (fun m here e reached => .round here (ih _ m e reached)) s.spot.rest .start s
      (by simp [Rounds.start]) (.none s.spot) e listed
  | loop preference p ih =>
    intro path s e listed
    rw [waypoints] at listed
    exact Rounds.foldl_follow_induction (fun m here e reached => .again here (ih _ m e reached)) s.spot.rest _
      (fun e first => .once (ih _ s e first)) e listed

theorem mem_ends_star {preference : Preference} {p : Pattern} {s e : Spot}
    (listed : e ∈ (star preference p).ends s) :
    (∃ m, p = set m ∧ e ∈ runOver m.contains [] s.before s.rest s.used) ∨
      e ∈ (repeated preference p.ends s.rest .empty s).toList := by
  by_cases one : ∃ m, p = set m
  · obtain ⟨m, rfl⟩ := one
    cases preference with
    | more => exact .inl ⟨m, rfl, listed⟩
    | fewer => exact .inl ⟨m, rfl, List.mem_reverse.mp listed⟩
  · rw [ends] at listed
    · exact .inr listed
    · exact fun m _ same => one ⟨m, same⟩
    · exact fun m _ same => one ⟨m, same⟩

/-- Every place that is listed is the end of a match. -/
theorem matches_of_mem_ends (p : Pattern) : ∀ s e : Spot, e ∈ p.ends s → p.Matches s e := by
  induction p with
  | empty =>
    intro s e listed
    rw [ends, List.mem_singleton] at listed
    exact listed ▸ .empty s
  | set m => intro s e listed; exact matches_of_mem_past listed
  | assertion a =>
    intro s e listed
    rw [ends, List.mem_ite_nil_right, List.mem_singleton] at listed
    obtain ⟨holds, rfl⟩ := listed
    exact .assertion holds
  | seq p q ihp ihq =>
    intro s e listed
    obtain ⟨m, first, second⟩ := mem_andThen listed
    exact .seq (ihp s m first) (ihq m e second)
  | either p q ihp ihq =>
    intro s e listed
    rcases List.mem_append.mp (mem_of_mem_distinct listed) with left | right
    · exact .preferred (ihp s e left)
    · exact .other (ihq s e right)
  | star preference p ih =>
    intro s e listed
    rcases mem_ends_star listed with ⟨m, rfl, reached⟩ | reached
    · exact matches_of_mem_runOver preference m s s.rest s.before s.used [] (.none s) (by simp) e reached
    · rw [Trail.toList, List.mem_reverse] at reached
      exact repeated_induction (fun m here e reached => .round here (ih m e reached)) s.rest .empty s
        (by simp [Trail.empty]) (.none s) e reached
  | loop preference p ih =>
    intro s e listed
    rw [ends] at listed
    split at listed
    · obtain ⟨w, reached, rfl⟩ := List.mem_map.mp listed
      exact matches_of_mem_waypoints (loop preference p) [] ⟨s, []⟩ w reached
    · exact foldl_repeated_induction (fun m here e reached => .again here (ih m e reached)) s.rest _
        (fun e first => .once (ih s e first)) e listed

/-- The preferred place is the end of a match. -/
theorem matches_of_first? (p : Pattern) : ∀ s e : Spot, p.first? s = some e → p.Matches s e := by
  have head (p : Pattern) (s e : Spot) (found : (p.ends s).head? = some e) : p.Matches s e :=
    matches_of_mem_ends p s e (List.mem_of_head? found)
  induction p with
  | empty | set | assertion | loop => intro s e found; exact head _ s e found
  | seq p q ihp ihq =>
    intro s e found
    obtain ⟨m, first, second⟩ := List.exists_of_findSome?_eq_some found
    exact .seq (matches_of_mem_ends p s m first) (ihq m e second)
  | either p q ihp ihq =>
    intro s e found
    rw [first?] at found
    split at found
    next f left => exact Option.some.inj found ▸ .preferred (ihp s f left)
    · exact .other (ihq s e found)
  | star preference p ih =>
    intro s e found
    by_cases greedy : ∃ m, star preference p = star .more (set m)
    · obtain ⟨m, same⟩ := greedy
      rw [same] at found ⊢
      rw [← Option.some.inj found]
      exact matches_of_mem_ends _ s _ (farthest_mem_runOver m.contains s.rest s.before s.used [])
    · rw [first?] at found
      · exact head _ s e found
      · simp
      · simp
      · exact fun m same => greedy ⟨m, same⟩

end Pattern

/-! ## How far a match reaches -/

namespace Spot

/-- The place `n` characters further on. -/
def advance (s : Spot) (n : Nat) : Spot :=
  ⟨(s.rest.take n).getLast?.or s.before, s.rest.drop n, s.used + n⟩

@[simp] theorem advance_zero (s : Spot) : s.advance 0 = s := by simp [advance]

@[simp] theorem advance_rest (s : Spot) (n : Nat) : (s.advance n).rest = s.rest.drop n := rfl

@[simp] theorem advance_used (s : Spot) (n : Nat) : (s.advance n).used = s.used + n := rfl

theorem advance_add (s : Spot) (n m : Nat) : (s.advance n).advance m = s.advance (n + m) := by
  simp only [advance, List.drop_drop, List.take_add, List.getLast?_append, Nat.add_assoc, Option.or_assoc]

theorem advance_one {s : Spot} {c : Char} {rest : List Char} (here : s.rest = c :: rest) :
    s.advance 1 = ⟨some c, rest, s.used + 1⟩ := by
  simp [advance, here]

/-- The place `e` lies on the text ahead of `s`, at least `least` characters on. -/
def Ahead (least : Nat) (s e : Spot) : Prop :=
  ∃ n, least ≤ n ∧ n ≤ s.rest.length ∧ e = s.advance n

theorem Ahead.refl (s : Spot) : Ahead 0 s s := ⟨0, Nat.le_refl 0, Nat.zero_le _, by simp⟩

theorem Ahead.mono {least more : Nat} {s e : Spot} (fewer : least ≤ more) (ahead : Ahead more s e) :
    Ahead least s e := by
  obtain ⟨n, enough, inside, rfl⟩ := ahead
  exact ⟨n, Nat.le_trans fewer enough, inside, rfl⟩

theorem Ahead.trans {a b : Nat} {s m e : Spot} (first : Ahead a s m) (second : Ahead b m e) :
    Ahead (a + b) s e := by
  obtain ⟨n, enough, inside, rfl⟩ := first
  obtain ⟨k, enoughMore, insideRest, rfl⟩ := second
  rw [advance_rest, List.length_drop] at insideRest
  exact ⟨n + k, by omega, by omega, advance_add s n k⟩

theorem Ahead.used_le {least : Nat} {s e : Spot} (ahead : Ahead least s e) : s.used + least ≤ e.used := by
  obtain ⟨n, enough, _, rfl⟩ := ahead
  exact Nat.add_le_add_left enough s.used

/-- Two places ahead of one place are the same if they have used the same number of characters. -/
theorem Ahead.eq_of_used {a b : Nat} {s e f : Spot} (first : Ahead a s e) (second : Ahead b s f)
    (same : e.used = f.used) : e = f := by
  obtain ⟨n, _, _, rfl⟩ := first
  obtain ⟨k, _, _, rfl⟩ := second
  have equal : n = k := by simpa using same
  rw [equal]

/-- A character that stands behind both places is seen from both. -/
theorem Ahead.getElem?_rest {least i : Nat} {s e : Spot} (ahead : Ahead least s e) (behind : e.used ≤ s.used + i) :
    e.rest[s.used + i - e.used]? = s.rest[i]? := by
  obtain ⟨n, _, _, rfl⟩ := ahead
  rw [advance_used] at behind ⊢
  rw [advance_rest, List.getElem?_drop]
  congr 1
  omega

end Spot

namespace Pattern
open Spot

/-- The number of characters in the shortest text that the pattern could match. -/
def shortest : Pattern → Nat
  | empty | assertion _ | star _ _ => 0
  | set _ => 1
  | seq p q => p.shortest + q.shortest
  | either p q => min p.shortest q.shortest
  | loop _ p => p.shortest

theorem shortest_pos_iff (p : Pattern) : 0 < p.shortest ↔ p.canBeEmpty = false := by
  induction p with
  | empty | set | assertion | star => simp [shortest, canBeEmpty]
  | seq p q ihp ihq => simp only [shortest, canBeEmpty, Bool.and_eq_false_iff, ← ihp, ← ihq]; omega
  | either p q ihp ihq => simp only [shortest, canBeEmpty, Bool.or_eq_false_iff, ← ihp, ← ihq]; omega
  | loop _ p ih => simpa only [shortest, canBeEmpty] using ih

/-- Every place where a match can end lies ahead, at least the shortest match on. -/
theorem Matches.ahead {p : Pattern} {s e : Spot} (found : p.Matches s e) : Ahead p.shortest s e := by
  induction found with
  | empty s => exact Ahead.refl s
  | set here member => exact ⟨1, Nat.le_refl 1, by simp [here], (advance_one here).symm⟩
  | assertion holds => exact Ahead.refl _
  | seq first second ihFirst ihSecond => exact ihFirst.trans ihSecond
  | preferred found ih => exact ih.mono (Nat.min_le_left ..)
  | other found ih => exact ih.mono (Nat.min_le_right ..)
  | none s => exact Ahead.refl s
  | round before last ihBefore ihLast => exact (ihBefore.trans ihLast).mono (Nat.zero_le _)
  | once found ih => exact ih
  | again before last ihBefore ihLast => exact (ihBefore.trans ihLast).mono (Nat.le_add_right ..)

theorem ahead_of_mem_ends {p : Pattern} {s e : Spot} (listed : e ∈ p.ends s) : Ahead 0 s e :=
  (matches_of_mem_ends p s e listed).ahead.mono (Nat.zero_le _)

section
variable {p : Pattern} {before : Option Char} {rest : List Char} {n : Nat}

theorem matches_of_matchLength? (found : p.matchLength? before rest = some n) :
    p.Matches ⟨before, rest, 0⟩ (advance ⟨before, rest, 0⟩ n) := by
  obtain ⟨e, first, rfl⟩ := Option.map_eq_some_iff.mp found
  have reached := matches_of_first? p _ e first
  obtain ⟨k, _, _, rfl⟩ := reached.ahead
  simpa using reached

/-- A match stays inside the text. -/
theorem matchLength?_le (found : p.matchLength? before rest = some n) : n ≤ rest.length := by
  obtain ⟨k, _, inside, same⟩ := (matches_of_matchLength? found).ahead
  have equal : n = k := by simpa using congrArg Spot.used same
  exact equal ▸ inside

/-- A match is no shorter than the shortest text of its pattern. -/
theorem shortest_le_matchLength? (found : p.matchLength? before rest = some n) : p.shortest ≤ n := by
  obtain ⟨k, enough, _, same⟩ := (matches_of_matchLength? found).ahead
  have equal : n = k := by simpa using congrArg Spot.used same
  exact equal ▸ enough

/-- A pattern that cannot be empty uses at least one character wherever it matches. -/
theorem matchLength?_pos (full : p.canBeEmpty = false) (found : p.matchLength? before rest = some n) : 0 < n :=
  Nat.lt_of_lt_of_le ((shortest_pos_iff p).mpr full) (shortest_le_matchLength? found)

end

/-- Whether the character is a member of no set in the pattern. -/
def avoids (c : Char) : Pattern → Bool
  | empty | assertion _ => true
  | set m => !m.contains c
  | seq p q | either p q => p.avoids c && q.avoids c
  | star _ p | loop _ p => p.avoids c

/-- No match goes on over a character that its pattern avoids. -/
theorem Matches.used_le_of_avoids {c : Char} {p : Pattern} {s e : Spot} (found : p.Matches s e) :
    p.avoids c = true → ∀ {i : Nat}, s.rest[i]? = some c → e.used ≤ s.used + i := by
  -- What holds of the first part of a match holds of the second, as the character is still ahead between them.
  have onward {p : Pattern} {s m e : Spot} (first : p.Matches s m)
      (before : ∀ {i : Nat}, s.rest[i]? = some c → m.used ≤ s.used + i)
      (after : ∀ {i : Nat}, m.rest[i]? = some c → e.used ≤ m.used + i) {i : Nat} (here : s.rest[i]? = some c) :
      e.used ≤ s.used + i := by
    have behind := before here
    have last := after ((first.ahead.getElem?_rest behind).trans here)
    omega
  induction found with
  | empty s => intro _ i _; exact Nat.le_add_right ..
  | @set m s d rest here member =>
    intro free i same
    cases i with
    | zero =>
      rw [here] at same
      obtain rfl : d = c := Option.some.inj same
      simp [avoids, member] at free
    | succ i => exact Nat.add_le_add_left (Nat.le_add_left 1 i) s.used
  | assertion holds => intro _ i _; exact Nat.le_add_right ..
  | seq first second ihFirst ihSecond =>
    intro free i here
    obtain ⟨freeP, freeQ⟩ := (Bool.and_eq_true _ _).mp free
    exact onward first (ihFirst freeP) (ihSecond freeQ) here
  | preferred found ih => intro free; exact ih ((Bool.and_eq_true _ _).mp free).1
  | other found ih => intro free; exact ih ((Bool.and_eq_true _ _).mp free).2
  | none s => intro _ i _; exact Nat.le_add_right ..
  | round before last ihBefore ihLast => intro free i here; exact onward before (ihBefore free) (ihLast free) here
  | once found ih => exact ih
  | again before last ihBefore ihLast => intro free i here; exact onward before (ihBefore free) (ihLast free) here

/-- The characters with which a match that uses one can begin. -/
def opening : Pattern → CharSet
  | empty | assertion _ => .empty
  | set m => m
  | seq p q => if p.canBeEmpty then .union p.opening q.opening else p.opening
  | either p q => .union p.opening q.opening
  | star _ p | loop _ p => p.opening

/-- A match that uses no character ends where it begins. -/
theorem Matches.eq_of_used {p : Pattern} {s e : Spot} (found : p.Matches s e) (none : ¬ s.used < e.used) :
    e = s ∧ p.canBeEmpty = true := by
  have least := found.ahead.used_le
  constructor
  · exact found.ahead.eq_of_used (.refl s) (by omega)
  · cases known : p.canBeEmpty with
    | true => rfl
    | false =>
      have pos := (shortest_pos_iff p).mpr known
      omega

theorem Matches.opening {p : Pattern} {s e : Spot} (found : p.Matches s e) :
    s.used < e.used → ∃ c rest, s.rest = c :: rest ∧ p.opening.contains c = true := by
  induction found with
  | empty s | assertion | none s => intro some; exact absurd some (Nat.lt_irrefl _)
  | @set m s c rest here member => intro _; exact ⟨c, rest, here, member⟩
  | @seq p q s m e first second ihFirst ihSecond =>
    intro some
    rw [Pattern.opening]
    by_cases more : s.used < m.used
    · obtain ⟨c, rest, here, member⟩ := ihFirst more
      refine ⟨c, rest, here, ?_⟩
      split
      · simp [CharSet.contains, member]
      · exact member
    · -- The first part has used nothing, so the second begins at the same place.
      obtain ⟨rfl, empty⟩ := first.eq_of_used more
      obtain ⟨c, rest, here, member⟩ := ihSecond some
      rw [if_pos empty]
      exact ⟨c, rest, here, by simp [CharSet.contains, member]⟩
  | preferred found ih | other found ih =>
    intro some
    obtain ⟨c, rest, here, member⟩ := ih some
    exact ⟨c, rest, here, by simp [Pattern.opening, CharSet.contains, member]⟩
  | @round _ p s m e before last ihBefore ihLast | @again _ p s m e before last ihBefore ihLast =>
    intro some
    by_cases more : s.used < m.used
    · exact ihBefore more
    · obtain ⟨rfl, -⟩ := before.eq_of_used more
      exact ihLast some
  | once found ih => exact ih

/-- No match begins with a character that is no opening. -/
theorem matchLength?_of_opening {p : Pattern} (full : p.canBeEmpty = false) {c : Char}
    (other : p.opening.contains c = false) (before : Option Char) (rest : List Char) :
    p.matchLength? before (c :: rest) = none := by
  cases found : p.matchLength? before (c :: rest) with
  | none => rfl
  | some n =>
    have pos := matchLength?_pos full found
    obtain ⟨d, rest', here, member⟩ := (matches_of_matchLength? found).opening (by simpa using pos)
    obtain ⟨rfl, -⟩ := List.cons.inj here
    rw [other] at member
    contradiction

/-- The sets to which the first characters of every match belong, and whether a match has no other characters. -/
def leads : Pattern → List CharSet × Bool
  | empty | assertion _ => ([], true)
  | set m => ([m], true)
  | seq p q => if p.leads.2 then (p.leads.1 ++ q.leads.1, q.leads.2) else p.leads
  | either _ _ | star _ _ => ([], false)
  | loop _ p => (p.leads.1, false)

/-- The text ahead of a place begins with members of some sets. -/
def BeginsWith (ms : List CharSet) (s : Spot) : Prop :=
  ∀ (i : Nat) (m : CharSet), ms[i]? = some m → ∃ c, s.rest[i]? = some c ∧ m.contains c = true

theorem BeginsWith.append {ms ns : List CharSet} {s : Spot} (first : BeginsWith ms s)
    (second : BeginsWith ns (s.advance ms.length)) : BeginsWith (ms ++ ns) s := by
  intro i m listed
  by_cases early : i < ms.length
  · rw [List.getElem?_append_left early] at listed
    exact first i m listed
  · rw [List.getElem?_append_right (by omega)] at listed
    obtain ⟨c, here, member⟩ := second (i - ms.length) m listed
    rw [advance_rest, List.getElem?_drop, Nat.add_sub_cancel' (by omega)] at here
    exact ⟨c, here, member⟩

theorem Matches.leads {p : Pattern} {s e : Spot} (found : p.Matches s e) :
    BeginsWith p.leads.1 s ∧ (p.leads.2 = true → e = s.advance p.leads.1.length) := by
  have nothing (s : Spot) : BeginsWith [] s := by simp [BeginsWith]
  induction found with
  | empty s => exact ⟨nothing s, fun _ => s.advance_zero.symm⟩
  | @set m s c rest here member =>
    refine ⟨?_, fun _ => (advance_one here).symm⟩
    intro i n listed
    simp only [Pattern.leads, List.getElem?_singleton] at listed
    split at listed
    next first => exact ⟨c, by simp [here, first], Option.some.inj listed ▸ member⟩
    · contradiction
  | assertion holds => exact ⟨nothing _, fun _ => (advance_zero _).symm⟩
  | @seq p q s m e first second ihFirst ihSecond =>
    simp only [Pattern.leads]
    by_cases exact : p.leads.2 = true
    · rw [if_pos exact]
      rw [ihFirst.2 exact] at ihSecond
      refine ⟨ihFirst.1.append ihSecond.1, fun whole => ?_⟩
      rw [ihSecond.2 whole, advance_add, List.length_append]
    · rw [if_neg exact]
      exact ⟨ihFirst.1, fun whole => absurd whole exact⟩
  | preferred found ih => exact ⟨nothing _, fun whole => nomatch whole⟩
  | other found ih => exact ⟨nothing _, fun whole => nomatch whole⟩
  | none s => exact ⟨nothing _, fun whole => nomatch whole⟩
  | round before last ihBefore ihLast => exact ⟨nothing _, fun whole => nomatch whole⟩
  | once found ih => exact ⟨ih.1, fun whole => nomatch whole⟩
  | again before last ihBefore ihLast => exact ⟨ihBefore.1, fun whole => nomatch whole⟩

end Pattern

end Highlighter
