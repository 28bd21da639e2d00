import Highlighter.Proofs.Pattern.Search

/-!
What a match depends on besides the characters that it uses. The text before a match is seen by assertions
only, so two characters in front of it that no assertion of the pattern tells apart give the same match
(`matchLength?_congr`). A pattern without assertions that repeats nothing but single characters does not look
behind the end of its match either: where the text is cut off there, the match stays the same
(`matchLength?_take`), and cutting off a text never makes such a pattern match (`matchLength?_take_of_none`).
-/

namespace Highlighter

namespace Pattern
open Spot
variable {α : Type}

/-- The assertions that the pattern makes. -/
def assertions : Pattern → List Assertion
  | empty | set _ => []
  | assertion a => [a]
  | seq p q | either p q => p.assertions ++ q.assertions
  | star _ p | loop _ p => p.assertions

/-- Whether the pattern repeats nothing but single characters. -/
def flat : Pattern → Bool
  | empty | set _ | assertion _ => true
  | seq p q | either p q => p.flat && q.flat
  | star _ (set _) => true
  | star _ _ | loop _ _ => false

theorem eq_set_of_flat {preference : Preference} {p : Pattern} (flat : (star preference p).flat = true) :
    ∃ m, p = set m := by
  cases p with
  | set m => exact ⟨m, rfl⟩
  | _ => contradiction

/-! ### Repetition of a set, one round at a time -/

theorem runOver_append (member : Char → Bool) (rest : List Char) :
    ∀ (before : Option Char) (used : Nat) (nearer : List Spot),
      runOver member nearer before rest used = runOver member [] before rest used ++ nearer := by
  induction rest with
  | nil => intro before used nearer; rfl
  | cons c rest ih =>
    intro before used nearer
    unfold runOver
    by_cases here : member c
    · rw [if_pos here, if_pos here, ih, ih (some c) (used + 1) [_], List.append_assoc]
      rfl
    · rw [if_neg here, if_neg here]
      rfl

theorem search_set_of_nil {m : CharSet} {k : Spot → Option α} {s : Spot} (ended : s.rest = []) :
    (set m).search k s = none := by
  rw [search, ended]

theorem search_set_of_cons {m : CharSet} {k : Spot → Option α} {s : Spot} {c : Char} {rest : List Char}
    (here : s.rest = c :: rest) :
    (set m).search k s = if m.contains c then k ⟨some c, rest, s.used + 1⟩ else none := by
  rw [search, here]

/-- What a repetition of a set finds after one more round. -/
def searchFurther (preference : Preference) (m : CharSet) (k : Spot → Option α) (s : Spot) : Option α :=
  (set m).search ((star preference (set m)).search k) s

/-- A repetition of a set either goes on with one more round or ends, whichever is preferred. -/
theorem search_star (preference : Preference) (m : CharSet) (k : Spot → Option α) (s : Spot) :
    (star preference (set m)).search k s =
      match preference with
      | .more => (searchFurther .more m k s).or (k s)
      | .fewer => (k s).or (searchFurther .fewer m k s) := by
  obtain ⟨before, rest, used⟩ := s
  unfold searchFurther
  cases rest with
  | nil => cases preference <;> simp [search, ends, runOver]
  | cons c rest =>
    by_cases member : m.contains c
    · have rounds := runOver_append m.contains rest (some c) (used + 1) [⟨before, c :: rest, used⟩]
      cases preference with
      | more => simp only [search, ends, runOver, if_pos member, rounds, List.findSome?_append,
          List.findSome?_singleton]
      | fewer => simp only [search, ends, runOver, if_pos member, rounds, List.reverse_append,
          List.findSome?_append, List.reverse_singleton, List.findSome?_singleton]
    · cases preference <;> simp [search, ends, runOver, member]

/-! ### The character in front -/

/-- What is found at a place does not depend on which of two related characters stands in front of it. -/
def Respects (alike : Option Char → Option Char → Prop) {β : Type} (f : Spot → β) : Prop :=
  ∀ before before' rest used, alike before before' → f ⟨before, rest, used⟩ = f ⟨before', rest, used⟩

section
variable {alike : Option Char → Option Char → Prop}

theorem respects_set (m : CharSet) (k : Spot → Option α) : Respects alike ((set m).search k) := by
  intro before before' rest used _
  rfl

/-- A search does not tell characters apart that no assertion of its pattern tells apart. -/
theorem respects_search {p : Pattern} (flat : p.flat = true) (blind : ∀ a ∈ p.assertions, Respects alike a.holds) :
    ∀ {k : Spot → Option α}, Respects alike k → Respects alike (p.search k) := by
  induction p with
  | empty => intro k respected; exact respected
  | set m => intro k respected; exact respects_set m k
  | assertion a =>
    intro k respected before before' rest used same
    have holds := blind a (List.mem_singleton_self a) before before' rest used same
    rw [search, search, holds, respected before before' rest used same]
  | seq p q ihp ihq =>
    intro k respected
    obtain ⟨flatP, flatQ⟩ := (Bool.and_eq_true _ _).mp flat
    obtain ⟨blindP, blindQ⟩ := List.forall_mem_append.mp blind
    exact ihp flatP blindP (ihq flatQ blindQ respected)
  | either p q ihp ihq =>
    intro k respected before before' rest used same
    obtain ⟨flatP, flatQ⟩ := (Bool.and_eq_true _ _).mp flat
    obtain ⟨blindP, blindQ⟩ := List.forall_mem_append.mp blind
    rw [search, search, ihp flatP blindP respected before before' rest used same,
      ihq flatQ blindQ respected before before' rest used same]
  | star preference p ih =>
    intro k respected before before' rest used same
    obtain ⟨m, rfl⟩ := eq_set_of_flat flat
    have further : searchFurther preference m k ⟨before, rest, used⟩ =
        searchFurther preference m k ⟨before', rest, used⟩ := respects_set m _ before before' rest used same
    have here := respected before before' rest used same
    rw [search_star, search_star]
    cases preference with
    | more => rw [further, here]
    | fewer => rw [further, here]
  | loop => contradiction

theorem matchLength?_congr {p : Pattern} (flat : p.flat = true)
    (blind : ∀ a ∈ p.assertions, Respects alike a.holds) {before before' : Option Char} (same : alike before before')
    (rest : List Char) : p.matchLength? before rest = p.matchLength? before' rest := by
  have used : Respects alike fun e : Spot => some e.used := fun _ _ _ _ _ => rfl
  rw [matchLength?_eq_search, matchLength?_eq_search]
  exact respects_search flat blind used before before' rest 0 same

end

theorem respects_wordBoundary :
    Respects (fun before before' => isWordSide before = isWordSide before') Assertion.wordBoundary.holds := by
  intro before before' rest used same
  simp only [Assertion.holds, same]

end Pattern

/-! ### The end of the text -/

namespace Spot

/-- The place in the text that ends where `limit` characters have been used. -/
def within (limit : Nat) (s : Spot) : Spot := { s with rest := s.rest.take (limit - s.used) }

end Spot

namespace Pattern
open Spot
variable {α : Type}

/-- What is tried at a place of the whole text instead of that of the text that ends at `limit`. -/
def clipped (limit : Nat) (k : Spot → Option α) (e : Spot) : Option α :=
  if e.used ≤ limit then k (e.within limit) else none

theorem search_eq_none {p : Pattern} {k : Spot → Option α} {s : Spot} (nothing : ∀ e, Ahead 0 s e → k e = none) :
    p.search k s = none := by
  rw [← findSome?_ends, List.findSome?_eq_none_iff]
  intro e listed
  exact nothing e (ahead_of_mem_ends listed)

theorem search_clipped_of_lt {p : Pattern} {k : Spot → Option α} {limit : Nat} {s : Spot} (behind : limit < s.used) :
    p.search (clipped limit k) s = none := by
  refine search_eq_none fun e ahead => ?_
  have least := ahead.used_le
  rw [clipped, if_neg (by omega)]

theorem search_set_within (m : CharSet) {limit : Nat} (k : Spot → Option α) {s : Spot} (inside : s.used ≤ limit) :
    (set m).search k (s.within limit) = (set m).search (clipped limit k) s := by
  cases here : s.rest with
  | nil =>
    have cut : (s.within limit).rest = [] := by simp [within, here]
    rw [search_set_of_nil cut, search_set_of_nil here]
  | cons c rest =>
    rw [search_set_of_cons here]
    by_cases last : s.used = limit
    · have cut : (s.within limit).rest = [] := by simp [within, last]
      have behind : clipped limit k ⟨some c, rest, s.used + 1⟩ = none := if_neg (by simp only; omega)
      rw [search_set_of_nil cut, behind, ite_self]
    · have more : limit - s.used = (limit - (s.used + 1)) + 1 := by omega
      have cut : (s.within limit).rest = c :: rest.take (limit - (s.used + 1)) := by simp [within, here, more]
      have next : clipped limit k ⟨some c, rest, s.used + 1⟩ = k (within limit ⟨some c, rest, s.used + 1⟩) :=
        if_pos (by simp only; omega)
      rw [search_set_of_cons cut, next]
      rfl

theorem search_star_within (preference : Preference) (m : CharSet) {limit : Nat} (k : Spot → Option α)
    (rest : List Char) : ∀ (before : Option Char) (used : Nat), used ≤ limit →
      (star preference (set m)).search k (within limit ⟨before, rest, used⟩) =
        (star preference (set m)).search (clipped limit k) ⟨before, rest, used⟩ := by
  -- Both texts try the same rounds, so only what further rounds find has to be compared.
  have rounds (s : Spot) (inside : s.used ≤ limit)
      (further : searchFurther preference m k (s.within limit) = searchFurther preference m (clipped limit k) s) :
      (star preference (set m)).search k (s.within limit) = (star preference (set m)).search (clipped limit k) s := by
    have here : clipped limit k s = k (s.within limit) := if_pos inside
    rw [search_star, search_star]
    cases preference with
    | more => rw [further, here]
    | fewer => rw [further, here]
  induction rest with
  | nil =>
    intro before used inside
    refine rounds _ inside ?_
    rw [searchFurther, searchFurther, search_set_of_nil List.take_nil, search_set_of_nil rfl]
  | cons c rest ih =>
    intro before used inside
    refine rounds _ inside ?_
    have next : clipped limit ((star preference (set m)).search k) ⟨some c, rest, used + 1⟩ =
        (star preference (set m)).search (clipped limit k) ⟨some c, rest, used + 1⟩ := by
      by_cases more : used + 1 ≤ limit
      · rw [← ih (some c) (used + 1) more]
        exact if_pos more
      · rw [search_clipped_of_lt (Nat.lt_of_not_le more)]
        exact if_neg more
    rw [searchFurther, searchFurther, search_set_within m _ inside, search_set_of_cons rfl, search_set_of_cons rfl,
      next]

/-- In a text that is cut off a pattern without assertions finds what it finds in the whole text up to there. -/
theorem search_within {p : Pattern} (flat : p.flat = true) (free : p.assertions = []) {limit : Nat} :
    ∀ (k : Spot → Option α) {s : Spot}, s.used ≤ limit →
      p.search k (s.within limit) = p.search (clipped limit k) s := by
  induction p with
  | empty =>
    intro k s inside
    rw [search, search, clipped, if_pos inside]
  | set m => intro k s inside; exact search_set_within m k inside
  | assertion => contradiction
  | seq p q ihp ihq =>
    intro k s inside
    obtain ⟨flatP, flatQ⟩ := (Bool.and_eq_true _ _).mp flat
    obtain ⟨freeP, freeQ⟩ := List.append_eq_nil_iff.mp free
    -- A place behind the limit is lost to the second pattern, too, as it only goes on from there.
    have onward : clipped limit (q.search k) = q.search (clipped limit k) := by
      funext e
      by_cases inside : e.used ≤ limit
      · rw [clipped, if_pos inside, ihq flatQ freeQ k inside]
      · rw [clipped, if_neg inside, search_clipped_of_lt (by omega)]
    rw [search, search, ihp flatP freeP (q.search k) inside, onward]
  | either p q ihp ihq =>
    intro k s inside
    obtain ⟨flatP, flatQ⟩ := (Bool.and_eq_true _ _).mp flat
    obtain ⟨freeP, freeQ⟩ := List.append_eq_nil_iff.mp free
    rw [search, search, ihp flatP freeP k inside, ihq flatQ freeQ k inside]
  | star preference p ih =>
    intro k s inside
    obtain ⟨m, rfl⟩ := eq_set_of_flat flat
    exact search_star_within preference m k s.rest s.before s.used inside
  | loop => contradiction

/-- Whether a match of the pattern looks at nothing but the characters that it uses. -/
def selfContained (p : Pattern) : Bool := p.flat && p.assertions.isEmpty

section
variable {p : Pattern} {before : Option Char} {rest : List Char} {n : Nat}

theorem matchLength?_take_eq (own : p.selfContained = true) (before : Option Char) (rest : List Char) (n : Nat) :
    p.matchLength? before (rest.take n) =
      (p.ends ⟨before, rest, 0⟩).findSome? (clipped n fun e => some e.used) := by
  obtain ⟨flat, free⟩ := (Bool.and_eq_true _ _).mp own
  have cut : (⟨before, rest.take n, 0⟩ : Spot) = within n ⟨before, rest, 0⟩ := rfl
  rw [matchLength?_eq_search, cut, search_within flat (List.isEmpty_iff.mp free) _ (Nat.zero_le n), findSome?_ends]

theorem matchLength?_eq_findSome? (p : Pattern) (before : Option Char) (rest : List Char) :
    p.matchLength? before rest = (p.ends ⟨before, rest, 0⟩).findSome? fun e => some e.used := by
  rw [matchLength?_eq_search, findSome?_ends]

/-- Cutting off the text behind a match leaves the match as it is. -/
theorem matchLength?_take (own : p.selfContained = true) (found : p.matchLength? before rest = some n) :
    p.matchLength? before (rest.take n) = some n := by
  rw [matchLength?_eq_findSome?] at found
  rw [matchLength?_take_eq own]
  cases listed : p.ends ⟨before, rest, 0⟩ with
  | nil => rw [listed] at found; contradiction
  | cons e others =>
    rw [listed, List.findSome?_cons] at found
    have length : e.used = n := Option.some.inj found
    have here : clipped n (fun e => some e.used) e = some n := by
      rw [clipped, if_pos (Nat.le_of_eq length)]
      exact congrArg some length
    rw [List.findSome?_cons, here]

theorem matchLength?_take_of_none (own : p.selfContained = true) (missing : p.matchLength? before rest = none)
    (n : Nat) : p.matchLength? before (rest.take n) = none := by
  rw [matchLength?_eq_findSome?, List.findSome?_eq_none_iff] at missing
  rw [matchLength?_take_eq own, List.findSome?_eq_none_iff]
  intro e listed
  exact absurd (missing e listed) (Option.some_ne_none _)

/-- Text that no match reaches does not change the match in front of it. -/
theorem matchLength?_append (own : p.selfContained = true) {more : List Char}
    (reach : ∀ e, p.Matches ⟨before, rest ++ more, 0⟩ e → e.used ≤ rest.length) :
    p.matchLength? before (rest ++ more) = p.matchLength? before rest := by
  have cut := matchLength?_take_eq own before (rest ++ more) rest.length
  rw [List.take_left] at cut
  rw [cut, matchLength?_eq_findSome?]
  cases listed : p.ends ⟨before, rest ++ more, 0⟩ with
  | nil => rfl
  | cons e others =>
    have inside := reach e (matches_of_mem_ends p _ e (listed ▸ List.mem_cons_self))
    rw [List.findSome?_cons, List.findSome?_cons, clipped, if_pos inside]
    rfl

end

end Pattern

end Highlighter
