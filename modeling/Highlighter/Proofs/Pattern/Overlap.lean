import Highlighter.Proofs.CharSet
import Highlighter.Proofs.Pattern.Search

/-!
Patterns that match at one place. A pattern prevails over another if its match is longer wherever both match.
Most often this can be seen without knowing the text: the two cannot begin in the same way (`separate`), or all
matches of the other have one length that no match of the first is as short as (`outgrows`). It takes an
argument where both begin with a run of characters, which then ends at the same place for both
(`prevails_run_mark`, `prevails_run_mark_more`, `prevails_mark_more`, `prevails_word`).

The characters of matches. A match has no characters but the members of the sets in its pattern
(`avoids_of_matchLength?`, `avoids_of_usesOnly`), and a character that only the first part of the pattern can use stands at
the start of the match (`Matches.used_le_of_avoidsBehind`). Where a match needs no more than its first character, that
character is enough to be sure of it (`matchLength?_of_certain`).
-/

namespace Highlighter

/-! ## Patterns that match at one place -/

namespace Pattern
open Spot

/-- Wherever both patterns match, the match of the first is longer. -/
def Prevails (p q : Pattern) : Prop :=
  ∀ before rest n k, p.matchLength? before rest = some n → q.matchLength? before rest = some k → k < n

theorem prevails_of_matches {p q : Pattern}
    (longer : ∀ {s e f : Spot}, p.Matches s e → q.Matches s f → f.used < e.used) : Prevails p q := by
  intro before rest n k found other
  simpa using longer (matches_of_matchLength? found) (matches_of_matchLength? other)

/-- Whether the characters with which matches of the two patterns begin show that not both can match. -/
def separate (p q : Pattern) : Bool := (p.leads.1.zip q.leads.1).any fun (a, b) => a.apart b

theorem not_matches_of_separate {p q : Pattern} (test : p.separate q = true) {s e f : Spot}
    (found : p.Matches s e) : ¬ q.Matches s f := by
  intro other
  obtain ⟨⟨a, b⟩, listed, apart⟩ := List.any_eq_true.mp test
  obtain ⟨i, here⟩ := List.mem_iff_getElem?.mp listed
  obtain ⟨left, right⟩ := List.getElem?_zip_eq_some.mp here
  obtain ⟨c, stands, member⟩ := found.leads.1 i a left
  obtain ⟨d, stands', member'⟩ := other.leads.1 i b right
  have same : c = d := Option.some.inj (stands.symm.trans stands')
  have missing := CharSet.not_contains_of_apart apart member
  rw [same, member'] at missing
  contradiction

/-- Whether all matches of the second pattern have one length, and every match of the first is longer. -/
def outgrows (p q : Pattern) : Bool := q.leads.2 && decide (q.leads.1.length < p.shortest)

/-- Whether it can be seen without knowing the text that the first pattern prevails. -/
def clearly (p q : Pattern) : Bool := p.separate q || p.outgrows q

theorem prevails_of_clearly {p q : Pattern} (test : p.clearly q = true) : Prevails p q := by
  refine prevails_of_matches fun {s e f} found other => ?_
  rcases (Bool.or_eq_true _ _).mp test with apart | longer
  · exact absurd other (not_matches_of_separate apart found)
  · obtain ⟨exact, short⟩ := (Bool.and_eq_true _ _).mp longer
    have least := found.ahead.used_le
    have fewer := of_decide_eq_true short
    rw [other.leads.2 exact, advance_used]
    omega

/-- The patterns of a list prevail over the later ones if that can be seen or has been proved for each pair. -/
theorem pairwise_prevails {patterns : List Pattern} (proved : List (Pattern × Pattern))
    (known : ∀ x ∈ proved, Prevails x.1 x.2)
    (checked : patterns.Pairwise fun p q => p.clearly q = true ∨ (p, q) ∈ proved) :
    patterns.Pairwise Prevails := by
  refine checked.imp fun {p q} seen => ?_
  rcases seen with clear | listed
  · exact prevails_of_clearly clear
  · exact known (p, q) listed

/-! ### Runs -/

section
variable {m : CharSet} {cs : List Char} {n : Nat} {c : Char}

theorem contains_of_lt_runLength (inside : n < runLength m cs) : ∃ c, cs[n]? = some c ∧ m.contains c = true := by
  have listed := List.getElem_mem inside
  have bound := Nat.lt_of_lt_of_le inside (List.takeWhile_prefix _).length_le
  have same : (cs.takeWhile m.contains)[n] = cs[n] := (List.takeWhile_prefix _).getElem inside
  refine ⟨cs[n], List.getElem?_eq_getElem bound, ?_⟩
  rw [← same]
  exact List.all_eq_true.mp List.all_takeWhile _ listed

theorem not_contains_of_runLength (here : cs[runLength m cs]? = some c) : m.contains c = false := by
  induction cs with
  | nil => simp at here
  | cons d cs ih =>
    rw [runLength, List.takeWhile_cons] at here
    by_cases member : m.contains d
    · rw [if_pos member, List.length_cons, List.getElem?_cons_succ] at here
      exact ih here
    · rw [if_neg member, List.length_nil, List.getElem?_cons_zero] at here
      rw [← Option.some.inj here]
      exact Bool.eq_false_iff.mpr member

/-- A place inside a run whose next character is no member is the end of the run. -/
theorem eq_runLength (inside : n ≤ runLength m cs) (here : cs[n]? = some c) (missing : m.contains c = false) :
    n = runLength m cs := by
  rcases Nat.lt_or_eq_of_le inside with earlier | same
  · obtain ⟨d, stands, member⟩ := contains_of_lt_runLength earlier
    rw [here, Option.some.injEq] at stands
    rw [stands, member] at missing
    contradiction
  · exact same

theorem succ_le_runLength (inside : n ≤ runLength m cs) (here : cs[n]? = some c) (member : m.contains c = true) :
    n + 1 ≤ runLength m cs := by
  rcases Nat.lt_or_eq_of_le inside with earlier | rfl
  · exact earlier
  · rw [not_contains_of_runLength here] at member
    contradiction

end

section
variable {preference : Preference} {m : CharSet} {s e : Spot}

theorem Matches.set_cases (found : Matches (.set m) s e) :
    ∃ c, s.rest[0]? = some c ∧ m.contains c = true ∧ e = s.advance 1 := by
  obtain ⟨begins, whole⟩ := found.leads
  obtain ⟨c, here, member⟩ := begins 0 m rfl
  exact ⟨c, here, member, whole rfl⟩

/-- Any number of members lead to a place in the run. -/
theorem Matches.star_cases (found : Matches (.star preference (.set m)) s e) :
    ∃ n ≤ runLength m s.rest, e = s.advance n := by
  generalize same : Pattern.star preference (.set m) = p at found
  induction found with
  | none s => exact ⟨0, Nat.zero_le _, s.advance_zero.symm⟩
  | round before last ihBefore =>
    obtain ⟨rfl, rfl⟩ := star.inj same
    obtain ⟨n, inside, rfl⟩ := ihBefore rfl
    obtain ⟨c, here, member, rfl⟩ := last.set_cases
    rw [advance_rest, List.getElem?_drop] at here
    exact ⟨n + 1, succ_le_runLength inside here member, advance_add _ n 1⟩
  | _ => contradiction

/-- One member or more lead to a place in the run as well. -/
theorem Matches.oneOrMore_cases (found : Matches (oneOrMore preference (.set m)) s e) :
    ∃ n, 0 < n ∧ n ≤ runLength m s.rest ∧ e = s.advance n := by
  cases found with
  | seq first others =>
    obtain ⟨c, here, member, rfl⟩ := first.set_cases
    obtain ⟨n, inside, rfl⟩ := others.star_cases
    refine ⟨1 + n, by omega, ?_, advance_add s 1 n⟩
    rw [advance_rest] at inside
    cases left : s.rest with
    | nil => rw [left] at here; simp at here
    | cons d rest =>
      rw [left] at here inside
      rw [List.getElem?_cons_zero, Option.some.injEq] at here
      rw [List.drop_one, List.tail_cons] at inside
      rw [runLength, List.takeWhile_cons, here, if_pos member, List.length_cons]
      have same : (rest.takeWhile m.contains).length = runLength m rest := rfl
      omega

/-- A mark behind a run stands at its end. -/
theorem Matches.run_mark {mark : CharSet} (apart : mark.apart m = true)
    (found : Matches (.seq (oneOrMore preference (.set m)) (.set mark)) s e) :
    e = s.advance (runLength m s.rest + 1) := by
  cases found with
  | seq run last =>
    obtain ⟨n, _, inside, rfl⟩ := run.oneOrMore_cases
    obtain ⟨c, here, member, rfl⟩ := last.set_cases
    rw [advance_rest, List.getElem?_drop] at here
    rw [eq_runLength inside here (CharSet.not_contains_of_apart apart member), advance_add]

/-- Some members behind a mark lead to a place in the run behind it. -/
theorem Matches.mark_run {mark : CharSet} (found : Matches (.seq (.set mark) (.star preference (.set m))) s e) :
    ∃ n ≤ runLength m (s.rest.drop 1), e = (s.advance 1).advance n := by
  cases found with
  | seq first run =>
    obtain ⟨c, _, _, rfl⟩ := first.set_cases
    exact run.star_cases

end

section
variable {preference : Preference} {m mark : CharSet}

theorem prevails_run_mark (apart : mark.apart m = true) :
    Prevails (seq (oneOrMore preference (set m)) (set mark)) (oneOrMore preference (set m)) := by
  refine prevails_of_matches fun {s e f} found other => ?_
  obtain ⟨n, _, inside, rfl⟩ := other.oneOrMore_cases
  rw [found.run_mark apart, advance_used, advance_used]
  omega

theorem prevails_run_mark_more {p : Pattern} (apart : mark.apart m = true) :
    Prevails (seq (seq (oneOrMore preference (set m)) (set mark)) p) (oneOrMore preference (set m)) := by
  refine prevails_of_matches fun {s e f} found other => ?_
  cases found with
  | seq first more =>
    obtain ⟨n, _, inside, rfl⟩ := other.oneOrMore_cases
    have least := more.ahead.used_le
    rw [first.run_mark apart, advance_used] at least
    rw [advance_used]
    omega

theorem prevails_mark_more {p : Pattern} (apart : mark.apart m = true) (some : 0 < p.shortest) :
    Prevails (seq (seq (oneOrMore preference (set m)) (set mark)) p)
      (seq (oneOrMore preference (set m)) (set mark)) := by
  refine prevails_of_matches fun {s e f} found other => ?_
  cases found with
  | seq first more =>
    have least := more.ahead.used_le
    rw [first.run_mark apart] at least
    rw [other.run_mark apart]
    omega

/-- Signs after some spaces: where a word stands at the end of the spaces, there are none. -/
theorem no_signs {space word sign : CharSet} {s : Spot} {n k : Nat} {c : Char}
    (spaceSign : sign.apart space = true) (wordSign : word.apart sign = true)
    (here : s.rest[runLength space s.rest]? = some c) (member : word.contains c = true)
    (inside : n ≤ runLength space s.rest) (signs : k ≤ runLength sign (s.rest.drop n)) : k = 0 := by
  rcases Nat.eq_zero_or_pos k with none | some
  · exact none
  · obtain ⟨d, stands, signed⟩ := contains_of_lt_runLength (Nat.lt_of_lt_of_le some signs)
    rw [List.getElem?_drop, Nat.add_zero] at stands
    have ended := eq_runLength inside stands (CharSet.not_contains_of_apart spaceSign signed)
    rw [ended, here, Option.some.injEq] at stands
    have missing := CharSet.not_contains_of_apart wordSign member
    rw [stands, signed] at missing
    contradiction

/-- Behind a mark and some spaces a word is longer than signs. -/
theorem prevails_word {space word sign : CharSet} (wordSpace : word.apart space = true)
    (spaceSign : sign.apart space = true) (wordSign : word.apart sign = true) :
    Prevails (seq (seq (set mark) (star preference (set space))) (oneOrMore preference (set word)))
      (seq (seq (set mark) (star preference (set space))) (star preference (set sign))) := by
  refine prevails_of_matches fun {s e f} found other => ?_
  cases found with
  | seq spaces letters =>
    obtain ⟨n, inside, rfl⟩ := spaces.mark_run
    obtain ⟨c, here, member⟩ := letters.leads.1 0 word rfl
    have least := letters.ahead.used_le
    have full : 1 ≤ (oneOrMore preference (set word)).shortest := Nat.le_refl 1
    rw [advance_rest, List.getElem?_drop, Nat.add_zero] at here
    have ended := eq_runLength inside here (CharSet.not_contains_of_apart wordSpace member)
    cases other with
    | seq spaces' signs =>
      obtain ⟨n', inside', rfl⟩ := spaces'.mark_run
      obtain ⟨k, signed, rfl⟩ := signs.star_cases
      rw [ended] at here
      have none := no_signs (s := s.advance 1) spaceSign wordSign here member inside' signed
      simp only [advance_used] at least ⊢
      omega

end

end Pattern

/-! ## Characters that a pattern uses -/

namespace Pattern
open Spot
variable {α : Type}

/-! ### Characters that a match can use -/

/-- Whether it can be computed that a match has no characters but members of a set. -/
def usesOnly (m : CharSet) : Pattern → Bool
  | empty | assertion _ => true
  | set a => m.includes a
  | seq p q | either p q => p.usesOnly m && q.usesOnly m
  | star _ p | loop _ p => p.usesOnly m

theorem avoids_of_usesOnly {m : CharSet} {c : Char} (other : m.contains c = false) {p : Pattern}
    (test : p.usesOnly m = true) : p.avoids c = true := by
  induction p with
  | empty | assertion a => rfl
  | set a =>
    rw [avoids, Bool.not_eq_true', Bool.eq_false_iff]
    intro member
    rw [CharSet.contains_of_includes test member] at other
    contradiction
  | seq p q ihp ihq | either p q ihp ihq =>
    obtain ⟨first, second⟩ := (Bool.and_eq_true _ _).mp test
    rw [avoids, ihp first, ihq second]
    rfl
  | star preference p ih | loop preference p ih => exact ih test

/-- Whether the character is used by nothing in the pattern but what can begin a match. -/
def avoidsBehind (c : Char) : Pattern → Bool
  | empty | assertion _ | set _ => true
  | seq p q => p.avoidsBehind c && q.avoids c
  | either p q => p.avoidsBehind c && q.avoidsBehind c
  | star _ p | loop _ p => p.avoids c

theorem avoidsBehind_of_avoids {c : Char} {p : Pattern} (avoids : p.avoids c = true) : p.avoidsBehind c = true := by
  induction p with
  | empty | assertion a | set m => rfl
  | seq p q ihp ihq =>
    obtain ⟨first, second⟩ := (Bool.and_eq_true _ _).mp avoids
    rw [avoidsBehind, ihp first, second]
    rfl
  | either p q ihp ihq =>
    obtain ⟨first, second⟩ := (Bool.and_eq_true _ _).mp avoids
    rw [avoidsBehind, ihp first, ihq second]
    rfl
  | star preference p ih | loop preference p ih => exact avoids

/-- A match that has begun does not go on over a character that can only begin one. -/
theorem Matches.used_le_of_avoidsBehind {c : Char} {i : Nat} (inside : 0 < i) {p : Pattern} :
    ∀ {s e : Spot}, p.Matches s e → p.avoidsBehind c = true → s.rest[i]? = some c → e.used ≤ s.used + i := by
  induction p with
  | empty | assertion a =>
    intro s e found _ _
    cases found
    exact Nat.le_add_right ..
  | set m =>
    intro s e found _ _
    cases found
    exact Nat.add_le_add_left inside s.used
  | seq p q ihp ihq =>
    intro s e found free here
    obtain ⟨begins, avoids⟩ := (Bool.and_eq_true _ _).mp free
    cases found with
    | @seq _ _ _ m _ first second =>
      have behind := ihp first begins here
      have last := second.used_le_of_avoids avoids ((first.ahead.getElem?_rest behind).trans here)
      omega
  | either p q ihp ihq =>
    intro s e found free here
    obtain ⟨freeP, freeQ⟩ := (Bool.and_eq_true _ _).mp free
    cases found with
    | preferred found => exact ihp found freeP here
    | other found => exact ihq found freeQ here
  | star preference p _ | loop preference p _ =>
    intro s e found free here
    exact found.used_le_of_avoids free here

section
variable {p : Pattern} {before : Option Char} {u v behind : List Char} {c : Char}
  (found : p.matchLength? before (u ++ c :: v ++ behind) = some (u ++ c :: v).length)
include found

/-- The character behind `u` is one that the pattern uses. -/
theorem avoids_of_matchLength? : p.avoids c = false := by
  rw [Bool.eq_false_iff]
  intro avoids
  have here : (u ++ c :: v ++ behind)[u.length]? = some c := by simp
  have reached := (matches_of_matchLength? found).used_le_of_avoids avoids here
  simp only [advance_used, List.length_append, List.length_cons] at reached
  omega

theorem avoidsBehind_of_matchLength? (inside : u ≠ []) : p.avoidsBehind c = false := by
  rw [Bool.eq_false_iff]
  intro avoids
  have here : (u ++ c :: v ++ behind)[u.length]? = some c := by simp
  have reached := (matches_of_matchLength? found).used_le_of_avoidsBehind (List.length_pos_iff.mpr inside) avoids here
  simp only [advance_used, List.length_append, List.length_cons] at reached
  omega

end

/-! ### Characters that are enough for a match -/

/-- Whether it can be seen that the pattern matches everywhere. -/
def everywhere : Pattern → Bool
  | empty | star .more (set _) => true
  | seq p q => p.everywhere && q.everywhere
  | either p q => p.everywhere || q.everywhere
  | _ => false

theorem search_of_everywhere {p : Pattern} (test : p.everywhere = true) :
    ∀ {k : Spot → Option α}, (∀ e, (k e).isSome = true) → ∀ s, (p.search k s).isSome = true := by
  fun_induction everywhere p with
  | case1 => intro k total s; exact total s
  | case2 m =>
    intro k total s
    obtain ⟨r, found⟩ := Option.isSome_iff_exists.mp (total (s.advance (runLength m s.rest)))
    rw [search_star_greedy found]
    rfl
  | case3 p q ihp ihq =>
    intro k total s
    obtain ⟨first, second⟩ := (Bool.and_eq_true _ _).mp test
    exact ihp first (ihq second total) s
  | case4 p q ihp ihq =>
    intro k total s
    rw [search, Option.isSome_or, Bool.or_eq_true]
    exact ((Bool.or_eq_true _ _).mp test).imp (ihp · total s) (ihq · total s)
  | case5 => contradiction

/-- The characters at which a match is seen to begin, whatever follows them. -/
def certain : Pattern → CharSet
  | set m => m
  | seq p q => if q.everywhere then p.certain else .empty
  | either p q => .union p.certain q.certain
  | _ => .empty

theorem search_of_certain {c : Char} {before : Option Char} {rest : List Char} {n : Nat} {p : Pattern} :
    ∀ {k : Spot → Option α}, p.certain.contains c = true → (∀ e, (k e).isSome = true) →
      (p.search k ⟨before, c :: rest, n⟩).isSome = true := by
  induction p with
  | set m =>
    intro k member total
    have here : m.contains c = true := member
    simp only [search, here, ↓reduceIte]
    exact total _
  | seq p q ihp ihq =>
    intro k member total
    rw [certain] at member
    split at member
    next always => exact ihp member (search_of_everywhere always total)
    next => contradiction
  | either p q ihp ihq =>
    intro k member total
    rw [search, Option.isSome_or, Bool.or_eq_true]
    exact ((Bool.or_eq_true _ _).mp member).imp (ihp · total) (ihq · total)
  | _ => intro k member; contradiction

theorem matchLength?_of_certain {p : Pattern} {c : Char} (member : p.certain.contains c = true) (before : Option Char)
    (rest : List Char) : (p.matchLength? before (c :: rest)).isSome = true := by
  rw [matchLength?_eq_search]
  exact search_of_certain member fun _ => rfl

end Pattern

end Highlighter
