import Highlighter.Proofs.Pattern.Overlap
import Highlighter.Proofs.Pattern.Search

/-!
Patterns of words. A pattern without repetitions whose sets are written character by character spells finitely many
texts (`Pattern.spellings`), and matching tries them one after the other (`search_spelled`). With a word boundary
behind it, such a pattern matches where the characters up to the next that is no word character are one of its texts
(`matchLength?_wholeWord`), and with one before it as well, only behind a character that is no word character
(`matchLength?_boundedWord`).

Literals: an opening, a run of characters of a set behind it, and an ending. Where the ending can be found nowhere but
behind the run, or is found everywhere, the match is the opening with all of the run and the ending behind it
(`matchLength?_opened`). So a literal that has to be closed ends at the first mark behind its opening
(`matchLength?_closed`, `exists_of_closed`), and one that may be left open ends there or where the run does
(`exists_of_closable`).
-/

namespace Highlighter

/-! ## Words and their spellings -/

namespace CharSet

/-- The members of a set that is written as a list of them. -/
def members : CharSet → List Char
  | range low high => if low = high then [low] else []
  | union a b => a.members ++ b.members
  | _ => []

/-- Whether a set is written as a list of its members. -/
def isListed : CharSet → Bool
  | empty => true
  | range low high => low == high
  | union a b => a.isListed && b.isListed
  | _ => false

theorem contains_iff_mem_members {m : CharSet} (listed : m.isListed = true) (c : Char) :
    m.contains c = true ↔ c ∈ m.members := by
  induction m with
  | empty => simp [contains, members]
  | range low high =>
    obtain rfl : low = high := by simpa [isListed] using listed
    have same : (range low low).contains c = (c == low) := contains_single low c
    simp [same, members]
  | union a b iha ihb =>
    obtain ⟨listedA, listedB⟩ := (Bool.and_eq_true _ _).mp listed
    simp [contains, members, iha listedA, ihb listedB]
  | _ => contradiction

end CharSet

namespace Pattern
open Spot
variable {α : Type}

/-- The texts that a pattern spells, the preferred one first. -/
def spellings : Pattern → List (List Char)
  | empty => [[]]
  | set m => m.members.map ([·])
  | seq p q => p.spellings.flatMap fun u => q.spellings.map (u ++ ·)
  | either p q => p.spellings ++ q.spellings
  | _ => []

/-- Whether a pattern has no repetitions and no assertions, and all its sets are written as lists of members. -/
def isSpelled : Pattern → Bool
  | empty => true
  | set m => m.isListed
  | seq p q | either p q => p.isSpelled && q.isSpelled
  | _ => false

/-- What is found behind a word, if the text begins with it. -/
def behind (k : Spot → Option α) (s : Spot) (w : List Char) : Option α :=
  if w <+: s.rest then k (s.advance w.length) else none

theorem behind_append (k : Spot → Option α) (s : Spot) (u v : List Char) :
    behind k s (u ++ v) = behind (behind k · v) s u := by
  unfold behind
  by_cases first : u <+: s.rest
  · obtain ⟨rest, here⟩ := first
    simp [← here, advance_add, List.prefix_append_right_inj]
  · have longer : ¬ u ++ v <+: s.rest := fun whole => first ((List.prefix_append u v).trans whole)
    rw [if_neg longer, if_neg first]

theorem behind_findSome? (k : Spot → Option α) (s : Spot) (u : List Char) (vs : List (List Char)) :
    behind (fun e => vs.findSome? (behind k e)) s u = (vs.map (u ++ ·)).findSome? (behind k s) := by
  have each : behind k s ∘ (u ++ ·) = fun v => behind (behind k · v) s u := funext (behind_append k s u)
  rw [List.findSome?_map, each]
  by_cases first : u <+: s.rest
  · simp only [behind, if_pos first]
    rfl
  · symm
    rw [behind, if_neg first, List.findSome?_eq_none_iff]
    intro v _
    exact if_neg first

theorem search_set_spelled {m : CharSet} (listed : m.isListed = true) (k : Spot → Option α) (s : Spot) :
    (set m).search k s = (m.members.map ([·])).findSome? (behind k s) := by
  rw [search]
  cases here : s.rest with
  | nil =>
    symm
    rw [List.findSome?_eq_none_iff]
    intro w member
    obtain ⟨c, -, rfl⟩ := List.mem_map.mp member
    simp [behind, here]
  | cons c rest =>
    have other : ∀ w ∈ m.members.map ([·]), w = [c] ∨ behind k s w = none := by
      intro w member
      obtain ⟨d, -, rfl⟩ := List.mem_map.mp member
      by_cases same : d = c
      · exact .inl (by rw [same])
      · exact .inr (by simp [behind, here, same])
    simp only
    split
    next member =>
      have mem : [c] ∈ m.members.map ([·]) := by simpa using (CharSet.contains_iff_mem_members listed c).mp member
      rw [findSome?_eq_of_only mem other, behind, here, if_pos (by simp), List.length_singleton, advance_one here]
    next missing =>
      symm
      rw [List.findSome?_eq_none_iff]
      intro w member
      rcases other w member with rfl | none
      · rw [CharSet.contains_iff_mem_members listed] at missing
        simp [missing] at member
      · exact none

/-- A pattern that spells words is a search through them. -/
theorem search_spelled {p : Pattern} (spelled : p.isSpelled = true) :
    ∀ (k : Spot → Option α) (s : Spot), p.search k s = p.spellings.findSome? (behind k s) := by
  induction p with
  | empty =>
    intro k s
    rw [search, spellings, List.findSome?_singleton, behind, if_pos s.rest.nil_prefix, List.length_nil, advance_zero]
  | set m => exact search_set_spelled spelled
  | seq p q ihp ihq =>
    intro k s
    obtain ⟨spelledP, spelledQ⟩ := (Bool.and_eq_true _ _).mp spelled
    have second : q.search k = fun e => q.spellings.findSome? (behind k e) := funext (ihq spelledQ k)
    rw [search, ihp spelledP, spellings, findSome?_flatMap, second]
    exact congrArg (List.findSome? · _) (funext fun u => behind_findSome? k s u _)
  | either p q ihp ihq =>
    intro k s
    obtain ⟨spelledP, spelledQ⟩ := (Bool.and_eq_true _ _).mp spelled
    rw [search, ihp spelledP, ihq spelledQ, spellings, List.findSome?_append]
  | _ => contradiction

/-! ### Words and their boundaries -/

/-- The pattern of some characters, one after the other. -/
def literal : List Char → Pattern
  | [] => empty
  | c :: cs => cs.foldl (fun p d => seq p (char d)) (char c)

/-- The choice of some words, of which earlier ones are preferred. -/
def oneOf : List String → Pattern
  | [] => set .empty
  | [w] => literal w.toList
  | w :: ws => either (literal w.toList) (oneOf ws)

theorem spellings_char (c : Char) : (char c).spellings = [[c]] := by
  simp [char, spellings, CharSet.single, CharSet.members]

theorem spelled_char (c : Char) : (char c).isSpelled = true := by
  simp [char, isSpelled, CharSet.single, CharSet.isListed]

theorem literal_spelled (w : List Char) : (literal w).isSpelled = true ∧ (literal w).spellings = [w] := by
  have general (cs : List Char) : ∀ (p : Pattern) (w : List Char), p.isSpelled = true → p.spellings = [w] →
      (cs.foldl (fun p d => seq p (char d)) p).isSpelled = true ∧
        (cs.foldl (fun p d => seq p (char d)) p).spellings = [w ++ cs] := by
    induction cs with
    | nil => intro p w spelled one; simp [spelled, one]
    | cons c cs ih =>
      intro p w spelled one
      have next := ih (seq p (char c)) (w ++ [c]) (by simp [isSpelled, spelled, spelled_char])
        (by simp [spellings, one, spellings_char])
      simpa using next
  cases w with
  | nil => exact ⟨rfl, rfl⟩
  | cons c cs => exact general cs (char c) [c] (spelled_char c) (spellings_char c)

theorem oneOf_spelled (words : List String) :
    (oneOf words).isSpelled = true ∧ (oneOf words).spellings = words.map String.toList := by
  induction words with
  | nil => exact ⟨rfl, rfl⟩
  | cons w words ih =>
    obtain ⟨spelled, one⟩ := literal_spelled w.toList
    cases words with
    | nil => exact ⟨spelled, one⟩
    | cons v words => simp [oneOf, isSpelled, spellings, spelled, one, ih.1, ih.2]

end Pattern

/-- The characters of a text up to the first that is no word character. -/
def wordRun (rest : List Char) : List Char := rest.takeWhile Unicode.isWord

/-- Whether some characters are a word of word characters. -/
def IsWordy (w : List Char) : Prop := w ≠ [] ∧ ∀ c ∈ w, Unicode.isWord c = true

instance : DecidablePred IsWordy := fun w =>
  decidable_of_iff ((!w.isEmpty && w.all Unicode.isWord) = true) (by simp [IsWordy])

theorem wordRun_append {w : List Char} (wordy : ∀ c ∈ w, Unicode.isWord c = true) (behind : List Char) :
    wordRun (w ++ behind) = w ↔ isWordSide behind.head? = false := by
  rw [wordRun, List.takeWhile_append_of_pos wordy]
  cases behind with
  | nil => simp [isWordSide]
  | cons c cs => cases word : Unicode.isWord c <;> simp [isWordSide, word]

theorem wordRun_prefix (rest : List Char) : wordRun rest <+: rest := List.takeWhile_prefix _

namespace Pattern
open Spot

theorem holds_wordBoundary {w : List Char} (wordy : IsWordy w) (before : Option Char) (behind : List Char) :
    Assertion.wordBoundary.holds (advance ⟨before, w ++ behind, 0⟩ w.length) = !isWordSide behind.head? := by
  obtain ⟨full, word⟩ := wordy
  have last : isWordSide (w.getLast?.or before) = true := by
    rw [List.getLast?_eq_some_getLast full]
    exact word _ (List.getLast_mem full)
  simp [Assertion.holds, advance, last]

/-- A word with a boundary behind it is found where it is all characters up to the next that is no word character. -/
theorem behind_wordBoundary {w : List Char} (wordy : IsWordy w) (before : Option Char) (rest : List Char) :
    behind ((assertion .wordBoundary).search fun e => some e.used) ⟨before, rest, 0⟩ w =
      if wordRun rest = w then some w.length else none := by
  unfold behind
  by_cases first : w <+: rest
  · obtain ⟨more, rfl⟩ := first
    rw [if_pos (List.prefix_append w more), search, holds_wordBoundary wordy]
    cases ended : isWordSide more.head? <;> simp [wordRun_append wordy.2, ended]
  · have other : wordRun rest ≠ w := fun same => first (same ▸ wordRun_prefix rest)
    rw [if_neg first, if_neg other]

/-- Words with a boundary behind them match where the characters up to the next that is no word character are one
    of them. -/
theorem matchLength?_wholeWord {p : Pattern} (spelled : p.isSpelled = true) (wordy : ∀ w ∈ p.spellings, IsWordy w)
    (before : Option Char) (rest : List Char) : (seq p (assertion .wordBoundary)).matchLength? before rest =
      if wordRun rest ∈ p.spellings then some (wordRun rest).length else none := by
  rw [matchLength?_eq_search, search, search_spelled spelled]
  have each (w : List Char) (listed : w ∈ p.spellings) := behind_wordBoundary (wordy w listed) before rest
  by_cases here : wordRun rest ∈ p.spellings
  · rw [if_pos here, findSome?_eq_of_only here, each _ here, if_pos rfl]
    intro w listed
    by_cases same : wordRun rest = w
    · exact .inl same.symm
    · exact .inr ((each w listed).trans (if_neg same))
  · rw [if_neg here, List.findSome?_eq_none_iff]
    intro w listed
    have other : wordRun rest ≠ w := fun same => here (same ▸ listed)
    rw [each w listed, if_neg other]

/-- Words in two parts with a boundary on both sides match where the characters up to the next that is no word
    character are one of them and the character in front is no word character. -/
theorem matchLength?_boundedWord {p q : Pattern} (spelled : (seq p q).isSpelled = true)
    (wordy : ∀ w ∈ (seq p q).spellings, IsWordy w) (before : Option Char) (rest : List Char) :
    (seq (seq (seq (assertion .wordBoundary) p) q) (assertion .wordBoundary)).matchLength? before rest =
      if isWordSide before = false ∧ wordRun rest ∈ (seq p q).spellings then some (wordRun rest).length else none := by
  have split : (seq (seq (seq (assertion .wordBoundary) p) q) (assertion .wordBoundary)).matchLength? before rest =
      if Assertion.wordBoundary.holds ⟨before, rest, 0⟩ then
        (seq (seq p q) (assertion .wordBoundary)).matchLength? before rest else none := by
    rw [matchLength?_eq_search, matchLength?_eq_search]
    rfl
  rw [split, matchLength?_wholeWord spelled wordy]
  by_cases here : wordRun rest ∈ (seq p q).spellings
  · -- The first character is a word character, so the boundary is decided by the one in front.
    have first : isWordSide rest.head? = true := by
      obtain ⟨full, word⟩ := wordy _ here
      obtain ⟨c, cs, run⟩ := List.exists_cons_of_ne_nil full
      obtain ⟨more, same⟩ := wordRun_prefix rest
      rw [← same, run]
      exact word c (by simp [run])
    cases side : isWordSide before <;> simp [Assertion.holds, first, side, here]
  · simp [here]

end Pattern

/-! ## Literals between marks -/

/-- The text goes from an opening to the first mark behind it. -/
def Encloses (opening : List Char) (mark : Char) (text : List Char) : Prop :=
  ∃ body, text = opening ++ (body ++ [mark]) ∧ mark ∉ body

/-- The text goes on behind an opening without a mark. -/
def LeavesOpen (opening : List Char) (mark : Char) (text : List Char) : Prop :=
  ∃ body, text = opening ++ body ∧ mark ∉ body

theorem within_compl_single {mark : Char} {cs : List Char} :
    (∀ c ∈ cs, (CharSet.compl (.single mark)).contains c = true) ↔ mark ∉ cs := by
  simp [CharSet.contains_compl_single, List.forall_mem_ne']

namespace Pattern
open Spot
variable {α : Type}

/-- An opening and characters of a set behind it, as many as possible. -/
def opened (opening : List Char) (m : CharSet) : Pattern := seq (literal opening) (star .more (set m))

theorem search_literal (w : List Char) (k : Spot → Option α) (s : Spot) : (literal w).search k s = behind k s w := by
  obtain ⟨spelled, one⟩ := literal_spelled w
  rw [search_spelled spelled, one, List.findSome?_singleton]

/-- The pattern is looked for at the end of a run only. -/
def EndsRun (m : CharSet) (q : Pattern) : Prop :=
  ∀ s, (star .more (set m)).search (q.search fun e => some e.used) s =
    q.search (fun e => some e.used) (s.advance (runLength m s.rest))

theorem endsRun_of_everywhere {q : Pattern} (everywhere : q.everywhere = true) (m : CharSet) : EndsRun m q := by
  intro s
  obtain ⟨n, found⟩ := Option.isSome_iff_exists.mp
    (search_of_everywhere everywhere (k := fun e => some e.used) (fun _ => rfl) (s.advance (runLength m s.rest)))
  rw [search_star_greedy found, found]

theorem endsRun_mark {m : CharSet} {mark : Char} (outside : m.contains mark = false) : EndsRun m (char mark) := by
  refine search_star_of_stuck .more ?_
  rintro e ⟨c, rest, here, member⟩
  have other : c ≠ mark := by
    rintro rfl
    rw [outside] at member
    contradiction
  simp [search_char, here, other]

section
variable {m : CharSet} {q : Pattern} {w run after text tail : List Char} {before : Option Char} {mark : Char} {n : Nat}

theorem advance_append (before : Option Char) (u after : List Char) :
    advance ⟨before, u ++ after, 0⟩ u.length = ⟨u.getLast?.or before, after, u.length⟩ := by
  simp [advance]

theorem matchLength?_opened (ends : EndsRun m q) (before : Option Char) (within : ∀ c ∈ run, m.contains c = true)
    (ended : ∀ c ∈ after.head?, m.contains c = false) :
    (seq (opened w m) q).matchLength? before (w ++ (run ++ after)) =
      q.search (fun e => some e.used) ⟨(w ++ run).getLast?.or before, after, w.length + run.length⟩ := by
  rw [matchLength?_eq_search, search, opened, search, search_literal, behind, if_pos (List.prefix_append ..), ends,
    advance_rest, List.drop_left, runLength_append within ended, advance_add, ← List.append_assoc, ← List.length_append,
    advance_append]

/-- A match is an opening with all of the run behind it, and the ending. -/
theorem exists_of_opened (ends : EndsRun m q) {cs : List Char}
    (found : (seq (opened w m) q).matchLength? before cs = some n) :
    ∃ run after last, cs = w ++ (run ++ after) ∧ (∀ c ∈ run, m.contains c = true) ∧
      (∀ c ∈ after.head?, m.contains c = false) ∧
      q.search (fun e => some e.used) ⟨last, after, w.length + run.length⟩ = some n := by
  have opens : w <+: cs := by
    rw [matchLength?_eq_search, search, opened, search, search_literal, behind] at found
    split at found
    next opens => exact opens
    next => contradiction
  obtain ⟨rest, rfl⟩ := opens
  obtain ⟨run, after, rfl, within, ended⟩ := exists_run m rest
  rw [matchLength?_opened ends before within ended] at found
  exact ⟨run, after, _, rfl, within, ended, found⟩

/-- What stands at the start of a text and is as long as an opening and a run is these two. -/
theorem eq_of_length (same : text ++ tail = w ++ (run ++ after)) (length : text.length = w.length + run.length) :
    text = w ++ run ∧ tail = after := by
  rw [← List.append_assoc] at same
  exact List.append_inj same (by rw [length, List.length_append])

/-- What stands at the start of a text and is longer by one than an opening and a run has the mark behind them. -/
theorem eq_of_length_succ (same : text ++ tail = w ++ (run ++ after)) (closed : after.head? = some mark)
    (length : w.length + run.length + 1 = text.length) : text = w ++ (run ++ [mark]) := by
  obtain ⟨rest, rfl⟩ := List.head?_eq_some_iff.mp closed
  have split : text ++ tail = w ++ (run ++ [mark] ++ rest) := by simpa using same
  refine (eq_of_length split ?_).1
  rw [← length, List.length_append, List.length_singleton, Nat.add_assoc]

/-- A literal that has to be closed matches up to the first mark behind its opening. -/
theorem matchLength?_closed (outside : m.contains mark = false) (before : Option Char)
    (within : ∀ c ∈ run, m.contains c = true) (after : List Char) :
    (seq (opened w m) (char mark)).matchLength? before (w ++ (run ++ mark :: after)) =
      some (w.length + run.length + 1) := by
  have ended : ∀ c ∈ (mark :: after).head?, m.contains c = false := by simpa using outside
  rw [matchLength?_opened (endsRun_mark outside) before within ended, search_char, List.head?_cons, if_pos rfl]

theorem exists_of_closed (outside : m.contains mark = false)
    (found : (seq (opened w m) (char mark)).matchLength? before (text ++ tail) = some text.length) :
    ∃ body, text = w ++ (body ++ [mark]) ∧ ∀ c ∈ body, m.contains c = true := by
  obtain ⟨body, after, last, same, within, -, ending⟩ := exists_of_opened (endsRun_mark outside) found
  rw [search_char] at ending
  split at ending
  next closed => exact ⟨body, eq_of_length_succ same closed (Option.some.inj ending), within⟩
  next => contradiction

/-- A literal that may be left open ends with the mark behind the run, or with the run if no mark stands there. -/
theorem exists_of_closable
    (found : (seq (opened w m) (optional .more (char mark))).matchLength? before (text ++ tail) = some text.length) :
    ∃ body, (∀ c ∈ body, m.contains c = true) ∧
      (text = w ++ (body ++ [mark]) ∨ text = w ++ body ∧ ∀ c ∈ tail.head?, m.contains c = false ∧ c ≠ mark) := by
  obtain ⟨body, after, last, same, within, ended, ending⟩ := exists_of_opened (endsRun_of_everywhere rfl m) found
  refine ⟨body, within, ?_⟩
  rw [optional, search, search, search_char] at ending
  split at ending
  next closed => exact .inl (eq_of_length_succ same closed (Option.some.inj ending))
  next missing =>
    obtain ⟨rfl, rfl⟩ := eq_of_length same (Option.some.inj ending).symm
    refine .inr ⟨rfl, fun c first => ⟨ended c first, ?_⟩⟩
    rintro rfl
    exact missing first

/-- A literal without a mark ends where the run does. -/
theorem exists_of_run (found : (opened w m).matchLength? before (text ++ tail) = some text.length) :
    ∃ body, text = w ++ body ∧ (∀ c ∈ body, m.contains c = true) ∧ ∀ c ∈ tail.head?, m.contains c = false := by
  have trailing : (seq (opened w m) empty).matchLength? before (text ++ tail) = some text.length := by
    rw [matchLength?_eq_search] at found ⊢
    exact found
  obtain ⟨body, after, last, same, within, ended, ending⟩ := exists_of_opened (endsRun_of_everywhere rfl m) trailing
  obtain ⟨rfl, rfl⟩ := eq_of_length same (Option.some.inj ending).symm
  exact ⟨body, rfl, within, ended⟩

end

end Pattern

end Highlighter
