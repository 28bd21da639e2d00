import Highlighter.Proofs.Language.Words
import Highlighter.Proofs.Pattern.Surroundings

/-!
The entries of a listing, found by searching its text. `entry` is the pattern of an entry; a search for it goes on one
character later where it does not match, and behind the match where it does (`entriesFrom`). At the start of a line it
finds the line's entry and takes all of the line with it (`entryAt?_line`), and nowhere else does it match
(`entryAt?_inside`), so what the search finds are the entries of the lines, each once (`entriesFrom_eq_filterMap`).

Two listings written one below the other. The lines of both are those of the first and then those of the second
(`lines_joined`), so no entry goes over from one to the other, and a name that the first listing has keeps its role.
-/

namespace Highlighter

/-! ## Entries -/

namespace Role
variable {rest : List Char}

theorem ofRest_eq_constant : ofRest rest = .constant ↔ '#' ∈ rest := by
  unfold ofRest
  split_ifs <;> simp_all

theorem ofRest_eq_deprecated : ofRest rest = .deprecated ↔ '#' ∉ rest ∧ '&' ∈ rest := by
  unfold ofRest
  split_ifs <;> simp_all

theorem ofRest_eq_builtin : ofRest rest = .builtin ↔ '#' ∉ rest ∧ '&' ∉ rest := by
  unfold ofRest
  split_ifs <;> simp_all

end Role

namespace Listing
open Pattern Spot
open Gml (contains_wordChars)
open Lexer (getLast?_cons_or)

/-- Every character that does not end a line. -/
def lineChars : CharSet := .compl (.single '\n')

/-- A name at the start of a line. -/
def named : Pattern := .seq (.assertion .lineStart) (oneOrMore .more (.set wordChars))

/-- The rest of a line. -/
def remaining : Pattern := .seq (.star .more (.set lineChars)) (.assertion .lineEnd)

/-- A line with a name at its start. -/
def entry : Pattern := .seq (.seq named (.star .more (.set lineChars))) (.assertion .lineEnd)

theorem parse_entry : Pattern.parse? "(?m)^([A-Za-z0-9_]+)(.*)$" = some entry := rfl

/-- How many characters the name has, and how many the entry, of the entry that is found at a place. -/
def entryAt? (before : Option Char) (rest : List Char) : Option (Nat × Nat) :=
  named.search (fun m => remaining.search (fun e => some (m.used, e.used)) m) ⟨before, rest, 0⟩

/-- The names of the entries in a text and what follows them. The first `skip` characters are passed over. -/
def entriesFrom : (skip : Nat) → (before : Option Char) → List Char → List (String × List Char)
  | _, _, [] => []
  | skip + 1, _, c :: cs => entriesFrom skip (some c) cs
  | 0, before, c :: cs =>
    match entryAt? before (c :: cs) with
    | none => entriesFrom 0 (some c) cs
    | some (name, whole) =>
      (String.ofList ((c :: cs).take name), ((c :: cs).take whole).drop name) :: entriesFrom (whole - 1) (some c) cs

def entries (text : String) : List (String × List Char) := entriesFrom 0 none text.toList

/-- The name at the start of a line, and what follows it. -/
def entryOf? (line : List Char) : Option (String × List Char) :=
  if line.takeWhile isNameChar = [] then none
  else some (String.ofList (line.takeWhile isNameChar), line.dropWhile isNameChar)

/-- A line that begins here with a name, between the text in front and other lines. -/
structure Listed (before : Option Char) (name rest behind : List Char) : Prop where
  start : ∀ c ∈ before, c = '\n'
  full : name ≠ []
  spelled : ∀ c ∈ name, isNameChar c = true
  other : ∀ c ∈ rest.head?, isNameChar c = false
  single : '\n' ∉ rest
  ended : ∀ c ∈ behind.head?, c = '\n'

/-! ### Matches of the pattern -/

theorem entryAt?_matchLength? (before : Option Char) (rest : List Char) :
    entry.matchLength? before rest = (entryAt? before rest).map Prod.snd := by
  rw [entryAt?, map_search, matchLength?_eq_search]
  simp only [map_search]
  rfl

theorem contains_lineChars {c : Char} : lineChars.contains c = true ↔ c ≠ '\n' := by
  change (!(CharSet.single '\n').contains c) = true ↔ _
  simp [CharSet.contains_single]

theorem entryAt?_inside {c : Char} (inside : c ≠ '\n') (rest : List Char) : entryAt? (some c) rest = none := by
  simp [entryAt?, named, search, Assertion.holds, inside]

theorem entryAt?_unnamed (before : Option Char) {rest : List Char}
    (unnamed : ∀ c ∈ rest.head?, isNameChar c = false) : entryAt? before rest = none := by
  cases rest with
  | nil => simp [entryAt?, named, oneOrMore, search]
  | cons c cs => simp [entryAt?, named, oneOrMore, search, contains_wordChars, unnamed c rfl]

section
variable {α : Type} {k : Spot → Option α} {r : α} {s : Spot} {before : Option Char} {name rest behind : List Char}

/-- A name at the start of a line goes on to the end of its run. -/
theorem search_named (start : ∀ c ∈ s.before, c = '\n') (here : s.rest = name ++ rest) (full : name ≠ [])
    (spelled : ∀ c ∈ name, isNameChar c = true) (other : ∀ c ∈ rest.head?, isNameChar c = false)
    (found : k (s.advance name.length) = some r) : named.search k s = some r := by
  obtain ⟨c, cs, rfl⟩ := List.exists_cons_of_ne_nil full
  obtain ⟨first, others⟩ := List.forall_mem_cons.mp spelled
  have begins : Assertion.lineStart.holds s = true := by
    rw [Assertion.holds]
    cases front : s.before with
    | none => rfl
    | some c => rw [start c front]; rfl
  have run : runLength wordChars (cs ++ rest) = cs.length := by
    refine runLength_append (fun d member => ?_) fun d next => ?_
    · rw [contains_wordChars, others d member]
    · rw [contains_wordChars, other d next]
  rw [List.cons_append] at here
  rw [named, search, search, if_pos begins, oneOrMore, search, search_set_of_cons here, contains_wordChars,
    if_pos first, ← advance_one here]
  refine search_star_greedy ?_
  rw [advance_rest, here, List.drop_one, List.tail_cons, run, advance_add, Nat.add_comm]
  exact found

/-- The rest of a line goes on to the end of the line. -/
theorem search_remaining (here : s.rest = rest ++ behind) (single : '\n' ∉ rest) (ended : ∀ c ∈ behind.head?, c = '\n')
    (found : k (s.advance rest.length) = some r) : remaining.search k s = some r := by
  have run : runLength lineChars (rest ++ behind) = rest.length := by
    refine runLength_append (fun d member => ?_) fun d next => ?_
    · exact contains_lineChars.mpr fun feed => single (feed ▸ member)
    · rw [ended d next]
      rfl
  have closes : Assertion.lineEnd.holds (s.advance rest.length) = true := by
    rw [Assertion.holds, advance_rest, here, List.drop_left]
    cases behind with
    | nil => rfl
    | cons c cs => simp [ended c rfl]
  refine search_star_greedy ?_
  rw [here, run, search, if_pos closes, found]

/-- At the start of a line all of the line is taken, whatever lines follow. -/
theorem entryAt?_line (line : Listed before name rest behind) :
    entryAt? before (name ++ (rest ++ behind)) = some (name.length, name.length + rest.length) := by
  have stop : ∀ c ∈ (rest ++ behind).head?, isNameChar c = false := by
    intro c next
    rcases Option.or_eq_some_iff.mp (List.head?_append ▸ next) with own | ⟨_, feed⟩
    · exact line.other c own
    · rw [line.ended c feed]
      decide
  refine search_named line.start rfl line.full line.spelled stop ?_
  refine search_remaining ?_ line.single line.ended ?_
  · rw [advance_rest, List.drop_left]
  · simp

/-! ### The search -/

theorem entriesFrom_skip (front more : List Char) : ∀ before : Option Char,
    entriesFrom front.length before (front ++ more) = entriesFrom 0 (front.getLast?.or before) more := by
  induction front with
  | nil => intro before; rfl
  | cons c front ih =>
    intro before
    rw [List.length_cons, List.cons_append, entriesFrom, ih, getLast?_cons_or]

/-- Inside of a line nothing is found. -/
theorem entriesFrom_inside {front : List Char} (single : '\n' ∉ front) (more : List Char) :
    ∀ {c : Char}, c ≠ '\n' →
      entriesFrom 0 (some c) (front ++ more) = entriesFrom 0 (front.getLast?.or (some c)) more := by
  induction front with
  | nil => intro c _; rfl
  | cons d front ih =>
    intro c inside
    obtain ⟨first, others⟩ := not_or.mp (List.mem_cons.not.mp single)
    rw [List.cons_append, entriesFrom, entryAt?_inside inside, getLast?_cons_or]
    exact ih others (Ne.symm first)

theorem entriesFrom_named (line : Listed before name rest behind) :
    entriesFrom 0 before (name ++ rest ++ behind) =
      (String.ofList name, rest) :: entriesFrom 0 ((name ++ rest).getLast?.or before) behind := by
  have found := entryAt?_line line
  have whole : (name ++ (rest ++ behind)).take (name.length + rest.length) = name ++ rest := by
    rw [← List.append_assoc, ← List.length_append, List.take_left]
  have first : (name ++ (rest ++ behind)).take name.length = name := List.take_left
  have length : name.length + rest.length - 1 = (name ++ rest).tail.length := by simp
  rw [List.append_assoc]
  obtain ⟨c, cs, rfl⟩ := List.exists_cons_of_ne_nil line.full
  rw [List.cons_append] at found whole first ⊢
  rw [entriesFrom, found]
  simp only
  rw [first, whole, List.drop_left, length, List.cons_append, List.tail_cons, getLast?_cons_or, ← List.append_assoc]
  exact congrArg _ (entriesFrom_skip (cs ++ rest) behind (some c))

theorem entriesFrom_line {line : List Char} (start : ∀ c ∈ before, c = '\n') (single : '\n' ∉ line)
    (ended : ∀ c ∈ behind.head?, c = '\n') :
    entriesFrom 0 before (line ++ behind) =
      (entryOf? line).toList ++ entriesFrom 0 (line.getLast?.or before) behind := by
  have split : line.takeWhile isNameChar ++ line.dropWhile isNameChar = line := List.takeWhile_append_dropWhile
  by_cases unnamed : line.takeWhile isNameChar = []
  · have none : entryOf? line = none := if_pos unnamed
    rw [none]
    cases line with
    | nil => rfl
    | cons c cs =>
      obtain ⟨first, others⟩ := not_or.mp (List.mem_cons.not.mp single)
      have other : ¬ isNameChar c = true := by
        intro named
        rw [List.takeWhile_cons_of_pos named] at unnamed
        contradiction
      rw [List.cons_append, entriesFrom, entryAt?_unnamed before (by simpa using other), getLast?_cons_or]
      exact entriesFrom_inside others behind (Ne.symm first)
  · have taken : entryOf? line = some _ := if_neg unnamed
    have listed : Listed before (line.takeWhile isNameChar) (line.dropWhile isNameChar) behind := by
      refine ⟨start, unnamed, fun c member => List.mem_takeWhile_imp member, fun c next => ?_, fun feed => ?_, ended⟩
      · have stop := List.head?_dropWhile_not isNameChar line
        rwa [Option.mem_def.mp next] at stop
      · exact single ((List.dropWhile_suffix _).subset feed)
    have found := entriesFrom_named listed
    rw [split] at found
    rw [found, taken]
    rfl

end

/-- The search finds the entries of the lines, one after the other. -/
theorem entriesFrom_eq_filterMap (cs : List Char) {before : Option Char} (start : ∀ c ∈ before, c = '\n') :
    entriesFrom 0 before cs = (cs.splitOn '\n').filterMap entryOf? := by
  by_cases feed : '\n' ∈ cs
  · obtain ⟨line, more, split, single⟩ := List.eq_append_cons_of_mem feed
    have shorter : more.length < cs.length := by simp [split]; omega
    have next : entriesFrom 0 (line.getLast?.or before) ('\n' :: more) = (more.splitOn '\n').filterMap entryOf? := by
      rw [entriesFrom, entryAt?_unnamed _ (by simp [isNameChar])]
      exact entriesFrom_eq_filterMap more (by simp)
    rw [split, entriesFrom_line start single (by simp), next, List.splitOn_append_cons_self_of_not_mem single,
      List.filterMap_cons]
    cases entryOf? line <;> rfl
  · have whole : entriesFrom 0 before (cs ++ []) = _ := entriesFrom_line start feed (by simp)
    rw [List.append_nil] at whole
    rw [whole, List.splitOn_eq_singleton feed, List.filterMap_cons]
    cases entryOf? cs <;> rfl
termination_by cs.length

/-- A line that begins with a space has no entry. -/
example : entries "pi#\n x&\ny(v)" = [("pi", ['#']), ("y", ['(', 'v', ')'])] := by decide +kernel

theorem parse_eq_foldl_entries (text : String) :
    parse text = (entries text).foldl (fun l (name, rest) => l.add name (.ofRest rest)) empty := by
  rw [parse_eq_foldl, entries, entriesFrom_eq_filterMap _ (by simp), List.foldl_filterMap]
  refine congrArg (fun step => (lines text).foldl step empty) (funext fun l => funext fun line => ?_)
  rw [addChars_eq, entryOf?]
  split <;> rfl

/-- A listing is read line by line. The search for the pattern of entries finds those of its lines, and a name is put
    into the set of the role that the first line with the name at its start gives it, and into no other; a name that no
    line has at its start is put into none. -/
theorem parse_first_line (text : String) :
    (∃ p, Pattern.parse? "(?m)^([A-Za-z0-9_]+)(.*)$" = some p ∧
      ∀ before rest, p.matchLength? before rest = (entryAt? before rest).map Prod.snd) ∧
    entries text = (lines text).filterMap entryOf? ∧
    parse text = (entries text).foldl (fun l (name, rest) => l.add name (.ofRest rest)) empty ∧
    ∀ name,
      ((parse text).constants.contains name = true ↔ ∃ rest, firstRest? text name = some rest ∧ '#' ∈ rest) ∧
      ((parse text).deprecated.contains name = true ↔
        ∃ rest, firstRest? text name = some rest ∧ '#' ∉ rest ∧ '&' ∈ rest) ∧
      ((parse text).builtins.contains name = true ↔
        ∃ rest, firstRest? text name = some rest ∧ '#' ∉ rest ∧ '&' ∉ rest) ∧
      ((∀ role, ((parse text).namesOf role).contains name = false) ↔ ∀ line ∈ lines text, restOf? name line = none) ∧
      (∀ role role', ((parse text).namesOf role).contains name = true →
        ((parse text).namesOf role').contains name = true → role = role') ∧
      (parse text).roleOf? name = (firstRest? text name).map .ofRest := by
  refine ⟨⟨entry, parse_entry, entryAt?_matchLength?⟩, entriesFrom_eq_filterMap _ (by simp),
    parse_eq_foldl_entries text, fun name => ?_⟩
  have assigns := assigns_parse text
  have role := roleOf?_of_assigns assigns name
  have listed (role : Role) : ((parse text).namesOf role).contains name = true ↔
      ∃ rest, firstRest? text name = some rest ∧ .ofRest rest = role := by
    rw [assigns name role, decide_eq_true_iff, Option.map_eq_some_iff]
  refine ⟨(listed .constant).trans ?_, (listed .deprecated).trans ?_, (listed .builtin).trans ?_, ?_, ?_, role⟩
  · simp only [Role.ofRest_eq_constant]
  · simp only [Role.ofRest_eq_deprecated]
  · simp only [Role.ofRest_eq_builtin]
  · rw [← List.findSome?_eq_none_iff]
    constructor
    · intro absent
      by_contra some
      obtain ⟨rest, found⟩ := Option.ne_none_iff_exists'.mp some
      have contained := (listed (.ofRest rest)).mpr ⟨rest, found, rfl⟩
      rw [absent] at contained
      contradiction
    · intro none role
      rw [Bool.eq_false_iff, Ne, listed]
      rintro ⟨rest, found, _⟩
      exact Option.some_ne_none rest (found.symm.trans none)
  · rintro role role' first second
    obtain ⟨rest, found, rfl⟩ := (listed role).mp first
    obtain ⟨rest', found', rfl⟩ := (listed role').mp second
    rw [Option.some.inj (found.symm.trans found')]

end Listing

/-! ## Listings that are joined -/

namespace Listing

theorem lines_joined (a b : String) : lines (a ++ "\n" ++ b) = lines a ++ lines b := by
  have texts : (a ++ "\n" ++ b).toList = a.toList ++ '\n' :: b.toList := by simp
  rw [lines, texts, List.splitOn_append_cons_self]
  rfl

theorem entries_eq (text : String) : entries text = (lines text).filterMap entryOf? :=
  entriesFrom_eq_filterMap _ (by simp)

theorem entries_joined (a b : String) : entries (a ++ "\n" ++ b) = entries a ++ entries b := by
  rw [entries_eq, entries_eq, entries_eq, lines_joined, List.filterMap_append]

theorem roleOf?_parse (text name : String) : (parse text).roleOf? name = (firstRest? text name).map .ofRest :=
  roleOf?_of_assigns (assigns_parse text) name

theorem roleOf?_joined (a b name : String) :
    (parse (a ++ "\n" ++ b)).roleOf? name = ((parse a).roleOf? name).or ((parse b).roleOf? name) := by
  rw [roleOf?_parse, roleOf?_parse, roleOf?_parse, firstRest?, lines_joined, List.findSome?_append, Option.map_or]
  rfl

/-- In a listing that is read from a text, a name is in the set of its role and in no other. -/
theorem contains_namesOf_parse (text name : String) (role : Role) :
    ((parse text).namesOf role).contains name = true ↔ (parse text).roleOf? name = some role := by
  rw [assigns_parse text name role, decide_eq_true_iff, roleOf?_parse]

/-- A listing below another one adds to it the names that it does not have. The entries of both are those of the first
    and then those of the second; a name has the role that the first gives it, and otherwise that of the second, and
    stands in the set of this role and in no other. So lines that are added keep the role of every name listed
    already. -/
theorem parse_joined (a b : String) :
    entries (a ++ "\n" ++ b) = entries a ++ entries b ∧
    ∀ name,
      (parse (a ++ "\n" ++ b)).roleOf? name = ((parse a).roleOf? name).or ((parse b).roleOf? name) ∧
      ∀ role,
        (((parse (a ++ "\n" ++ b)).namesOf role).contains name = true ↔
          (parse a).roleOf? name = some role ∨ (parse a).roleOf? name = none ∧ (parse b).roleOf? name = some role) ∧
        ((parse a).roleOf? name = some role → (parse (a ++ "\n" ++ b)).roleOf? name = some role) := by
  refine ⟨entries_joined a b, fun name => ⟨roleOf?_joined a b name, fun role => ⟨?_, fun listed => ?_⟩⟩⟩
  · rw [contains_namesOf_parse, roleOf?_joined, Option.or_eq_some_iff]
  · rw [roleOf?_joined, listed, Option.some_or]

/-- A listing that ends with a carriage return, and one that starts with a marker and lists a name again. -/
theorem parse_joined_repeated :
    (parse "pi#\r").roleOf? "pi" = some .constant ∧ (parse "#\npi&\nx").roleOf? "pi" = some .deprecated ∧
      (parse ("pi#\r" ++ "\n" ++ "#\npi&\nx")).roleOf? "pi" = some .constant ∧
      ((parse ("pi#\r" ++ "\n" ++ "#\npi&\nx")).namesOf .builtin).contains "x" = true := by
  have listed : (parse "pi#\r").roleOf? "pi" = some .constant := by decide +kernel
  obtain ⟨-, names⟩ := parse_joined "pi#\r" "#\npi&\nx"
  refine ⟨listed, by decide +kernel, ((names "pi").2 .constant).2 listed, ?_⟩
  exact ((names "x").2 .builtin).1.mpr (.inr (by decide +kernel))

end Listing

end Highlighter
