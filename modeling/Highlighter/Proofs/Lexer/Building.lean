import Highlighter.Lexer
import Mathlib.Data.List.Forall2

/-!
Which tables make a lexer, and which lexer they make. `build_eq_ok_iff` says that building succeeds with
exactly the lexer whose states and rules stand in the order of their declaration, if the names of the states
are distinct, one of them is the root, every target is declared and every pattern compiles. Every lexer
that is built is well formed (`wellFormed_of_build`).

Which tables are refused, and for what. A table is accepted if the names of its states are distinct, one of them is the
root, every target is declared and every pattern compiles (`Accepted`). Any other table has a first defect
(`Refused`), and the error of building is that of this defect. `build_accepts_or_refuses` says so for every table, and
that the lexer holds the states and rules as they are declared.
-/

namespace Highlighter

/-! ## What is built -/

/-! ### Lists that are related item by item -/

section
variable {α β : Type} {R : α → β → Prop} {as : List α} {bs : List β}

theorem exists_of_mem_right (related : List.Forall₂ R as bs) {b : β} (member : b ∈ bs) : ∃ a ∈ as, R a b := by
  induction related with
  | nil => simp at member
  | cons first others ih =>
    rcases List.mem_cons.mp member with rfl | later
    · exact ⟨_, List.mem_cons_self, first⟩
    · obtain ⟨a, listed, same⟩ := ih later
      exact ⟨a, List.mem_cons_of_mem _ listed, same⟩

theorem exists_of_mem_left (related : List.Forall₂ R as bs) {a : α} (member : a ∈ as) : ∃ b ∈ bs, R a b :=
  exists_of_mem_right (R := flip R) related.flip member

theorem exists_of_append_singleton {a : α} (related : List.Forall₂ R (as ++ [a]) bs) :
    ∃ front b, bs = front ++ [b] ∧ List.Forall₂ R as front ∧ R a b := by
  induction as generalizing bs with
  | nil =>
    cases related with
    | @cons _ b _ _ last none =>
      cases none
      exact ⟨[], b, rfl, .nil, last⟩
  | cons first as ih =>
    cases related with
    | @cons _ c _ _ same later =>
      obtain ⟨front, b, rfl, others, last⟩ := ih later
      exact ⟨c :: front, b, rfl, .cons same others, last⟩

/-- If everything in a list is related to something of a kind, the list is related to a list of that kind. -/
theorem exists_forall₂ {kind : β → Prop}
    (each : ∀ a ∈ as, ∃ b, R a b ∧ kind b) : ∃ bs, List.Forall₂ R as bs ∧ ∀ b ∈ bs, kind b := by
  induction as with
  | nil => exact ⟨[], .nil, by simp⟩
  | cons a as ih =>
    obtain ⟨b, related, first⟩ := each a List.mem_cons_self
    obtain ⟨bs, others, kinds⟩ := ih fun a later => each a (List.mem_cons_of_mem _ later)
    refine ⟨b :: bs, .cons related others, ?_⟩
    intro c member
    rcases List.mem_cons.mp member with rfl | later
    · exact first
    · exact kinds c later

theorem map_eq_of_forall₂ {γ : Type} {f : α → γ} {g : β → γ} (related : List.Forall₂ R as bs)
    (same : ∀ a b, R a b → g b = f a) : bs.map g = as.map f := by
  induction related with
  | nil => rfl
  | cons first others ih => rw [List.map_cons, List.map_cons, same _ _ first, ih]

/-- What is read off two lists that are related item by item is related, if it is for each two items. -/
theorem forall₂_of_square {γ δ : Type} {S : α → γ → Prop} {T : β → δ → Prop} {U : γ → δ → Prop} {cs : List γ}
    {ds : List δ} (related : List.Forall₂ R as bs) (left : List.Forall₂ S as cs) (right : List.Forall₂ T bs ds)
    (square : ∀ a b c d, R a b → S a c → T b d → U c d) : List.Forall₂ U cs ds := by
  induction related generalizing cs ds with
  | nil =>
    cases left
    cases right
    exact .nil
  | cons first others ih =>
    cases left with
    | cons here later =>
      cases right with
      | cons here' later' => exact .cons (square _ _ _ _ first here here') (ih later later')

end

variable {P : Type} [Engine P]

namespace Table

/-! ### What a table is read as -/

/-- The declared rule `r` is read as `c` in a table that declares some names. -/
structure Rule.ReadAs (declared : List String) (r : Table.Rule) (c : Lexer.Rule P) : Prop where
  target : r.unknownTarget? declared = none
  pattern : Engine.compile? r.pattern = some c.pattern
  text : c.text = r.pattern
  action : c.action = r.action
  transition : c.transition = r.transition

/-- The declared state `s` is read as `c`. -/
structure State.ReadAs (declared : List String) (s : Table.State) (c : Lexer.State P) : Prop where
  name : c.name = s.name
  rules : List.Forall₂ (Rule.ReadAs declared) s.rules c.rules

theorem buildRules_eq_ok_iff (lexer : String) (declared : List String) (state : String) (rules : List Rule) :
    ∀ (index : Nat) (read : List (Lexer.Rule P)),
      buildRules P lexer declared state index rules = .ok read ↔
        List.Forall₂ (Rule.ReadAs declared) rules read := by
  induction rules with
  | nil => intro index read; simp [buildRules, eq_comm]
  | cons r rules ih =>
    intro index read
    rw [buildRules]
    constructor
    · intro built
      split at built
      · contradiction
      · contradiction
      next pattern target parsed =>
        cases others : buildRules P lexer declared state (index + 1) rules with
        | error e => rw [others] at built; contradiction
        | ok tail =>
          rw [others] at built
          rw [← Except.ok.inj built]
          exact .cons ⟨target, parsed, rfl, rfl, rfl⟩ ((ih (index + 1) tail).mp others)
    · intro related
      cases related with
      | @cons _ c _ tail first others =>
        rw [first.target, first.pattern]
        simp only
        rw [(ih (index + 1) tail).mpr others, ← first.text, ← first.action, ← first.transition]
        rfl

theorem buildStates_eq_ok_iff (lexer : String) (declared : List String) (states : List State) :
    ∀ read : List (Lexer.State P),
      buildStates P lexer declared states = .ok read ↔ List.Forall₂ (State.ReadAs declared) states read := by
  induction states with
  | nil => intro read; simp [buildStates, eq_comm]
  | cons s states ih =>
    intro read
    rw [buildStates]
    constructor
    · intro built
      split at built
      · contradiction
      next rules read =>
        cases others : buildStates P lexer declared states with
        | error e => rw [others] at built; contradiction
        | ok tail =>
          rw [others] at built
          rw [← Except.ok.inj built]
          exact .cons ⟨rfl, (buildRules_eq_ok_iff ..).mp read⟩ ((ih tail).mp others)
    · intro related
      cases related with
      | @cons _ c _ tail first others =>
        rw [(buildRules_eq_ok_iff ..).mpr first.rules]
        simp only
        rw [(ih tail).mpr others, ← first.name]
        rfl

theorem firstRepeat?_eq_none_iff (names : List String) : ∀ seen : List String,
    firstRepeat? seen names = none ↔ names.Nodup ∧ ∀ name ∈ names, name ∉ seen := by
  induction names with
  | nil => intro seen; simp [firstRepeat?]
  | cons name names ih =>
    intro seen
    rw [firstRepeat?]
    by_cases known : name ∈ seen
    · simp [known]
    · rw [if_neg known, ih, List.nodup_cons]
      constructor
      · rintro ⟨distinct, fresh⟩
        refine ⟨⟨fun later => fresh name later (by simp), distinct⟩, ?_⟩
        intro other member
        rcases List.mem_cons.mp member with rfl | later
        · exact known
        · exact fun earlier => fresh other later (by simp [earlier])
      · rintro ⟨⟨first, distinct⟩, fresh⟩
        refine ⟨distinct, fun other later earlier => ?_⟩
        rcases List.mem_cons.mp earlier with rfl | earlier
        · exact first later
        · exact fresh other (by simp [later]) earlier

/-- A table makes the lexer of its language in which its states are read in order, if their names are
    distinct and one of them is the root. -/
theorem build_eq_ok_iff (t : Table) (l : Lexer P) :
    t.build P = .ok l ↔
      t.stateNames.Nodup ∧ t.stateNames.idxOf? rootName = some l.root ∧ l.language = t.language ∧
        List.Forall₂ (State.ReadAs t.stateNames) t.states l.states := by
  rw [build]
  constructor
  · intro built
    split at built
    · contradiction
    next noRepeat =>
      split at built
      · contradiction
      next root rooted =>
        cases read : buildStates P t.language.tag t.stateNames t.states with
        | error e => rw [read] at built; contradiction
        | ok states =>
          rw [read] at built
          rw [← Except.ok.inj built]
          exact ⟨((firstRepeat?_eq_none_iff ..).mp noRepeat).1, rooted, rfl, (buildStates_eq_ok_iff ..).mp read⟩
  · rintro ⟨distinct, rooted, language, related⟩
    have noRepeat : firstRepeat? [] t.stateNames = none :=
      (firstRepeat?_eq_none_iff ..).mpr ⟨distinct, by simp⟩
    rw [noRepeat]
    simp only
    rw [rooted]
    simp only
    rw [(buildStates_eq_ok_iff ..).mpr related, ← language]
    rfl

theorem language_of_build {t : Table} {l : Lexer P} (built : t.build P = .ok l) : l.language = t.language :=
  ((build_eq_ok_iff t l).mp built).2.2.1

theorem tag_of_build {t t' : Table} {l l' : Lexer P} (built : t.build P = .ok l) (built' : t'.build P = .ok l')
    (tag : t'.language.tag = t.language.tag) : l'.language.tag = l.language.tag := by
  rw [language_of_build built, language_of_build built', tag]

/-- Comments that may be nested: each opening enters a state and each closing leaves it. -/
def nestedComments : Table where
  language := ⟨"nested", [], "Nested comments", "", []⟩
  states :=
    [⟨"root", [⟨"\\(\\*", .emit .commentBlock, some (.push "inside")⟩]⟩,
      ⟨"inside",
        [⟨"\\(\\*", .emit .commentBlock, some (.push "inside")⟩, ⟨"\\*\\)", .emit .commentBlock, some .pop⟩]⟩]

end Table

namespace Lexer

/-- The names of the lexer's states. -/
def stateNames (l : Lexer P) : List String := l.states.map (·.name)

/-- The names of the states are distinct, the scan starts in the state named so, and every state that a rule
    enters exists. -/
structure WellFormed (l : Lexer P) : Prop where
  distinct : l.stateNames.Nodup
  root : l.stateNames[l.root]? = some Table.rootName
  targets : ∀ s ∈ l.states, ∀ r ∈ s.rules, ∀ name, r.transition = some (.push name) → name ∈ l.stateNames

end Lexer

theorem Table.stateNames_of_readAs {declared : List String} {states : List Table.State}
    {read : List (Lexer.State P)} (related : List.Forall₂ (State.ReadAs declared) states read) :
    read.map (·.name) = states.map (·.name) :=
  map_eq_of_forall₂ related fun _ _ same => same.name

/-- What is built is well formed. -/
theorem Lexer.wellFormed_of_build {t : Table} {l : Lexer P} (built : t.build P = .ok l) : l.WellFormed := by
  obtain ⟨distinct, rooted, _, related⟩ := (Table.build_eq_ok_iff t l).mp built
  have names : l.stateNames = t.stateNames := Table.stateNames_of_readAs related
  refine ⟨names ▸ distinct, ?_, ?_⟩
  · obtain ⟨inside, here, _⟩ := List.idxOf?_eq_some_iff.mp rooted
    rw [names, List.getElem?_eq_getElem inside]
    exact congrArg some (by simpa using here)
  · intro s member r listed name enters
    obtain ⟨declared, _, read⟩ := exists_of_mem_right related member
    obtain ⟨rule, _, same⟩ := exists_of_mem_right read.rules listed
    have known := same.target
    rw [Table.Rule.unknownTarget?, ← same.transition, enters] at known
    rw [names]
    by_contra unknown
    simp [unknown] at known

/-! ## What is refused -/

namespace Table

structure Accepted (P : Type) [Engine P] (t : Table) : Prop where
  distinct : t.stateNames.Nodup
  root : rootName ∈ t.stateNames
  targets : ∀ s ∈ t.states, ∀ r ∈ s.rules, ∀ target, r.transition = some (.push target) → target ∈ t.stateNames
  patterns : ∀ s ∈ t.states, ∀ r ∈ s.rules, (Engine.compile? r.pattern : Option P).isSome

/-- A rule with its place in a table: the name of its state, and its index among the rules of this state. -/
structure Entry where
  state : String
  index : Nat
  rule : Rule

/-- The rules of a state, the first of which has the given index. -/
def entriesFrom (state : String) (index : Nat) (rules : List Rule) : List Entry :=
  (rules.zipIdx index).map fun (r, i) => ⟨state, i, r⟩

/-- The rules of some states, in the order of the states and then of their rules. -/
def entriesOf (states : List State) : List Entry := states.flatMap fun s => entriesFrom s.name 0 s.rules

/-- What is wrong with a rule. A target that is not declared counts before a pattern that does not compile. -/
inductive Entry.Faulty (P : Type) [Engine P] (lexer : String) (declared : List String) (entry : Entry) :
    BuildError → Prop
  | unknownState {target : String} (enters : entry.rule.transition = some (.push target))
      (unknown : target ∉ declared) : Faulty P lexer declared entry (.unknownState lexer entry.state target)
  | invalidPattern (known : ∀ target, entry.rule.transition = some (.push target) → target ∈ declared)
      (unreadable : (Engine.compile? entry.rule.pattern : Option P) = none) :
      Faulty P lexer declared entry (.invalidPattern lexer entry.state entry.index)

/-- The first defect of a table: a state whose name has occurred before it; if there is none, that the root is missing;
    if it is not, the fault of the first rule that has one. -/
inductive Refused (P : Type) [Engine P] (t : Table) : BuildError → Prop
  | duplicateState {front back : List State} {s : State} (split : t.states = front ++ s :: back)
      (first : (front.map (·.name)).Nodup) (repeated : s.name ∈ front.map (·.name)) :
      Refused P t (.duplicateState t.language.tag s.name)
  | missingRoot (distinct : t.stateNames.Nodup) (missing : rootName ∉ t.stateNames) :
      Refused P t (.missingRoot t.language.tag)
  | faultyRule {front back : List Entry} {entry : Entry} {e : BuildError} (distinct : t.stateNames.Nodup)
      (root : rootName ∈ t.stateNames) (split : entriesOf t.states = front ++ entry :: back)
      (first : ∀ earlier ∈ front, ∀ e, ¬ earlier.Faulty P t.language.tag t.stateNames e)
      (fault : entry.Faulty P t.language.tag t.stateNames e) : Refused P t e

/-! ### Names -/

theorem firstRepeat?_append {front : List String} (names : List String) : ∀ {seen : List String}, front.Nodup →
    (∀ other ∈ front, other ∉ seen) →
      firstRepeat? seen (front ++ names) = firstRepeat? (front.reverse ++ seen) names := by
  induction front with
  | nil => simp
  | cons first front ih =>
    intro seen distinct fresh
    obtain ⟨apart, distinct⟩ := List.nodup_cons.mp distinct
    obtain ⟨new, fresh⟩ := List.forall_mem_cons.mp fresh
    have later : ∀ other ∈ front, other ∉ first :: seen := by
      intro other member
      simp only [List.mem_cons, not_or]
      exact ⟨fun same => apart (same ▸ member), fresh other member⟩
    rw [List.cons_append, firstRepeat?, if_neg new, ih distinct later]
    simp

theorem exists_split_of_firstRepeat? {name : String} (names : List String) : ∀ {seen : List String},
    firstRepeat? seen names = some name → ∃ front back, names = front ++ name :: back ∧ front.Nodup ∧
      (∀ other ∈ front, other ∉ seen) ∧ (name ∈ front ∨ name ∈ seen) := by
  induction names with
  | nil => simp [firstRepeat?]
  | cons first names ih =>
    intro seen found
    rw [firstRepeat?] at found
    by_cases known : first ∈ seen
    · rw [if_pos known] at found
      obtain rfl := Option.some.inj found
      exact ⟨[], names, rfl, by simp, by simp, .inr known⟩
    · rw [if_neg known] at found
      obtain ⟨front, back, rfl, distinct, fresh, again⟩ := ih found
      simp only [List.mem_cons, not_or] at fresh again
      refine ⟨first :: front, back, rfl, ?_, ?_, ?_⟩
      · exact List.nodup_cons.mpr ⟨fun member => (fresh first member).1 rfl, distinct⟩
      · exact List.forall_mem_cons.mpr ⟨known, fun other member => (fresh other member).2⟩
      · simp only [List.mem_cons]
        tauto

/-- The first name to repeat is that of a state whose name has occurred, behind states whose names are distinct. -/
theorem firstRepeat?_stateNames_iff {t : Table} {name : String} :
    firstRepeat? [] t.stateNames = some name ↔ ∃ front s back, t.states = front ++ s :: back ∧ s.name = name ∧
      (front.map (·.name)).Nodup ∧ name ∈ front.map (·.name) := by
  constructor
  · intro found
    obtain ⟨before, after, split, distinct, _, again⟩ := exists_split_of_firstRepeat? _ found
    obtain ⟨front, others, same, rfl, later⟩ := List.map_eq_append_iff.mp split
    obtain ⟨s, back, rfl, called, rfl⟩ := List.map_eq_cons_iff.mp later
    exact ⟨front, s, back, same, called, distinct, by simpa using again⟩
  · rintro ⟨front, s, back, split, rfl, distinct, again⟩
    rw [stateNames, split, List.map_append, firstRepeat?_append _ distinct (by simp), List.map_cons, firstRepeat?]
    simp_all

/-! ### Rules -/

section
variable {lexer : String} {declared : List String}

/-- The fault of a rule as building finds it. -/
def Entry.fault? (P : Type) [Engine P] (lexer : String) (declared : List String) (entry : Entry) : Option BuildError :=
  match entry.rule.unknownTarget? declared, (Engine.compile? entry.rule.pattern : Option P) with
  | some target, _ => some (.unknownState lexer entry.state target)
  | none, none => some (.invalidPattern lexer entry.state entry.index)
  | none, some _ => none

theorem Rule.unknownTarget?_eq_some_iff {r : Rule} {target : String} :
    r.unknownTarget? declared = some target ↔ r.transition = some (.push target) ∧ target ∉ declared := by
  rw [unknownTarget?]
  rcases r.transition with _ | ⟨next⟩ | _
  · simp
  · simp only [Option.ite_none_left_eq_some, Option.some.injEq, Transition.push.injEq]
    constructor
    · rintro ⟨unknown, rfl⟩
      exact ⟨rfl, unknown⟩
    · rintro ⟨rfl, unknown⟩
      exact ⟨unknown, rfl⟩
  · simp

theorem Rule.unknownTarget?_eq_none_iff {r : Rule} :
    r.unknownTarget? declared = none ↔ ∀ target, r.transition = some (.push target) → target ∈ declared := by
  simp only [Option.eq_none_iff_forall_ne_some, ne_eq, unknownTarget?_eq_some_iff, not_and, not_not]

theorem Entry.fault?_eq_some_iff {entry : Entry} {e : BuildError} :
    entry.fault? P lexer declared = some e ↔ entry.Faulty P lexer declared e := by
  rw [fault?]
  constructor
  · intro found
    split at found
    next target unknown =>
      obtain ⟨enters, unknown⟩ := Rule.unknownTarget?_eq_some_iff.mp unknown
      exact Option.some.inj found ▸ .unknownState enters unknown
    next known unreadable =>
      exact Option.some.inj found ▸ .invalidPattern (Rule.unknownTarget?_eq_none_iff.mp known) unreadable
    · contradiction
  · rintro (⟨enters, unknown⟩ | ⟨known, unreadable⟩)
    · rw [Rule.unknownTarget?_eq_some_iff.mpr ⟨enters, unknown⟩]
    · rw [Rule.unknownTarget?_eq_none_iff.mpr known, unreadable]

theorem buildRules_eq_error_iff {state : String} {e : BuildError} (rules : List Rule) : ∀ index,
    buildRules P lexer declared state index rules = .error e ↔
      (entriesFrom state index rules).findSome? (Entry.fault? P lexer declared) = some e := by
  induction rules with
  | nil => simp [buildRules, entriesFrom]
  | cons r rules ih =>
    intro index
    have later := ih (index + 1)
    rw [entriesFrom] at later ⊢
    rw [buildRules, List.zipIdx_cons, List.map_cons, List.findSome?_cons, Entry.fault?]
    cases target : r.unknownTarget? declared with
    | some target => simp
    | none =>
      cases (Engine.compile? r.pattern : Option P) with
      | none => simp
      | some pattern =>
        cases built : buildRules P lexer declared state (index + 1) rules <;> simp_all [Except.map]

theorem buildStates_eq_error_iff {e : BuildError} (states : List State) :
    buildStates P lexer declared states = .error e ↔
      (entriesOf states).findSome? (Entry.fault? P lexer declared) = some e := by
  induction states with
  | nil => simp [buildStates, entriesOf]
  | cons s states ih =>
    have here : ∀ e, buildRules P lexer declared s.name 0 s.rules = .error e ↔ _ :=
      fun _ => buildRules_eq_error_iff s.rules 0
    rw [entriesOf] at ih ⊢
    rw [buildStates, List.flatMap_cons, List.findSome?_append]
    cases built : buildRules P lexer declared s.name 0 s.rules with
    | error fault => simp [(here fault).mp built]
    | ok rules =>
      have sound : (entriesFrom s.name 0 s.rules).findSome? (Entry.fault? P lexer declared) = none := by
        rw [Option.eq_none_iff_forall_ne_some]
        intro fault found
        simp [(here fault).mpr found] at built
      rw [sound, Option.none_or, ← ih]
      cases buildStates P lexer declared states <;> simp [Except.map]

/-- The first fault among some rules is that of a rule that has one, where none of the rules before it has any. -/
theorem findSome?_fault?_eq_some_iff {entries : List Entry} {e : BuildError} :
    entries.findSome? (Entry.fault? P lexer declared) = some e ↔ ∃ front entry back, entries = front ++ entry :: back ∧
      entry.Faulty P lexer declared e ∧ ∀ earlier ∈ front, ∀ e, ¬ earlier.Faulty P lexer declared e := by
  simp only [List.findSome?_eq_some_iff, Entry.fault?_eq_some_iff, Option.eq_none_iff_forall_ne_some, ne_eq]

end

theorem mem_entriesOf {states : List State} {entry : Entry} :
    entry ∈ entriesOf states ↔ ∃ s ∈ states, s.name = entry.state ∧ s.rules[entry.index]? = some entry.rule := by
  rw [entriesOf, List.mem_flatMap]
  refine exists_congr fun s => and_congr_right fun _ => ?_
  rw [entriesFrom, List.mem_map]
  constructor
  · rintro ⟨⟨r, index⟩, member, rfl⟩
    exact ⟨rfl, List.mk_mem_zipIdx_iff_getElem?.mp member⟩
  · rintro ⟨called, here⟩
    exact ⟨(entry.rule, entry.index), List.mk_mem_zipIdx_iff_getElem?.mpr here, called ▸ rfl⟩

/-! ### Building -/

section
variable {t : Table} {e : BuildError}

theorem refused_of_build (failed : t.build P = .error e) : t.Refused P e := by
  rw [build] at failed
  split at failed
  next name repeated =>
    obtain ⟨front, s, back, split, rfl, first, again⟩ := firstRepeat?_stateNames_iff.mp repeated
    exact Except.error.inj failed ▸ .duplicateState split first again
  next noRepeat =>
    have distinct := ((firstRepeat?_eq_none_iff ..).mp noRepeat).1
    split at failed
    next missing => exact Except.error.inj failed ▸ .missingRoot distinct (List.idxOf?_eq_none_iff.mp missing)
    next root rooted =>
      have present : rootName ∈ t.stateNames := List.isSome_idxOf?.mp (by simp [rooted])
      cases read : buildStates P t.language.tag t.stateNames t.states with
      | ok states => rw [read] at failed; contradiction
      | error fault =>
        rw [read] at failed
        obtain rfl : fault = e := Except.error.inj failed
        obtain ⟨front, entry, back, split, found, first⟩ :=
          findSome?_fault?_eq_some_iff.mp ((buildStates_eq_error_iff t.states).mp read)
        exact .faultyRule distinct present split first found

theorem build_of_refused (refused : t.Refused P e) : t.build P = .error e := by
  rw [build]
  cases refused with
  | duplicateState split first again =>
    rw [firstRepeat?_stateNames_iff.mpr ⟨_, _, _, split, rfl, first, again⟩]
  | missingRoot distinct missing =>
    rw [(firstRepeat?_eq_none_iff ..).mpr ⟨distinct, by simp⟩]
    simp only [List.idxOf?_eq_none_iff.mpr missing]
  | faultyRule distinct root split first fault =>
    obtain ⟨index, rooted⟩ := Option.isSome_iff_exists.mp (List.isSome_idxOf?.mpr root)
    have read := (buildStates_eq_error_iff t.states).mpr
      (findSome?_fault?_eq_some_iff.mpr ⟨_, _, _, split, fault, first⟩)
    rw [(firstRepeat?_eq_none_iff ..).mpr ⟨distinct, by simp⟩]
    simp only [rooted, read]
    rfl

theorem not_refused_of_accepted (accepted : t.Accepted P) : ¬ t.Refused P e := by
  intro refused
  cases refused with
  | @duplicateState front back s split first again =>
    have distinct := accepted.distinct
    rw [stateNames, split, List.map_append, List.map_cons, List.nodup_append] at distinct
    exact distinct.2.2 s.name again s.name (by simp) rfl
  | missingRoot distinct missing => exact missing accepted.root
  | @faultyRule front back entry e distinct root split first fault =>
    have listed : entry ∈ entriesOf t.states := by simp [split]
    obtain ⟨s, declared, _, here⟩ := mem_entriesOf.mp listed
    have member : entry.rule ∈ s.rules := List.mem_of_getElem? here
    cases fault with
    | unknownState enters unknown => exact unknown (accepted.targets s declared _ member _ enters)
    | invalidPattern known unreadable =>
      have readable := accepted.patterns s declared _ member
      simp [unreadable] at readable

theorem accepted_of_build {l : Lexer P} (built : t.build P = .ok l) : t.Accepted P := by
  obtain ⟨distinct, rooted, _, related⟩ := (build_eq_ok_iff t l).mp built
  have read : ∀ s ∈ t.states, ∀ r ∈ s.rules, ∃ c, Rule.ReadAs (P := P) t.stateNames r c := by
    intro s declared r listed
    obtain ⟨_, _, state⟩ := exists_of_mem_left related declared
    obtain ⟨c, _, rule⟩ := exists_of_mem_left state.rules listed
    exact ⟨c, rule⟩
  refine ⟨distinct, List.isSome_idxOf?.mp (by simp [rooted]), ?_, ?_⟩
  · intro s declared r listed
    obtain ⟨c, rule⟩ := read s declared r listed
    exact Rule.unknownTarget?_eq_none_iff.mp rule.target
  · intro s declared r listed
    obtain ⟨c, rule⟩ := read s declared r listed
    simp [rule.pattern]

theorem exists_build (accepted : t.Accepted P) : ∃ l, t.build P = .ok l := by
  cases built : t.build P with
  | ok l => exact ⟨l, rfl⟩
  | error e => exact absurd (refused_of_build built) (not_refused_of_accepted accepted)

end

end Table

/-! ### What a lexer holds -/

namespace Lexer

/-- The rule as it was declared. -/
def Rule.declaration (r : Rule P) : Table.Rule := ⟨r.text, r.action, r.transition⟩

def State.declaration (s : State P) : Table.State := ⟨s.name, s.rules.map Rule.declaration⟩

def declaration (l : Lexer P) : Table := ⟨l.language, l.states.map State.declaration⟩

/-- The states and rules of the table in their order, each pattern as it is read, and where the root is. -/
structure Holds (l : Lexer P) (t : Table) : Prop where
  declaration : l.declaration = t
  patterns : ∀ s ∈ l.states, ∀ r ∈ s.rules, Engine.compile? r.text = some r.pattern
  root : l.stateNames[l.root]? = some Table.rootName

end Lexer

namespace Table

theorem Rule.ReadAs.declaration {declared : List String} {r : Rule} {c : Lexer.Rule P} (read : r.ReadAs declared c) :
    c.declaration = r := by
  cases r
  simp [Lexer.Rule.declaration, read.text, read.action, read.transition]

theorem State.ReadAs.declaration {declared : List String} {s : State} {c : Lexer.State P} (read : s.ReadAs declared c) :
    c.declaration = s := by
  have rules : c.rules.map Lexer.Rule.declaration = s.rules.map id :=
    map_eq_of_forall₂ read.rules fun _ _ => Rule.ReadAs.declaration
  cases s
  simp_all [Lexer.State.declaration, read.name]

theorem holds_of_build {t : Table} {l : Lexer P} (built : t.build P = .ok l) : l.Holds t := by
  obtain ⟨_, _, language, related⟩ := (build_eq_ok_iff t l).mp built
  refine ⟨?_, ?_, (Lexer.wellFormed_of_build built).root⟩
  · have states : l.states.map Lexer.State.declaration = t.states.map id :=
      map_eq_of_forall₂ related fun _ _ => State.ReadAs.declaration
    cases t
    simp_all [Lexer.declaration]
  · intro s member r listed
    obtain ⟨_, _, state⟩ := exists_of_mem_right related member
    obtain ⟨_, _, rule⟩ := exists_of_mem_right state.rules listed
    rw [rule.text, rule.pattern]

theorem build_of_holds {t : Table} {l : Lexer P} (accepted : t.Accepted P) (holds : l.Holds t) : t.build P = .ok l := by
  obtain ⟨rfl, patterns, root⟩ := holds
  have names : l.declaration.stateNames = l.stateNames := by
    simp [stateNames, Lexer.stateNames, Lexer.declaration, Lexer.State.declaration]
  have distinct := accepted.distinct
  obtain ⟨inside, here⟩ := List.getElem?_eq_some_iff.mp root
  refine (build_eq_ok_iff _ _).mpr ⟨distinct, ?_, rfl, ?_⟩
  · rw [names] at distinct ⊢
    refine List.idxOf?_eq_some_iff.mpr ⟨inside, by simp [here], fun j earlier same => ?_⟩
    have equal : l.stateNames[j] = l.stateNames[l.root] := by simp_all
    exact Nat.ne_of_lt earlier ((List.getElem_inj distinct).mp equal)
  · refine List.forall₂_map_left_iff.mpr (List.forall₂_same.mpr fun s member => ⟨rfl, ?_⟩)
    refine List.forall₂_map_left_iff.mpr (List.forall₂_same.mpr fun r listed => ?_)
    have declared : s.declaration ∈ l.declaration.states := List.mem_map_of_mem member
    have target := accepted.targets _ declared r.declaration (List.mem_map_of_mem listed)
    exact ⟨Rule.unknownTarget?_eq_none_iff.mpr target, patterns s member r listed, rfl, rfl, rfl⟩

/-- A table makes a lexer if and only if it is accepted, and then the one that holds its states and rules. Building
    fails with an error if and only if this is the error of the table's first defect. -/
theorem build_accepts_or_refuses (P : Type) [Engine P] (t : Table) :
    ((∃ l, t.build P = .ok l) ↔ t.Accepted P) ∧ (∀ l, t.build P = .ok l ↔ t.Accepted P ∧ l.Holds t) ∧
      ∀ e, t.build P = .error e ↔ t.Refused P e := by
  refine ⟨⟨?_, exists_build⟩, ?_, ?_⟩
  · rintro ⟨l, built⟩
    exact accepted_of_build built
  · intro l
    constructor
    · intro built
      exact ⟨accepted_of_build built, holds_of_build built⟩
    · rintro ⟨accepted, holds⟩
      exact build_of_holds accepted holds
  · intro e
    exact ⟨refused_of_build, build_of_refused⟩

-- Of a rule with both faults the target is reported, and of two rules the first.
example :
    build ⟨⟨"toy", [], "", "", []⟩, [⟨"root", [⟨"a", .emit .name, none⟩, ⟨"[", .emit .name, some (.push "nowhere")⟩]⟩,
      ⟨"other", [⟨"(", .emit .name, none⟩]⟩]⟩ = .error (.unknownState "toy" "root" "nowhere") := rfl

end Table

end Highlighter
