import Highlighter.Proofs.Lexer.Building
import Highlighter.Proofs.Lexer.Safety

/-!
Lexers that agree on a source. If the same rule is the first to match at every point that the scan of one lexer gets
to, the scan of another goes the same way and finds or reports the same (`lex_eq_of_agreesOn`). So all that matters of
a table are the states that the root reaches, by name and rules (`lex_of_sharesReachable`), and rules behind those of
a table change nothing where its own rules leave no character unmatched (`lex_of_extendedBy`).
-/

namespace Highlighter

variable {P : Type} [Engine P]

namespace Lexer

/-- At every point before the end that the scan of one lexer gets to, both take the same hit or none. -/
def AgreesOn (l l' : Lexer P) (src : List Char) : Prop :=
  ∀ point, l.Reaches src point → point.place < src.length →
    (hitsAt (l'.rulesOf point.stack.top) src point.place).head? =
      (hitsAt (l.rulesOf point.stack.top) src point.place).head?

section
variable {l l' : Lexer P} {src : List Char}

theorem replay_eq_of_agreesOn (tag : l'.language.tag = l.language.tag) (agrees : l.AgreesOn l' src) (stack : Stack)
    (place : Nat) (reaches : l.Reaches src ⟨stack, place⟩) :
    l'.replay List.head? src stack place = l.replay List.head? src stack place := by
  -- The point from which the first pass goes on is one that the scan gets to, so the lexers agree there.
  induction stack, place using replay.induct l List.head? src with
  | case1 stack place ended => rw [replay_of_ended ended, replay_of_ended ended]
  | case2 stack place more noHit ih =>
    have same := (agrees _ reaches (Nat.not_le.mp more)).trans noHit
    have next : l.Advances src ⟨stack, place⟩ ⟨stack, place + 1⟩ :=
      .skip (Nat.not_le.mp more) (head?_hitsAt_eq_none_iff.mp noHit)
    rw [replay_of_none more noHit, replay_of_none more same, ih (reaches.tail next)]
  | case3 stack place more hit found stalled =>
    have same := (agrees _ reaches (Nat.not_le.mp more)).trans found
    rw [replay_of_some more found, replay_of_some more same, if_pos stalled, if_pos stalled, tag]
  | case4 stack place more hit found some ih =>
    have same := (agrees _ reaches (Nat.not_le.mp more)).trans found
    have next := Advances.hit (l := l) (Nat.not_le.mp more) (head?_hitsAt_eq_some_iff.mp found)
      (Nat.pos_of_ne_zero some)
    rw [replay_of_some more found, replay_of_some more same, if_neg some, if_neg some, ih (reaches.tail next)]

end

theorem lex_eq_of_agreesOn [LawfulEngine P] {t t' : Table} {l l' : Lexer P} (built : t.build P = .ok l)
    (built' : t'.build P = .ok l') (tag : t'.language.tag = t.language.tag) {src : String}
    (agrees : l.AgreesOn l' src.toList) : l'.lex src = l.lex src := by
  have tags := Table.tag_of_build built built' tag
  rw [lex_eq_replay (wellFormed_of_build built), lex_eq_replay (wellFormed_of_build built'),
    replay_eq_of_agreesOn tags agrees _ _ .refl]

end Lexer

/-! ### Rules as they are declared -/

namespace Table
variable {t t' : Table} {l l' : Lexer P}

theorem readAs_rulesOf (built : t.build P = .ok l) {s : State} (declared : s ∈ t.states) :
    List.Forall₂ (Rule.ReadAs t.stateNames) s.rules (l.rulesOf s.name) := by
  obtain ⟨_, _, _, related⟩ := (build_eq_ok_iff t l).mp built
  obtain ⟨c, member, read⟩ := exists_of_mem_left related declared
  rw [← read.name, Lexer.rulesOf_of_mem (Lexer.wellFormed_of_build built) member]
  exact read.rules

theorem rulesOf_of_undeclared (built : t.build P = .ok l) {name : String} (undeclared : name ∉ t.stateNames) :
    l.rulesOf name = [] := by
  obtain ⟨_, _, _, related⟩ := (build_eq_ok_iff t l).mp built
  have missing : l.states.find? (·.name == name) = none := by
    rw [List.find?_eq_none]
    intro c member called
    obtain ⟨s, declared, read⟩ := exists_of_mem_right related member
    apply undeclared
    rw [← eq_of_beq called, read.name]
    exact List.mem_map_of_mem declared
  rw [Lexer.rulesOf, missing]
  rfl

theorem exists_declared_of_mem (built : t.build P = .ok l) {name : String} {c : Lexer.Rule P}
    (listed : c ∈ l.rulesOf name) : ∃ s ∈ t.states, s.name = name ∧ ∃ r ∈ s.rules, r.ReadAs t.stateNames c := by
  by_cases declared : name ∈ t.stateNames
  · obtain ⟨s, member, rfl⟩ := List.mem_map.mp declared
    exact ⟨s, member, rfl, exists_of_mem_right (readAs_rulesOf built member) listed⟩
  · simp [rulesOf_of_undeclared built declared] at listed

theorem Rule.ReadAs.unique {declared declared' : List String} {r : Rule} {c c' : Lexer.Rule P}
    (read : r.ReadAs declared c) (read' : r.ReadAs declared' c') : c = c' := by
  obtain ⟨_, parsed, text, action, transition⟩ := read
  obtain ⟨_, parsed', text', action', transition'⟩ := read'
  have pattern : c.pattern = c'.pattern := Option.some.inj (parsed.symm.trans parsed')
  cases c
  cases c'
  simp_all

/-- Rules are read alike, whatever states are declared and whatever rules follow. -/
theorem prefix_of_readAs {declared declared' : List String} {rules rules' : List Rule}
    {read read' : List (Lexer.Rule P)} (related : List.Forall₂ (Rule.ReadAs declared) rules read)
    (related' : List.Forall₂ (Rule.ReadAs declared') rules' read') (front : rules <+: rules') : read <+: read' := by
  obtain ⟨more, rfl⟩ := front
  have taken := List.forall₂_take rules.length related'
  rw [List.take_left] at taken
  have itself : List.Forall₂ (· = ·) rules rules := List.forall₂_same.mpr fun _ _ => rfl
  have same : List.Forall₂ (· = ·) read (read'.take rules.length) := by
    refine forall₂_of_square itself related taken ?_
    rintro r _ c c' rfl here here'
    exact here.unique here'
  rw [List.forall₂_eq_eq_eq] at same
  exact same ▸ List.take_prefix ..

theorem prefix_rulesOf (built : t.build P = .ok l) (built' : t'.build P = .ok l') {s s' : State}
    (declared : s ∈ t.states) (declared' : s' ∈ t'.states) (called : s'.name = s.name)
    (front : s.rules <+: s'.rules) : l.rulesOf s.name <+: l'.rulesOf s.name :=
  prefix_of_readAs (readAs_rulesOf built declared) (called ▸ readAs_rulesOf built' declared') front

theorem rulesOf_eq (built : t.build P = .ok l) (built' : t'.build P = .ok l') {s : State} (declared : s ∈ t.states)
    (declared' : s ∈ t'.states) : l'.rulesOf s.name = l.rulesOf s.name := by
  have lengths := (readAs_rulesOf built declared).length_eq
  have lengths' := (readAs_rulesOf built' declared').length_eq
  exact ((prefix_rulesOf built built' declared declared' rfl List.prefix_rfl).eq_of_length (by omega)).symm

/-! ### States that the root reaches -/

/-- A rule of one state enters the other. -/
def Enters (t : Table) (name next : String) : Prop :=
  ∃ s ∈ t.states, s.name = name ∧ ∃ r ∈ s.rules, r.transition = some (.push next)

/-- The root is the state, or leads to it by the targets of rules. -/
def Reachable (t : Table) (name : String) : Prop := Relation.ReflTransGen t.Enters rootName name

/-- Both tables declare every state that the root of the first reaches, with the same rules. -/
def SharesReachable (t t' : Table) : Prop :=
  ∀ name, t.Reachable name → ∃ rules, ⟨name, rules⟩ ∈ t.states ∧ ⟨name, rules⟩ ∈ t'.states

/-- If some names hold the root and the targets of all states that they name, they hold all that the root reaches. -/
theorem Reachable.mem_of_closed {names : List String} (root : rootName ∈ names)
    (closed : ∀ s ∈ t.states, s.name ∈ names → ∀ r ∈ s.rules, ∀ next, r.transition = some (.push next) → next ∈ names)
    {name : String} (reachable : t.Reachable name) : name ∈ names := by
  induction reachable with
  | refl => exact root
  | tail _ enters ih =>
    obtain ⟨s, declared, rfl, r, listed, transition⟩ := enters
    exact closed s declared ih r listed _ transition

theorem Reachable.declared (accepted : t.Accepted P) {name : String} (reachable : t.Reachable name) :
    ∃ s ∈ t.states, s.name = name := by
  apply List.mem_map.mp
  apply reachable.mem_of_closed accepted.root
  intro s declared _ r listed next transition
  exact accepted.targets s declared r listed next transition

end Table

namespace Lexer
variable {t t' : Table} {l l' : Lexer P}

theorem Stack.mem_follow {transition : Option Transition} {stack : Stack} {name : String}
    (member : name ∈ (stack.follow transition).names) : name ∈ stack.names ∨ transition = some (.push name) := by
  rcases transition with _ | ⟨next⟩ | _
  · exact .inl member
  · rcases List.mem_cons.mp member with rfl | below
    · exact .inr rfl
    · exact .inl below
  · rcases stack with ⟨top, _ | ⟨below, others⟩⟩
    · exact .inl member
    · exact .inl (List.mem_cons_of_mem _ member)

/-- A scan only ever enters states that the root reaches. -/
theorem reachable_of_reaches (built : t.build P = .ok l) {src : List Char} {point : Point}
    (reaches : l.Reaches src point) : ∀ name ∈ point.stack.names, t.Reachable name := by
  induction reaches with
  | refl =>
    intro name member
    obtain rfl : name = Table.rootName := List.mem_singleton.mp member
    exact .refl
  | tail _ advances ih =>
    cases advances with
    | skip more unmatched => exact ih
    | @hit stack place hit more first some =>
      intro name member
      rcases Stack.mem_follow member with before | enters
      · exact ih name before
      · obtain ⟨s, declared, called, r, listed, read⟩ :=
          Table.exists_declared_of_mem built (List.mem_of_getElem? first.listed)
        have top := ih stack.top List.mem_cons_self
        exact top.tail ⟨s, declared, called, r, listed, read.transition ▸ enters⟩

theorem agreesOn_of_sharesReachable (built : t.build P = .ok l) (built' : t'.build P = .ok l')
    (shares : t.SharesReachable t') (src : List Char) : l.AgreesOn l' src := by
  intro point reaches more
  obtain ⟨rules, declared, declared'⟩ := shares _ (reachable_of_reaches built reaches _ List.mem_cons_self)
  rw [Table.rulesOf_eq built built' declared declared']

end Lexer

/-- What differs in the order of the states, in added ones and in removed ones that the root does not reach, shares the
    states that it reaches: these lead to each other only. -/
theorem Table.sharesReachable_of_perm {t t' : Table} (accepted : t.Accepted P) {added removed : List Table.State}
    (moved : (t.states ++ added).Perm (t'.states ++ removed)) (unreached : ∀ s ∈ removed, ¬ t.Reachable s.name) :
    t.SharesReachable t' := by
  intro name reachable
  obtain ⟨s, declared, rfl⟩ := reachable.declared accepted
  refine ⟨s.rules, declared, ?_⟩
  rcases List.mem_append.mp (moved.mem_iff.mp (List.mem_append_left added declared)) with kept | gone
  · exact kept
  · exact absurd reachable (unreached s gone)

namespace Lexer

/-- If two tables declare the states that the root of the first reaches with the same rules, their lexers give the same
    result for every source; so it does not matter in what order states are declared, nor which states there are that
    the root does not reach. -/
theorem lex_of_sharesReachable [LawfulEngine P] {t t' : Table} {l l' : Lexer P} (built : t.build P = .ok l)
    (built' : t'.build P = .ok l') (tag : t'.language.tag = t.language.tag) :
    (t.SharesReachable t' → ∀ src, l'.lex src = l.lex src) ∧
      ∀ added removed, (t.states ++ added).Perm (t'.states ++ removed) →
        (∀ s ∈ removed, ¬ t.Reachable s.name) → ∀ src, l'.lex src = l.lex src := by
  have same : t.SharesReachable t' → ∀ src, l'.lex src = l.lex src := by
    intro shares src
    exact lex_eq_of_agreesOn built built' tag (agreesOn_of_sharesReachable built built' shares src.toList)
  refine ⟨same, fun added removed moved unreached => same ?_⟩
  exact Table.sharesReachable_of_perm (Table.accepted_of_build built) moved unreached

end Lexer

/-- A state that nothing but itself enters. -/
def Table.lost : Table.State := ⟨"lost", [⟨".*", .emit .name, some (.push "lost")⟩]⟩

/-- Nested comments with their states the other way round, behind a lost one. -/
def Table.nestedCommentsMoved : Table where
  language := ⟨"nested", ["comments"], "Comments, moved", "", ["*.nest"]⟩
  states := lost :: nestedComments.states.reverse

namespace Lexer

theorem lex_nestedCommentsMoved : ∃ l l', Table.nestedComments.build = .ok l ∧
    Table.nestedCommentsMoved.build = .ok l' ∧ Table.nestedComments.SharesReachable .nestedCommentsMoved ∧
    l'.root ≠ l.root ∧ l'.lex "é" = l.lex "é" ∧ l'.lex "(*é*)*)" = l.lex "(*é*)*)" ∧ l.lex "(*é*)*)" =
      .ok [⟨.commentBlock, "(*", 0, 2⟩, ⟨.plainText, "é", 2, 4⟩, ⟨.commentBlock, "*)", 4, 6⟩, ⟨.plainText, "*)", 6, 8⟩] := by
  obtain ⟨l, built, lexed, l', built', moved⟩ : ∃ l, Table.nestedComments.build = .ok l ∧ l.lex "(*é*)*)" =
      .ok [⟨.commentBlock, "(*", 0, 2⟩, ⟨.plainText, "é", 2, 4⟩, ⟨.commentBlock, "*)", 4, 6⟩, ⟨.plainText, "*)", 6, 8⟩] ∧
      ∃ l', Table.nestedCommentsMoved.build = .ok l' ∧ l'.root ≠ l.root :=
    ⟨_, rfl, by decide +kernel, _, rfl, by decide⟩
  have order : (Table.nestedComments.states ++ [Table.lost]).Perm (Table.nestedCommentsMoved.states ++ []) := by
    rw [List.append_nil]
    exact List.perm_append_comm.trans (.cons _ (List.reverse_perm _).symm)
  have shares := Table.sharesReachable_of_perm (Table.accepted_of_build built) order (by simp)
  obtain ⟨shared, reordered⟩ := lex_of_sharesReachable built built' rfl
  exact ⟨l, l', built, built', shares, moved, shared shares _, reordered _ _ order (by simp) _, lexed⟩

end Lexer

/-! ### Rules behind others -/

/-- Every state of a table is one of the other, there perhaps with more rules behind its own. -/
def Table.ExtendedBy (t t' : Table) : Prop :=
  ∀ s ∈ t.states, ∃ s' ∈ t'.states, s'.name = s.name ∧ s.rules <+: s'.rules

namespace Lexer

/-- The scan of a source never is before a character that no rule of its state matches. -/
def Covers (l : Lexer P) (src : List Char) : Prop :=
  ∀ point, l.Reaches src point → point.place < src.length →
    ∃ r ∈ l.rulesOf point.stack.top, (r.matchAt? src point.place).isSome

theorem IsFirst.append {rules rules' : List (Rule P)} {src : List Char} {place : Nat} {hit : Hit P}
    (first : IsFirst rules src place hit) (front : rules <+: rules') : IsFirst rules' src place hit := by
  obtain ⟨more, rfl⟩ := front
  obtain ⟨listed, matched, earlier⟩ := first
  obtain ⟨inside, _⟩ := List.getElem?_eq_some_iff.mp listed
  refine ⟨?_, matched, ?_⟩
  · rwa [List.getElem?_append_left inside]
  · rwa [List.take_append_of_le_length (Nat.le_of_lt inside)]

theorem map_eq_ok_iff {α β ε : Type} {f : α → β} {x : Except ε α} {b : β} :
    x.map f = .ok b ↔ ∃ a, x = .ok a ∧ f a = b := by
  cases x <;> simp [Except.map]

section
variable {l : Lexer P} {src : List Char} {start point : Point}

/-- The first pass meets the same events from every point that the scan gets to. -/
theorem exists_suffix_of_reaches (reaches : Relation.ReflTransGen (l.Advances src) start point) {events : List (Event P)}
    (met : l.replay List.head? src start.stack start.place = .ok events) :
    ∃ later, l.replay List.head? src point.stack point.place = .ok later ∧ later <:+ events := by
  induction reaches with
  | refl => exact ⟨events, met, List.suffix_rfl⟩
  | @tail point next _ advances ih =>
    obtain ⟨later, replayed, behind⟩ := ih
    obtain ⟨event, same⟩ := replay_of_advances advances
    rw [same] at replayed
    obtain ⟨others, rest, rfl⟩ := map_eq_ok_iff.mp replayed
    exact ⟨others, rest, (List.suffix_cons event others).trans behind⟩

/-- A source is covered if none of the tokens found in it is plain text. -/
theorem covers_of_lex [LawfulEngine P] (well : l.WellFormed) {src : String} {tokens : List Token}
    (lexed : l.lex src = .ok tokens) (coloured : ∀ t ∈ tokens, t.category ≠ .plainText) : l.Covers src.toList := by
  intro point reaches more
  rw [lex_eq_replay well] at lexed
  obtain ⟨events, met, rfl⟩ := map_eq_ok_iff.mp lexed
  obtain ⟨later, replayed, behind⟩ := exists_suffix_of_reaches reaches met
  by_contra unmatched
  have noHit : (hitsAt (l.rulesOf point.stack.top) src.toList point.place).head? = none := by
    rw [head?_hitsAt_eq_none_iff]
    intro r listed
    by_contra matched
    exact unmatched ⟨r, listed, Option.isSome_iff_ne_none.mpr matched⟩
  -- The character here would have been skipped, and a token of plain text holds what is skipped.
  rw [replay_of_none (Nat.not_le.mpr more) noHit] at replayed
  obtain ⟨others, rest, rfl⟩ := map_eq_ok_iff.mp replayed
  obtain ⟨t, member, plain⟩ := exists_plainText_of_skip (behind.subset List.mem_cons_self)
  exact coloured t member plain

end

section
variable {t t' : Table} {l l' : Lexer P}

theorem agreesOn_of_extendedBy (built : t.build P = .ok l) (built' : t'.build P = .ok l') (extended : t.ExtendedBy t')
    {src : List Char} (covered : l.Covers src) : l.AgreesOn l' src := by
  intro point reaches more
  obtain ⟨r, listed, matched⟩ := covered point reaches more
  cases found : (hitsAt (l.rulesOf point.stack.top) src point.place).head? with
  | none => simp [head?_hitsAt_eq_none_iff.mp found r listed] at matched
  | some hit =>
    obtain ⟨s, declared, called, _⟩ := Table.exists_declared_of_mem built listed
    obtain ⟨s', declared', called', front⟩ := extended s declared
    have behind := Table.prefix_rulesOf built built' declared declared' called' front
    rw [called] at behind
    exact head?_hitsAt_eq_some_iff.mpr ((head?_hitsAt_eq_some_iff.mp found).append behind)

/-- Rules behind those of a table and further states change no result for a source in which the rules of the table
    leave no character unmatched, whether its scan ends or fails. -/
theorem lex_of_extendedBy [LawfulEngine P] (built : t.build P = .ok l) (built' : t'.build P = .ok l')
    (tag : t'.language.tag = t.language.tag) (extended : t.ExtendedBy t') {src : String}
    (covered : l.Covers src.toList) : l'.lex src = l.lex src :=
  lex_eq_of_agreesOn built built' tag (agreesOn_of_extendedBy built built' extended covered)

end

end Lexer

/-- Nested comments with a rule behind those of each state: one that matches anything, one that also matches nothing and
    enters a further state. -/
def Table.nestedCommentsExtended : Table where
  language := nestedComments.language
  states :=
    [⟨"word", [⟨"[a-z]+", .emit .name, some .pop⟩]⟩,
      ⟨"inside",
        [⟨"\\(\\*", .emit .commentBlock, some (.push "inside")⟩, ⟨"\\*\\)", .emit .commentBlock, some .pop⟩,
          ⟨"é?", .emit .name, some (.push "word")⟩]⟩,
      ⟨"root", [⟨"\\(\\*", .emit .commentBlock, some (.push "inside")⟩, ⟨".*", .emit .string, none⟩]⟩]

namespace Lexer

theorem lex_nestedCommentsExtended : ∃ l l', Table.nestedComments.build = .ok l ∧
    Table.nestedCommentsExtended.build = .ok l' ∧ Table.nestedComments.ExtendedBy .nestedCommentsExtended ∧
    l.Covers "(*(**)*)".toList ∧ l'.lex "(*(**)*)" = l.lex "(*(**)*)" ∧ l'.lex "(*a*)" ≠ l.lex "(*a*)" := by
  obtain ⟨l, built, lexed, l', built', other⟩ : ∃ l, Table.nestedComments.build = .ok l ∧
      l.lex "(*(**)*)" = .ok [⟨.commentBlock, "(*", 0, 2⟩, ⟨.commentBlock, "(*", 2, 4⟩, ⟨.commentBlock, "*)", 4, 6⟩,
        ⟨.commentBlock, "*)", 6, 8⟩] ∧
      ∃ l', Table.nestedCommentsExtended.build = .ok l' ∧ l'.lex "(*a*)" ≠ l.lex "(*a*)" :=
    ⟨_, rfl, by decide +kernel, _, rfl, by decide +kernel⟩
  have extended : Table.nestedComments.ExtendedBy .nestedCommentsExtended := by
    intro s declared
    rcases List.mem_cons.mp declared with rfl | later
    · exact ⟨_, List.mem_of_getElem? (i := 2) rfl, rfl, ⟨_, rfl⟩⟩
    · obtain rfl := List.mem_singleton.mp later
      exact ⟨_, List.mem_of_getElem? (i := 1) rfl, rfl, ⟨_, rfl⟩⟩
  have covered : l.Covers "(*(**)*)".toList := covers_of_lex (wellFormed_of_build built) lexed (by simp)
  exact ⟨l, l', built, built', extended, covered, lex_of_extendedBy built built' rfl extended covered, other⟩

end Lexer

end Highlighter
