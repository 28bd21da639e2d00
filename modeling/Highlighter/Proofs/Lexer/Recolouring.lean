import Highlighter.Proofs.Lexer.Cuts

/-!
What the actions of rules decide: the categories of tokens and nothing else. Two tables that differ only in what their
rules make of some texts (`Table.AlikeOn`) make lexers whose scans go the same way step by step (`AlikeOn.step`). So
their tokens have the same texts and places, the texts on which the rules agree have the same categories, and where
one scan fails the other fails alike (`AlikeOn.lex`).
-/

namespace Highlighter

section
variable {P : Type} (agree : String → Prop)

/-- Two tokens of one text at one place, which have one category if the text is one to agree on. -/
structure Token.AlikeOn (t t' : Token) : Prop where
  text : t'.text = t.text
  start : t'.start = t.start
  stop : t'.stop = t.stop
  category : agree t.text → t'.category = t.category

-- The rules of two tables or lexers, and all that is made of them, are alike if they differ only in the categories that
-- they give to texts on which they need not agree.

structure Table.Rule.AlikeOn (r r' : Table.Rule) : Prop where
  pattern : r'.pattern = r.pattern
  transition : r'.transition = r.transition
  category : ∀ text, agree text → r'.action.resolve text = r.action.resolve text

structure Table.State.AlikeOn (s s' : Table.State) : Prop where
  name : s'.name = s.name
  rules : List.Forall₂ (Table.Rule.AlikeOn agree) s.rules s'.rules

/-- Two tables whose states have the same names, and rules that differ only in what they make of texts that are not to
    agree on. Their languages may differ. -/
def Table.AlikeOn (t t' : Table) : Prop := List.Forall₂ (Table.State.AlikeOn agree) t.states t'.states

namespace Lexer

structure Rule.AlikeOn (r r' : Rule P) : Prop where
  text : r'.text = r.text
  pattern : r'.pattern = r.pattern
  transition : r'.transition = r.transition
  category : ∀ text, agree text → r'.action.resolve text = r.action.resolve text

structure State.AlikeOn (s s' : State P) : Prop where
  name : s'.name = s.name
  rules : List.Forall₂ (Rule.AlikeOn agree) s.rules s'.rules

end Lexer

/-- Two lexers with such states, which start in the same of them. -/
structure Lexer.AlikeOn (l l' : Lexer P) : Prop where
  states : List.Forall₂ (Lexer.State.AlikeOn agree) l.states l'.states
  root : l'.root = l.root

/-- Two scans that differ only in the categories of tokens whose text is not to agree on. -/
structure Scan.AlikeOn (s s' : Scan) : Prop where
  before : s'.before = s.before
  rest : s'.rest = s.rest
  offset : s'.offset = s.offset
  stack : s'.stack = s.stack
  unmatched : s'.unmatched = s.unmatched
  tokens : List.Forall₂ (Token.AlikeOn agree) s.tokens s'.tokens

structure Lexer.Hit.AlikeOn (hit hit' : Lexer.Hit P) : Prop where
  index : hit'.index = hit.index
  rule : Lexer.Rule.AlikeOn agree hit.rule hit'.rule
  length : hit'.length = hit.length

end

variable {P : Type} {agree : String → Prop}

theorem Token.AlikeOn.eq {t t' : Token} (alike : t.AlikeOn agree t') (here : agree t.text) : t' = t := by
  cases t
  cases t'
  rw [Token.mk.injEq]
  exact ⟨alike.category here, alike.text, alike.start, alike.stop⟩

/-! ### Tables that are alike -/

theorem Table.Rule.AlikeOn.refl (r : Table.Rule) : r.AlikeOn agree r := ⟨rfl, rfl, fun _ _ => rfl⟩

theorem Table.AlikeOn.refl (t : Table) : t.AlikeOn agree t :=
  List.forall₂_same.mpr fun _ _ => ⟨rfl, List.forall₂_same.mpr fun r _ => .refl r⟩

theorem Lexer.Rule.alikeOn_of_readAs [Engine P] {declared declared' : List String} {r r' : Table.Rule}
    {c c' : Lexer.Rule P} (alike : r.AlikeOn agree r') (read : r.ReadAs declared c)
    (read' : r'.ReadAs declared' c') : c.AlikeOn agree c' where
  text := by rw [read.text, read'.text, alike.pattern]
  pattern := Option.some.inj (by rw [← read.pattern, ← read'.pattern, alike.pattern])
  transition := by rw [read.transition, read'.transition, alike.transition]
  category := by
    rw [read.action, read'.action]
    exact alike.category

theorem Lexer.State.alikeOn_of_readAs [Engine P] {declared declared' : List String} {s s' : Table.State}
    {c c' : Lexer.State P} (alike : s.AlikeOn agree s') (read : s.ReadAs declared c)
    (read' : s'.ReadAs declared' c') : c.AlikeOn agree c' where
  name := by rw [read.name, read'.name, alike.name]
  rules := forall₂_of_square alike.rules read.rules read'.rules fun _ _ _ _ => Lexer.Rule.alikeOn_of_readAs

theorem Table.AlikeOn.stateNames {t t' : Table} (alike : t.AlikeOn agree t') : t'.stateNames = t.stateNames :=
  map_eq_of_forall₂ alike fun _ _ => Table.State.AlikeOn.name

/-- Tables that are alike make lexers that are alike. -/
theorem Table.AlikeOn.build [Engine P] {t t' : Table} {l l' : Lexer P} (alike : t.AlikeOn agree t')
    (built : t.build P = .ok l) (built' : t'.build P = .ok l') : l.AlikeOn agree l' := by
  obtain ⟨_, rooted, _, read⟩ := (Table.build_eq_ok_iff t l).mp built
  obtain ⟨_, rooted', _, read'⟩ := (Table.build_eq_ok_iff t' l').mp built'
  rw [alike.stateNames, rooted] at rooted'
  refine ⟨?_, (Option.some.inj rooted').symm⟩
  exact forall₂_of_square alike read read' fun _ _ _ _ => Lexer.State.alikeOn_of_readAs

/-! ### Scans that are alike -/

namespace Scan
variable {s s' : Scan}

theorem AlikeOn.start (agree : String → Prop) (root : Nat) (src : List Char) :
    (start root src).AlikeOn agree (start root src) := ⟨rfl, rfl, rfl, rfl, rfl, .nil⟩

theorem AlikeOn.flushed (alike : s.AlikeOn agree s') :
    List.Forall₂ (Token.AlikeOn agree) s.flushed s'.flushed := by
  rw [Scan.flushed, Scan.flushed, alike.unmatched]
  cases s.unmatched with
  | none => exact alike.tokens
  | some run => exact .cons ⟨rfl, rfl, rfl, fun _ => rfl⟩ alike.tokens

theorem AlikeOn.skip (alike : s.AlikeOn agree s') (c : Char) (rest : List Char) :
    (s.skip c rest).AlikeOn agree (s'.skip c rest) := by
  refine ⟨rfl, rfl, ?_, alike.stack, ?_, alike.tokens⟩
  · simp only [Scan.skip, alike.offset]
  · simp only [Scan.skip, alike.offset, alike.unmatched]

end Scan

namespace Lexer
variable {l l' : Lexer P} {s s' : Scan}

theorem AlikeOn.names (alike : l.AlikeOn agree l') : l'.states.map (·.name) = l.states.map (·.name) :=
  map_eq_of_forall₂ alike.states fun _ _ => State.AlikeOn.name

theorem AlikeOn.stateAt (alike : l.AlikeOn agree l') (index : Nat) :
    (l.stateAt index).AlikeOn agree (l'.stateAt index) := by
  have length := alike.states.length_eq
  rw [Lexer.stateAt, Lexer.stateAt]
  by_cases inside : index < l.states.length
  · rw [List.getElem?_eq_getElem inside, List.getElem?_eq_getElem (length ▸ inside)]
    exact alike.states.get inside (length ▸ inside)
  · rw [List.getElem?_eq_none (by omega), List.getElem?_eq_none (by omega)]
    exact ⟨rfl, .nil⟩

theorem AlikeOn.current (alike : l.AlikeOn agree l') (same : s.AlikeOn agree s') :
    (l.current s).AlikeOn agree (l'.current s') := by
  rw [Lexer.current, Lexer.current, same.stack, alike.root]
  exact alike.stateAt _

theorem AlikeOn.move (alike : l.AlikeOn agree l') (transition : Option Transition) (stack : List Nat) :
    l'.move transition stack = l.move transition stack := by
  rcases transition with _ | ⟨name⟩ | _
  · rfl
  · rw [Lexer.move, Lexer.move, stateIndex?, stateIndex?, alike.names]
  · rcases stack with _ | ⟨top, _ | ⟨below, others⟩⟩ <;> rfl

theorem AlikeOn.accept (alike : l.AlikeOn agree l') (same : s.AlikeOn agree s') {hit hit' : Hit P}
    (hits : hit.AlikeOn agree hit') : (l.accept s hit).AlikeOn agree (l'.accept s' hit') := by
  refine ⟨?_, ?_, ?_, ?_, rfl, ?_⟩
  · simp only [Lexer.accept, same.before, same.rest, hits.length]
  · simp only [Lexer.accept, same.rest, hits.length]
  · simp only [Lexer.accept, Token.ofChars, same.rest, same.offset, hits.length]
  · simp only [Lexer.accept, hits.rule.transition, same.stack, alike.move]
  · simp only [Lexer.accept]
    refine .cons ?_ same.flushed
    rw [hits.length, same.rest, same.offset]
    exact ⟨rfl, rfl, rfl, hits.rule.category _⟩

end Lexer

/-! ### Results that are alike -/

/-- Two stalls of lexers with the given tags, alike but for these. -/
structure Stall.AlikeIn (tag tag' : String) (e e' : Stall) : Prop where
  lexer : e.lexer = tag
  same : e' = { e with lexer := tag' }

/-- Two errors of lexers with the given tags for one source, alike but for these. -/
structure LexError.AlikeIn (tag tag' : String) (e e' : LexError) : Prop where
  stall : e.toStall.AlikeIn tag tag' e'.toStall
  source : e'.source = e.source

theorem LexError.AlikeIn.eq {tag : String} {e e' : LexError} (alike : e.AlikeIn tag tag e') : e' = e := by
  obtain ⟨⟨rfl, same⟩, source⟩ := alike
  cases e
  cases e'
  simp_all

/-- Two results: errors that are related in one way, or values that are related in another. -/
inductive Alike {α β ε : Type} (E : ε → ε → Prop) (R : α → β → Prop) : Except ε α → Except ε β → Prop where
  | error {e e' : ε} (related : E e e') : Alike E R (.error e) (.error e')
  | ok {a : α} {b : β} (related : R a b) : Alike E R (.ok a) (.ok b)

namespace Lexer
variable [Engine P] {l l' : Lexer P} {s s' : Scan}

/-- Of rules that differ only in what they make of some texts, the same is the first to match. -/
theorem firstHit?_alike {rules rules' : List (Rule P)} (alike : List.Forall₂ (Rule.AlikeOn agree) rules rules')
    (before : Option Char) (rest : List Char) : ∀ index,
      Option.Rel (Hit.AlikeOn agree) (firstHit? before rest index rules) (firstHit? before rest index rules') := by
  induction alike with
  | nil => exact fun _ => .none
  | @cons r r' rules rules' first others ih =>
    intro index
    rw [firstHit?, firstHit?, first.pattern]
    cases Engine.matchLength? r.pattern before rest with
    | none => exact ih (index + 1)
    | some length => exact .some ⟨rfl, first, rfl⟩

/-- Scans that are alike take steps that are alike. -/
theorem AlikeOn.step (alike : l.AlikeOn agree l') (same : s.AlikeOn agree s') :
    Alike (Stall.AlikeIn l.language.tag l'.language.tag) (Scan.AlikeOn agree) (l.step s) (l'.step s') := by
  have state := alike.current same
  cases left : s.rest with
  | nil =>
    rw [step_of_ended left, step_of_ended (same.rest.trans left)]
    exact .ok same
  | cons c rest =>
    have here := same.rest.trans left
    -- Matching looks at patterns only, so both scans take the same rule and the same length, or none.
    have hits := firstHit?_alike state.rules s.before s.rest 0
    generalize found : firstHit? s.before s.rest 0 (l.current s).rules = hit at hits
    generalize found' : firstHit? s.before s.rest 0 (l'.current s').rules = hit' at hits
    rw [← same.before, ← same.rest] at found'
    cases hits with
    | none =>
      rw [step_of_none left found, step_of_none here found']
      exact .ok (same.skip c rest)
    | @some hit hit' hits =>
      rw [step_of_some (by simp [left]) found, step_of_some (by simp [here]) found', hits.length]
      by_cases stalled : hit.length = 0
      · rw [if_pos stalled, if_pos stalled, state.name, hits.index, hits.rule.text, same.offset]
        exact .error ⟨rfl, rfl⟩
      · rw [if_neg stalled, if_neg stalled]
        exact .ok (alike.accept same hits)

/-- Scans that are alike stay so to their ends. -/
theorem AlikeOn.run (alike : l.AlikeOn agree l') (fuel : Nat) : ∀ {s s' : Scan}, s.AlikeOn agree s' →
    Alike (Stall.AlikeIn l.language.tag l'.language.tag) (Scan.AlikeOn agree) (l.run fuel s) (l'.run fuel s') := by
  induction fuel with
  | zero => exact fun same => .ok same
  | succ fuel ih =>
    intro s s' same
    have steps := alike.step same
    generalize stepped : l.step s = result at steps
    generalize stepped' : l'.step s' = result' at steps
    cases steps with
    | error related =>
      rw [run_of_error stepped, run_of_error stepped']
      exact .error related
    | ok next =>
      rw [run_of_step stepped, run_of_step stepped']
      exact ih next

/-- Lexers that differ only in what their rules make of some texts find tokens of the same texts at the same places,
    with the same categories but for these texts, or fail alike. -/
theorem AlikeOn.lex (alike : l.AlikeOn agree l') (src : String) :
    Alike (LexError.AlikeIn l.language.tag l'.language.tag) (List.Forall₂ (Token.AlikeOn agree)) (l.lex src)
      (l'.lex src) := by
  have ends := alike.run src.toList.length (Scan.AlikeOn.start agree l.root src.toList)
  rw [Lexer.lex, Lexer.lex, alike.root]
  generalize l.run src.toList.length (.start l.root src.toList) = result at ends ⊢
  generalize l'.run src.toList.length (.start l.root src.toList) = result' at ends ⊢
  cases ends with
  | error related => exact .error ⟨related, rfl⟩
  | ok last => exact .ok (List.forall₂_reverse_iff.mpr last.flushed)

end Lexer

/-! ### Lexers that differ in what they make of texts, and in nothing else -/

/-- What a token covers, whatever its category. -/
def Token.extent (t : Token) : String × Nat × Nat := (t.text, t.start, t.stop)

theorem Token.AlikeOn.extent {t t' : Token} (alike : t.AlikeOn agree t') : t'.extent = t.extent := by
  simp [Token.extent, alike.text, alike.start, alike.stop]

theorem forall₂_of_map_eq {α β : Type} {f : α → β} {as bs : List α} (same : bs.map f = as.map f) :
    List.Forall₂ (fun a b => f b = f a) as bs := by
  have equal : List.Forall₂ (fun x y => y = x) (as.map f) (bs.map f) := by
    rw [same]
    exact List.forall₂_same.mpr fun _ _ => rfl
  rwa [List.forall₂_map_left_iff, List.forall₂_map_right_iff] at equal

theorem Table.alikeOn_of_bare {t t' : Table} (same : t'.bare.states = t.bare.states) :
    t.AlikeOn (fun _ => False) t' := by
  refine (forall₂_of_map_eq same).imp fun s s' state => ?_
  simp only [Table.State.mk.injEq] at state
  refine ⟨state.1, (forall₂_of_map_eq state.2).imp fun r r' rule => ?_⟩
  simp only [Rule.bare, Table.Rule.mk.injEq] at rule
  exact ⟨rule.1, rule.2.2, fun _ impossible => impossible.elim⟩

namespace Lexer

/-- Two lexers whose tables are the same but for the actions of their rules find tokens with the same texts at the same
    places in a source, or fail there with the same error. -/
theorem lex_of_bare [Engine P] {t t' : Table} {l l' : Lexer P} (built : t.build P = .ok l)
    (built' : t'.build P = .ok l') (tag : t'.language.tag = t.language.tag)
    (same : t'.bare.states = t.bare.states) (src : String) :
    (∃ tokens tokens', l.lex src = .ok tokens ∧ l'.lex src = .ok tokens' ∧
        tokens'.map Token.extent = tokens.map Token.extent) ∨
      ∃ e, l.lex src = .error e ∧ l'.lex src = .error e := by
  have both := ((Table.alikeOn_of_bare same).build built built').lex src
  rw [Table.tag_of_build built built' tag] at both
  generalize l.lex src = result at both
  generalize l'.lex src = result' at both
  cases both with
  | @error e e' related => exact .inr ⟨e, rfl, congrArg Except.error related.eq⟩
  | @ok tokens tokens' related =>
    exact .inl ⟨tokens, tokens', rfl, rfl, map_eq_of_forall₂ related fun _ _ => Token.AlikeOn.extent⟩

/-- Where every rule makes plain text of what it matches, tokens still do not run together. -/
theorem lex_of_bare_nestedComments : ∃ l l', Table.nestedComments.build = .ok l ∧
    Table.nestedComments.bare.build = .ok l' ∧
    Table.nestedComments.bare.bare.states = Table.nestedComments.bare.states ∧
    ∃ tokens, l.lex "é(*ü*)" = .ok tokens ∧ tokens.map Token.extent =
      [⟨.plainText, "é", 0, 2⟩, ⟨.plainText, "(*", 2, 4⟩, ⟨.plainText, "ü", 4, 6⟩, ⟨.plainText, "*)", 6, 8⟩].map
        Token.extent := by
  obtain ⟨l, built, l', built', lexed⟩ : ∃ l, Table.nestedComments.build = .ok l ∧
      ∃ l', Table.nestedComments.bare.build = .ok l' ∧ l'.lex "é(*ü*)" =
        .ok [⟨.plainText, "é", 0, 2⟩, ⟨.plainText, "(*", 2, 4⟩, ⟨.plainText, "ü", 4, 6⟩, ⟨.plainText, "*)", 6, 8⟩] :=
    ⟨_, rfl, _, rfl, by decide +kernel⟩
  refine ⟨l, l', built, built', rfl, ?_⟩
  rcases lex_of_bare built built' rfl rfl "é(*ü*)" with ⟨tokens, tokens', found, found', same⟩ | ⟨e, _, failed⟩
  · obtain rfl := Except.ok.inj (found'.symm.trans lexed)
    exact ⟨tokens, found, same.symm⟩
  · rw [lexed] at failed
    contradiction

end Lexer

end Highlighter
