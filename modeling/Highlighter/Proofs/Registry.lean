import Highlighter.Proofs.Lexer.Origins
import Highlighter.Registry

/-!
The registered languages never fail. Their tables are sound (`sound_of_mem_tables`), whatever names are listed
for the GameMaker runtime, so the registry can be built for every listing and it finds tokens in every source
of every language.
-/

namespace Highlighter

namespace Registry

/-- The listed names decide only what a word is. -/
theorem bare_tables (listing other : Listing) :
    (tables listing).map Table.bare = (tables other).map Table.bare := rfl

theorem sound_tables_empty : ∀ t ∈ Plain.table :: tables .empty, t.sound = true := by decide +kernel

theorem sound_of_mem_tables {listing : Listing} {t : Table} (member : t ∈ tables listing) : t.sound = true := by
  have listed : t.bare ∈ (tables listing).map Table.bare := List.mem_map_of_mem member
  rw [bare_tables listing .empty] at listed
  obtain ⟨u, known, same⟩ := List.mem_map.mp listed
  rw [← Table.sound_bare, ← same, Table.sound_bare]
  exact sound_tables_empty u (List.mem_cons_of_mem _ known)

theorem buildAll_eq_ok_iff (tables : List Table) : ∀ lexers,
    buildAll tables = .ok lexers ↔ List.Forall₂ (fun t l => t.build = .ok l) tables lexers := by
  induction tables with
  | nil => intro lexers; simp [buildAll, eq_comm]
  | cons t tables ih =>
    intro lexers
    rw [buildAll]
    constructor
    · intro built
      cases first : t.build with
      | error e => rw [first] at built; contradiction
      | ok l =>
        rw [first] at built
        cases others : buildAll tables with
        | error e => simp only [others] at built; contradiction
        | ok later =>
          simp only [others] at built
          rw [← Except.ok.inj built]
          exact .cons first ((ih later).mp others)
    · intro related
      cases related with
      | @cons _ l _ later first others =>
        rw [first]
        simp only
        rw [(ih later).mpr others]
        rfl

/-- A registry has the lexers of all tables, and that of plain text besides. -/
theorem ofListing_eq_ok_iff (listing : Listing) (r : Registry) :
    ofListing listing = .ok r ↔
      buildAll (tables listing) = .ok r.lexers ∧ Plain.table.build = .ok r.plain := by
  unfold ofListing
  generalize buildAll (tables listing) = all
  generalize Plain.table.build = one
  constructor
  · intro built
    split at built
    · rw [← Except.ok.inj built]
      exact ⟨rfl, rfl⟩
    · contradiction
    · contradiction
  · rintro ⟨rfl, rfl⟩
    rfl

/-- The table of the language that answers to a name, or that of plain text. -/
def tableFor (listing : Listing) (name : String) : Table :=
  ((tables listing).find? (·.language.answersTo name)).getD Plain.table

theorem tableFor_mem (listing : Listing) (name : String) : tableFor listing name ∈ Plain.table :: tables listing := by
  rw [tableFor]
  cases found : (tables listing).find? (·.language.answersTo name) with
  | none => exact List.mem_cons_self
  | some t => exact List.mem_cons_of_mem _ (List.mem_of_find?_eq_some found)

theorem sound_tableFor (listing : Listing) (name : String) : (tableFor listing name).sound = true := by
  rcases List.mem_cons.mp (tableFor_mem listing name) with plain | listed
  · rw [plain]
    exact sound_tables_empty _ List.mem_cons_self
  · exact sound_of_mem_tables listed

theorem build_getD_find? {tables : List Table} {lexers : List Lexer} {plain : Table} {plainLexer : Lexer}
    (related : List.Forall₂ (fun t l => t.build = .ok l) tables lexers) (built : plain.build = .ok plainLexer)
    (name : String) : ((tables.find? (·.language.answersTo name)).getD plain).build =
      .ok ((lexers.find? (·.language.answersTo name)).getD plainLexer) := by
  induction related with
  | nil => exact built
  | @cons t l tables lexers first later ih =>
    have own : l.language = t.language := ((Table.build_eq_ok_iff t l).mp first).2.2.1
    rw [List.find?_cons, List.find?_cons, own]
    cases t.language.answersTo name with
    | true => exact first
    | false => exact ih

/-- The lexer that answers to a name is made of the table that answers to it. -/
theorem build_tableFor {listing : Listing} {r : Registry} (built : ofListing listing = .ok r) (name : String) :
    (tableFor listing name).build = .ok (r.findOrPlain name) := by
  obtain ⟨all, plain⟩ := (ofListing_eq_ok_iff listing r).mp built
  exact build_getD_find? ((buildAll_eq_ok_iff _ _).mp all) plain name

theorem lex_eq_of_tableFor {listing : Listing} {r : Registry} (built : ofListing listing = .ok r) {name src : String}
    {result : Except LexError (List Token)}
    (found : (tableFor listing name).build.toOption.map (·.lex src) = some result) : r.lex name src = result := by
  rw [build_tableFor built name] at found
  exact Option.some.inj found

theorem exists_ofListing (listing : Listing) : ∃ r, ofListing listing = .ok r ∧
    ∀ l ∈ r.plain :: r.lexers, l.Productive := by
  obtain ⟨lexers, built, productive⟩ :=
    exists_forall₂ fun t (member : t ∈ tables listing) => Table.build_total (sound_of_mem_tables member)
  obtain ⟨plain, builtPlain, productivePlain⟩ := Table.build_total (sound_tables_empty _ List.mem_cons_self)
  refine ⟨⟨lexers, plain⟩, ?_, List.forall_mem_cons.mpr ⟨productivePlain, productive⟩⟩
  exact (ofListing_eq_ok_iff listing _).mpr ⟨(buildAll_eq_ok_iff _ lexers).mpr built, builtPlain⟩

theorem exists_lex {listing : Listing} {r : Registry} (built : ofListing listing = .ok r) (name src : String) :
    ∃ tokens, r.lex name src = .ok tokens := by
  obtain ⟨l, made, productive⟩ := Table.build_total (sound_tableFor listing name)
  rw [lex, Except.ok.inj ((build_tableFor built name).symm.trans made)]
  exact Lexer.lex_total productive src

/-- What holds of all that a language's rules make holds of every token of every source in the language. -/
theorem everyToken_of_tableFor {listing : Listing} {r : Registry} (built : ofListing listing = .ok r) {name : String}
    {language : Language} {rules : List Table.Rule} (table : tableFor listing name = .single language rules)
    (still : ∀ r ∈ rules, r.transition = none) {P : String → Token → String → Prop}
    (each : ∀ front t back, MadeBy (Table.readings rules) front.toList.getLast? back.toList t → P front t back) :
    (r.findOrPlain name).EveryToken P := by
  have made := build_tableFor built name
  have sound := sound_tableFor listing name
  rw [table] at made sound
  exact Lexer.everyToken sound made still each

/-- Whatever names are listed, the registry can be built, no rule of its lexers ever matches the empty text,
    and it finds tokens in every source under every name. -/
theorem lex_total_of_listing (listing : Listing) : ∃ r, ofListing listing = .ok r ∧
    (∀ l ∈ r.plain :: r.lexers, l.Productive) ∧ ∀ name src, ∃ tokens, r.lex name src = .ok tokens := by
  obtain ⟨r, built, productive⟩ := exists_ofListing listing
  exact ⟨r, built, productive, exists_lex built⟩

end Registry

end Highlighter
