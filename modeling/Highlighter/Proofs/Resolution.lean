import Highlighter.Proofs.Path
import Highlighter.Proofs.Registry

/-!
One language for each name and for each file. The names of the registered languages are apart, and so are their globs: no
glob matches another one (`not_both_globMatch`). So at most one lexer answers to a name or takes a file, and the order
in which they are registered decides nothing (`find?_eq_of_perm`).
-/

namespace Highlighter

/-! ### At most one -/

section
variable {α : Type} {p : α → Bool} {l l' : List α}

theorem countP_le_one_of_pairwise (apart : l.Pairwise fun a b => ¬ (p a = true ∧ p b = true)) : l.countP p ≤ 1 := by
  induction apart with
  | nil => exact Nat.zero_le 1
  | @cons a l first later ih =>
    by_cases here : p a = true
    · have none : l.countP p = 0 := List.countP_eq_zero.mpr fun b member there => first b member ⟨here, there⟩
      rw [List.countP_cons_of_pos here, none]
    · rw [List.countP_cons_of_neg here]
      exact ih

/-- Where there is at most one, it is found in every order. -/
theorem find?_eq_of_perm (perm : l'.Perm l) (single : l.countP p ≤ 1) : l'.find? p = l.find? p := by
  have filtered := perm.filter p
  rw [List.countP_eq_length_filter] at single
  rw [← List.head?_filter, ← List.head?_filter]
  cases found : l.filter p with
  | nil => rw [found] at filtered; rw [filtered.eq_nil]
  | cons a more =>
    have only : more = [] := by
      rw [found, List.length_cons] at single
      exact List.length_eq_zero_iff.mp (by omega)
    rw [found, only] at filtered
    rw [filtered.eq_singleton, only]

end

/-! ### Names and globs -/

/-- The names of a language. -/
def Language.names (l : Language) : List String := l.tag :: l.aliases

theorem Language.answersTo_iff (l : Language) (name : String) : l.answersTo name = true ↔ name ∈ l.names := by
  rw [answersTo, names, Bool.or_eq_true, beq_iff_eq, List.contains_iff_mem, List.mem_cons, eq_comm]

/-- A glob matches what ends in a given way, or only itself. -/
theorem globMatches_cases (glob : String) :
    (∃ ending, glob.toList = '*' :: ending ∧ ∀ name, globMatches glob name = true ↔ ending <:+ name.toList) ∨
      ∀ name, globMatches glob name = true ↔ name = glob := by
  unfold globMatches
  split
  next ending star => exact .inl ⟨ending, star, fun name => List.isSuffixOf_iff_suffix⟩
  next => exact .inr fun name => beq_iff_eq

/-- Of two globs that do not match each other, read as names of files, at most one matches a name. -/
theorem not_both_globMatch {g h : String} (first : globMatches g h = false) (second : globMatches h g = false)
    (name : String) : ¬ (globMatches g name = true ∧ globMatches h name = true) := by
  rintro ⟨here, there⟩
  rw [Bool.eq_false_iff] at first second
  rcases globMatches_cases g with ⟨ending, star, ends⟩ | only
  · rcases globMatches_cases h with ⟨ending', star', ends'⟩ | only'
    · -- Two ends of one name: one of them is an end of the other.
      rcases List.suffix_or_suffix_of_suffix ((ends name).mp here) ((ends' name).mp there) with inner | inner
      · exact first ((ends h).mpr (star' ▸ inner.trans (List.suffix_cons '*' ending')))
      · exact second ((ends' g).mpr (star ▸ inner.trans (List.suffix_cons '*' ending)))
    · exact first ((only' name).mp there ▸ here)
  · exact second ((only name).mp here ▸ there)

/-- No name and no file belongs to both languages. -/
structure Language.Apart (l l' : Language) : Prop where
  names : ∀ name ∈ l.names, name ∉ l'.names
  globs : ∀ g ∈ l.filenames, ∀ h ∈ l'.filenames, globMatches g h = false ∧ globMatches h g = false

theorem Language.Apart.answers {l l' : Language} (apart : l.Apart l') (name : String) :
    ¬ (l.answersTo name = true ∧ l'.answersTo name = true) := by
  rw [answersTo_iff, answersTo_iff]
  exact fun ⟨here, there⟩ => apart.names name here there

theorem Language.Apart.files {l l' : Language} (apart : l.Apart l') (name : String) :
    ¬ (l.matchesFilename name = true ∧ l'.matchesFilename name = true) := by
  rw [matchesFilename, matchesFilename, List.any_eq_true, List.any_eq_true]
  rintro ⟨⟨g, own, here⟩, h, other, there⟩
  obtain ⟨first, second⟩ := apart.globs g own h other
  exact not_both_globMatch first second name ⟨here, there⟩

namespace Registry

/-- The registered languages, in order. -/
def languages : List Language :=
  [Cosy.language, Gml.language, Gml.extendedLanguage, Catspeak.language, KatScript.language]

theorem pairwise_names_languages :
    languages.Pairwise fun l l' => ∀ name ∈ l.names, name ∉ l'.names := by decide +kernel

theorem pairwise_globs_languages :
    languages.Pairwise fun l l' => ∀ g ∈ l.filenames, ∀ h ∈ l'.filenames,
      globMatches g h = false ∧ globMatches h g = false := by decide +kernel

theorem pairwise_languages : languages.Pairwise Language.Apart :=
  (pairwise_names_languages.and pairwise_globs_languages).imp fun ⟨names, globs⟩ => ⟨names, globs⟩

theorem languages_of_ofListing {listing : Listing} {r : Registry} (built : ofListing listing = .ok r) :
    r.lexers.map (·.language) = languages := by
  have related := (buildAll_eq_ok_iff _ _).mp ((ofListing_eq_ok_iff listing r).mp built).1
  have same : r.lexers.map (·.language) = (tables listing).map (·.language) :=
    map_eq_of_forall₂ related fun _ _ made => Table.language_of_build made
  exact same

/-- A test that at most one of two registered languages passes is passed by at most one registered lexer. -/
theorem countP_le_one {listing : Listing} {r : Registry} (built : ofListing listing = .ok r) {p : Language → Bool}
    (apart : ∀ l l' : Language, l.Apart l' → ¬ (p l = true ∧ p l' = true)) :
    r.lexers.countP (fun l => p l.language) ≤ 1 := by
  have counted := countP_le_one_of_pairwise (pairwise_languages.imp (apart _ _))
  rwa [← languages_of_ofListing built, List.countP_map] at counted

/-- At most one registered lexer answers to a name, and at most one takes the files of a name; so what is found for
    either is the same in every order of the lexers. And for a file in a directory what is found is what is found for
    the name of the file alone. -/
theorem resolution_unambiguous (listing : Listing) : ∃ r, ofListing listing = .ok r ∧
    (∀ name, r.lexers.countP (·.language.answersTo name) ≤ 1 ∧ r.lexers.countP (·.language.matchesFilename name) ≤ 1) ∧
    (∀ lexers, lexers.Perm r.lexers → ∀ name,
      find? { r with lexers } name = r.find? name ∧ guess? { r with lexers } name = r.guess? name) ∧
    ∀ directory name : String, name ≠ "" → '/' ∉ name.toList → name ≠ "." →
      r.guess? (directory ++ "/" ++ name) = r.guess? name := by
  obtain ⟨r, built, -⟩ := exists_ofListing listing
  have answers (name : String) : r.lexers.countP (·.language.answersTo name) ≤ 1 :=
    countP_le_one built fun _ _ apart => apart.answers name
  have files (name : String) : r.lexers.countP (·.language.matchesFilename name) ≤ 1 :=
    countP_le_one built fun _ _ apart => apart.files name
  refine ⟨r, built, fun name => ⟨answers name, files name⟩, fun lexers perm name => ⟨?_, ?_⟩,
    fun directory name full single some => ?_⟩
  · exact find?_eq_of_perm perm (answers name)
  · rw [guess?, guess?]
    exact congrArg _ (funext fun file => find?_eq_of_perm perm (files file))
  · rw [guess?, guess?, Path.fileName?_below directory full single some]

/-- Registered in the other order, and a script behind names that lead nowhere else. -/
theorem resolution_unambiguous_reversed : ∃ r, ofListing .empty = .ok r ∧
    (find? { r with lexers := r.lexers.reverse } "kats").map (·.language.tag) = some "katscript" ∧
    (guess? { r with lexers := r.lexers.reverse } "demo.kats").map (·.language.tag) = some "katscript" ∧
    (r.guess? ("scripts/..//." ++ "/" ++ "player.gml")).map (·.language.tag) = some "gml" := by
  obtain ⟨r, built, -, orders, directories⟩ := resolution_unambiguous .empty
  obtain ⟨find, _⟩ := orders _ r.lexers.reverse_perm "kats"
  obtain ⟨_, guess⟩ := orders _ r.lexers.reverse_perm "demo.kats"
  have below := directories "scripts/..//." "player.gml" (by decide) (by decide) (by decide)
  have tags : (ofListing .empty).toOption.map (fun r => ((r.find? "kats").map (·.language.tag),
      (r.guess? "demo.kats").map (·.language.tag), (r.guess? "player.gml").map (·.language.tag))) =
        some (some "katscript", some "katscript", some "gml") := by decide +kernel
  rw [built] at tags
  obtain ⟨named, filed⟩ := Prod.mk.inj (Option.some.inj tags)
  obtain ⟨demo, player⟩ := Prod.mk.inj filed
  exact ⟨r, built, find ▸ named, guess ▸ demo, below ▸ player⟩

end Registry

end Highlighter
