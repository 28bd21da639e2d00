import Highlighter.Listing
import Highlighter.Proofs.Listing.Entries
import Mathlib.Data.List.FinRange
import Mathlib.Data.List.OfFn
import Mathlib.Data.List.Perm.Basic
import Mathlib.Data.String.Basic
import Mathlib.Logic.Equiv.Fin.Basic

/-!
Sets of words have one form. Their words stand in ascending order, each once (`Ascending`); a word that is put in keeps
them so (`Ascending.insert`), and two sets of this form that have the same words are the same (`eq_of_ascending`).

Changes to the text of a listing that do not change the listing. A carriage return in front of each line feed belongs to
what follows a name on its line, and marks nothing (`addChars_return`). Of the lines with one name only the first counts,
so lines may change places as long as those with one name stay in order (`findSome?_rearranged`); and as each of the
three sets has one form, a listing is determined by the roles of its names (`eq_of_assigns`).
-/

namespace Highlighter.Vocabulary

/-! ## Vocabularies -/

variable {v u : Vocabulary}

/-- Every word of the set stands in front of all greater ones. -/
def Ascending (v : Vocabulary) : Prop := v.toList.Pairwise (· < ·)

theorem ascending_empty : empty.Ascending := List.Pairwise.nil

theorem pairwise_insertInto {words : List String} (ascending : words.Pairwise (· < ·)) (word : String) :
    (insertInto word words).Pairwise (· < ·) := by
  induction words with
  | nil => exact List.pairwise_singleton _ word
  | cons w words ih =>
    obtain ⟨least, others⟩ := List.pairwise_cons.mp ascending
    rw [insertInto]
    split_ifs with less same
    · refine List.pairwise_cons.mpr ⟨fun x member => ?_, ascending⟩
      rcases List.mem_cons.mp member with rfl | later
      · exact less
      · exact less.trans (least x later)
    · exact ascending
    · have greater : w < word := lt_of_le_of_ne (not_lt.mp less) (Ne.symm same)
      refine List.pairwise_cons.mpr ⟨fun x member => ?_, ih others⟩
      rcases mem_insertInto.mp member with rfl | later
      · exact greater
      · exact least x later

theorem Ascending.insert (ascending : v.Ascending) (word : String) : (v.insert word).Ascending :=
  pairwise_insertInto ascending word

/-- A set in this form is determined by its words. -/
theorem eq_of_ascending (first : v.Ascending) (second : u.Ascending)
    (same : ∀ word, v.contains word = u.contains word) : v = u := by
  have members : ∀ word, word ∈ v.toList ↔ word ∈ u.toList := by
    intro word
    have agree := same word
    rwa [contains, contains, Bool.eq_iff_iff, List.contains_iff_mem, List.contains_iff_mem] at agree
  have perm : v.toList.Perm u.toList :=
    (List.perm_ext_iff_of_nodup (first.imp fun less => less.ne) (second.imp fun less => less.ne)).mpr members
  have equal : v.toList = u.toList :=
    perm.eq_of_pairwise (fun _ _ _ _ less greater => absurd less greater.asymm) first second
  cases v
  cases u
  exact congrArg mk equal

end Highlighter.Vocabulary

/-! ## Listings that are rearranged -/

namespace Highlighter.Listing

/-! ### Listings with the same roles -/

/-- Each of the three sets is in its form. -/
def Ascending (l : Listing) : Prop := ∀ role, (l.namesOf role).Ascending

theorem ascending_empty : empty.Ascending := fun role => by
  cases role <;> exact Vocabulary.ascending_empty

theorem namesOf_add (l : Listing) (name : String) (role role' : Role) : (l.add name role).namesOf role' =
    if l.roleOf? name = none ∧ role' = role then (l.namesOf role').insert name else l.namesOf role' := by
  unfold add
  cases l.roleOf? name with
  | some known => simp
  | none => cases role <;> cases role' <;> rfl

theorem Ascending.add {l : Listing} (ascending : l.Ascending) (name : String) (role : Role) :
    (l.add name role).Ascending := by
  intro role'
  rw [namesOf_add]
  split
  · exact (ascending role').insert name
  · exact ascending role'

theorem Ascending.addChars {l : Listing} (ascending : l.Ascending) (line : List Char) :
    (l.addChars line).Ascending := by
  rw [addChars_eq]
  split
  · exact ascending
  · exact ascending.add _ _

theorem ascending_foldl (lines : List (List Char)) :
    ∀ {l : Listing}, l.Ascending → (lines.foldl Listing.addChars l).Ascending := by
  induction lines with
  | nil => exact fun ascending => ascending
  | cons line lines ih => exact fun ascending => ih (ascending.addChars line)

theorem ascending_parse (text : String) : (parse text).Ascending := by
  rw [parse_eq_foldl]
  exact ascending_foldl (lines text) ascending_empty

theorem eq_of_assigns {l l' : Listing} {roleOf : String → Option Role} (first : l.Ascending) (second : l'.Ascending)
    (assigns : l.Assigns roleOf) (assigns' : l'.Assigns roleOf) : l = l' := by
  have same : ∀ role, l.namesOf role = l'.namesOf role := fun role =>
    Vocabulary.eq_of_ascending (first role) (second role) fun word => by rw [assigns, assigns']
  have constants : l.constants = l'.constants := same .constant
  have deprecated : l.deprecated = l'.deprecated := same .deprecated
  have builtins : l.builtins = l'.builtins := same .builtin
  cases l
  cases l'
  congr

/-- Two texts that have the same first line for every name write the same listing. -/
theorem parse_congr {text text' : String} (same : ∀ name, firstRest? text name = firstRest? text' name) :
    parse text = parse text' := by
  refine eq_of_assigns (ascending_parse text) (ascending_parse text') (assigns_parse text) ?_
  refine (assigns_parse text').congr fun name => ?_
  rw [same]

/-! ### Line ends -/

/-- A character, with a carriage return in front if it is a line feed. -/
def returned (c : Char) : List Char := if c = '\n' then ['\r', '\n'] else [c]

/-- The text with a carriage return in front of every line feed. -/
def withReturns (text : String) : String := String.ofList (text.toList.flatMap returned)

/-- The second line is the first one, or the first one with a carriage return behind it. -/
inductive MayReturn : List Char → List Char → Prop where
  | same (line : List Char) : MayReturn line line
  | returned (line : List Char) : MayReturn line (line ++ ['\r'])

theorem MayReturn.cons {line line' : List Char} (may : MayReturn line line') (c : Char) :
    MayReturn (c :: line) (c :: line') := by
  cases may with
  | same => exact .same (c :: line)
  | returned => exact .returned (c :: line)

theorem MayReturn.modifyHead {ls ls' : List (List Char)} (related : List.Forall₂ MayReturn ls ls') (c : Char) :
    List.Forall₂ MayReturn (ls.modifyHead (c :: ·)) (ls'.modifyHead (c :: ·)) := by
  cases related with
  | nil => exact .nil
  | cons first later => exact .cons (first.cons c) later

theorem mayReturn_splitOn (cs : List Char) :
    List.Forall₂ MayReturn (cs.splitOn '\n') ((cs.flatMap returned).splitOn '\n') := by
  induction cs with
  | nil => exact .cons (.same []) .nil
  | cons c cs ih =>
    rw [List.flatMap_cons, returned, List.splitOn_cons_eq_if_modifyHead]
    by_cases feed : c = '\n'
    · -- The line that ends here has nothing but its carriage return.
      rw [if_pos feed, if_pos (beq_iff_eq.mpr feed)]
      change List.Forall₂ MayReturn _ (List.splitOn '\n' (['\r'] ++ '\n' :: _))
      rw [List.splitOn_append_cons_self_of_not_mem (by decide)]
      exact .cons (.returned []) ih
    · rw [if_neg feed, if_neg (by simpa using feed), List.singleton_append, List.splitOn_cons_eq_if_modifyHead,
        if_neg (by simpa using feed)]
      exact MayReturn.modifyHead ih c

theorem mayReturn_lines (text : String) : List.Forall₂ MayReturn (lines text) (lines (withReturns text)) := by
  rw [lines, lines, withReturns, String.toList_ofList]
  exact mayReturn_splitOn text.toList

/-- A carriage return is no part of a name, and marks nothing. -/
theorem addChars_return (l : Listing) (line : List Char) : l.addChars (line ++ ['\r']) = l.addChars line := by
  have other : isNameChar '\r' = false := by decide
  have name : (line ++ ['\r']).takeWhile isNameChar = line.takeWhile isNameChar := by
    rw [List.takeWhile_append]
    split
    next whole => simp [other, (List.takeWhile_prefix isNameChar).eq_of_length whole]
    next => rfl
  have rest : (line ++ ['\r']).dropWhile isNameChar = line.dropWhile isNameChar ++ ['\r'] := by
    rw [List.dropWhile_append]
    split
    next none => simp [List.isEmpty_iff.mp none, other]
    next => rfl
  have role : Role.ofRest (line.dropWhile isNameChar ++ ['\r']) = .ofRest (line.dropWhile isNameChar) := by
    rw [Role.ofRest_append_singleton, markedBy_of_ne (by decide) (by decide)]
  rw [addChars_eq, addChars_eq, name, rest, role]

theorem MayReturn.addChars {line line' : List Char} (may : MayReturn line line') (l : Listing) :
    l.addChars line' = l.addChars line := by
  cases may with
  | same => rfl
  | returned => exact addChars_return l line

theorem foldl_addChars_congr {ls ls' : List (List Char)} (related : List.Forall₂ MayReturn ls ls') :
    ∀ l : Listing, ls'.foldl Listing.addChars l = ls.foldl Listing.addChars l := by
  induction related with
  | nil => exact fun l => rfl
  | cons first later ih =>
    intro l
    rw [List.foldl_cons, List.foldl_cons, first.addChars, ih]

theorem parse_withReturns (text : String) : parse (withReturns text) = parse text := by
  rw [parse_eq_foldl, parse_eq_foldl, foldl_addChars_congr (mayReturn_lines text)]

/-! ### The order of the lines -/

/-- The line of a text that stands at a place. -/
def lineAt (text : String) (i : Fin (lines text).length) : List Char := (lines text).get i

/-- The name at the start of a line. -/
def nameOf? (line : List Char) : Option String := (entryOf? line).map Prod.fst

/-- The text with each line at another place. -/
def rearranged (text : String) (place : Equiv.Perm (Fin (lines text).length)) : String :=
  String.ofList (['\n'].intercalate (List.ofFn fun i => lineAt text (place.symm i)))

/-- Of two lines with one name at their start, the one in front stays in front. -/
def KeepsOrder (text : String) (place : Equiv.Perm (Fin (lines text).length)) : Prop :=
  ∀ i j, i < j → (nameOf? (lineAt text i)).isSome → nameOf? (lineAt text j) = nameOf? (lineAt text i) →
    place i < place j

/-- Between line feeds there is none. -/
theorem single_of_mem_splitOn (cs : List Char) : ∀ line ∈ cs.splitOn '\n', '\n' ∉ line := by
  by_cases feed : '\n' ∈ cs
  · obtain ⟨line, more, split, single⟩ := List.eq_append_cons_of_mem feed
    have shorter : more.length < cs.length := by simp [split]; omega
    rw [split, List.splitOn_append_cons_self_of_not_mem single]
    exact List.forall_mem_cons.mpr ⟨single, single_of_mem_splitOn more⟩
  · rw [List.splitOn_eq_singleton feed]
    exact List.forall_mem_singleton.mpr feed
termination_by cs.length

theorem lines_rearranged (text : String) (place : Equiv.Perm (Fin (lines text).length)) :
    lines (rearranged text place) = List.ofFn fun i => lineAt text (place.symm i) := by
  rw [lines, rearranged, String.toList_ofList]
  refine List.splitOn_intercalate '\n' (fun line member => ?_) fun none => ?_
  · obtain ⟨i, rfl⟩ := (List.mem_ofFn' _ _).mp member
    exact single_of_mem_splitOn _ _ (List.get_mem _ _)
  · exact List.splitOn_ne_nil '\n' text.toList (List.length_eq_zero_iff.mp (List.ofFn_eq_nil_iff.mp none))

theorem restOf?_isSome_iff (name : String) (line : List Char) :
    (restOf? name line).isSome ↔ nameOf? line = some name := by
  by_cases unnamed : line.takeWhile isNameChar = []
  · rw [restOf?_of_unnamed unnamed, nameOf?, entryOf?, if_pos unnamed]
    simp
  · rw [restOf?_of_named unnamed, nameOf?, entryOf?, if_neg unnamed]
    split
    next same => simp [same]
    next other => simpa using Ne.symm other

/-- What is found first stays what is found first. -/
theorem findSome?_rearranged {α : Type} {n : Nat} {f : Fin n → Option α} (place : Equiv.Perm (Fin n))
    (keeps : ∀ i j, i < j → (f i).isSome → (f j).isSome → place i < place j) :
    Fin.findSome? (fun i => f (place.symm i)) = Fin.findSome? f := by
  cases found : Fin.findSome? f with
  | none =>
    rw [Fin.findSome?_eq_none_iff] at found ⊢
    exact fun i => found (place.symm i)
  | some a =>
    obtain ⟨i, here, before⟩ := Fin.findSome?_eq_some_iff.mp found
    refine Fin.findSome?_eq_some_iff.mpr ⟨place i, by rw [place.symm_apply_apply, here], fun k front => ?_⟩
    -- Nothing in front of the new place has a value: not what stood in front, and what stood behind stays behind.
    by_contra some
    rcases lt_trichotomy (place.symm k) i with earlier | same | later
    · exact some (before _ earlier)
    · rw [← same, place.apply_symm_apply] at front
      exact lt_irrefl k front
    · have behind := keeps i (place.symm k) later (by rw [here]; rfl) (Option.isSome_iff_ne_none.mpr some)
      rw [place.apply_symm_apply] at behind
      exact lt_asymm front behind

theorem findSome?_ofFn {α β : Type} {n : Nat} (line : Fin n → α) (f : α → Option β) :
    (List.ofFn line).findSome? f = Fin.findSome? fun i => f (line i) := by
  rw [List.ofFn_eq_map, List.findSome?_map, Fin.findSome?_eq_findSome?_finRange]
  rfl

theorem firstRest?_rearranged {text : String} {place : Equiv.Perm (Fin (lines text).length)}
    (keeps : KeepsOrder text place) (name : String) :
    firstRest? (rearranged text place) name = firstRest? text name := by
  have whole : lines text = List.ofFn (lineAt text) := (List.ofFn_get _).symm
  rw [firstRest?, firstRest?, lines_rearranged, findSome?_ofFn]
  conv_rhs => rw [whole]
  rw [findSome?_ofFn]
  refine findSome?_rearranged (f := fun i => restOf? name (lineAt text i)) place fun i j front first second => ?_
  rw [restOf?_isSome_iff] at first second
  exact keeps i j front (by rw [first]; rfl) (by rw [first, second])

theorem parse_of_keepsOrder {text : String} {place : Equiv.Perm (Fin (lines text).length)}
    (keeps : KeepsOrder text place) : parse (rearranged text place) = parse text :=
  parse_congr (firstRest?_rearranged keeps)

/-- A text writes the same listing with carriage returns in front of its line feeds, and with its lines in any other
    order that keeps those with one name at their start in theirs. -/
theorem parse_rearranged (text : String) :
    parse (withReturns text) = parse text ∧
    ∀ place : Equiv.Perm (Fin (lines text).length), KeepsOrder text place →
      parse (rearranged text place) = parse text :=
  ⟨parse_withReturns text, fun _ keeps => parse_of_keepsOrder keeps⟩

/-- The name `x` moves behind the second line of `y`. -/
theorem parse_rearranged_moved : ∃ place : Equiv.Perm (Fin (lines "y&\nx#\n\ny").length),
    KeepsOrder "y&\nx#\n\ny" place ∧ rearranged "y&\nx#\n\ny" place = "y&\ny\n\nx#" ∧
      parse "y&\ny\n\nx#" = parse "y&\nx#\n\ny" ∧ parse "y&\r\nx#\r\n\r\ny" = parse "y&\nx#\n\ny" := by
  have moved : rearranged "y&\nx#\n\ny" (Equiv.swap ⟨1, by decide +kernel⟩ ⟨3, by decide +kernel⟩) =
      "y&\ny\n\nx#" := by decide +kernel
  have keeps : KeepsOrder "y&\nx#\n\ny" (Equiv.swap ⟨1, by decide +kernel⟩ ⟨3, by decide +kernel⟩) := by
    unfold KeepsOrder
    decide +kernel
  obtain ⟨returns, orders⟩ := parse_rearranged "y&\nx#\n\ny"
  refine ⟨_, keeps, moved, ?_, returns⟩
  rw [← moved]
  exact orders _ keeps

end Highlighter.Listing
