import Highlighter.Listing
import Mathlib.Data.List.TakeWhile

/-!
Listings read line by line. `readFrom` takes a listing character by character; `readFrom_eq_foldl` says that this
is to take it line by line, where `Line.ofChars` tells from the characters of a line alone what has been read of it.
A name has the role that the first of its lines gives it: `Assigns` says so of the three sets at once, and every
line keeps it (`assigns_addChars`), so it holds of the whole listing (`assigns_parse`).
-/

namespace Highlighter

/-- The role that is given to a name by what follows it on its line. -/
def Role.ofRest (rest : List Char) : Role :=
  if '#' ∈ rest then .constant else if '&' ∈ rest then .deprecated else .builtin

theorem Listing.markedBy_of_ne {c : Char} (hash : c ≠ '#') (mark : c ≠ '&') (role : Role) :
    markedBy role c = role := by
  unfold markedBy
  split
  · contradiction
  · contradiction
  · rfl

theorem Role.ofRest_append_singleton (rest : List Char) (c : Char) :
    ofRest (rest ++ [c]) = Listing.markedBy (ofRest rest) c := by
  by_cases hash : c = '#'
  · simp [ofRest, Listing.markedBy, hash]
  by_cases mark : c = '&'
  · subst mark
    unfold ofRest
    split_ifs <;> simp_all [Listing.markedBy]
  · rw [Listing.markedBy_of_ne hash mark]
    simp [ofRest, Ne.symm hash, Ne.symm mark]

namespace Listing

/-- The lines of a text. -/
def lines (text : String) : List (List Char) := text.toList.splitOn '\n'

/-- What follows a name on a line, if the line lists the name. -/
def restOf? (name : String) (line : List Char) : Option (List Char) :=
  if name ≠ "" ∧ line.takeWhile isNameChar = name.toList then some (line.dropWhile isNameChar) else none

/-- What follows a name on the first line of a text that lists it. -/
def firstRest? (text name : String) : Option (List Char) := (lines text).findSome? (restOf? name)

theorem restOf?_of_unnamed {line : List Char} (unnamed : line.takeWhile isNameChar = []) (name : String) :
    restOf? name line = none := by
  refine if_neg fun ⟨full, same⟩ => full ?_
  rw [unnamed] at same
  simpa using same.symm

theorem restOf?_of_named {line : List Char} (named : line.takeWhile isNameChar ≠ []) (name : String) :
    restOf? name line =
      if name = String.ofList (line.takeWhile isNameChar) then some (line.dropWhile isNameChar) else none := by
  rw [restOf?]
  congr 1
  rw [eq_iff_iff]
  constructor
  · rintro ⟨-, same⟩
    rw [same, String.ofList_toList]
  · rintro rfl
    simpa using named

/-- What has been read of a line after some characters. -/
def Line.ofChars (cs : List Char) : Line :=
  if cs.dropWhile isNameChar = [] then .name cs.reverse
  else if cs.takeWhile isNameChar = [] then .other
  else .entry (cs.takeWhile isNameChar).reverse (.ofRest (cs.dropWhile isNameChar))

theorem takeWhile_append_of_dropWhile {cs : List Char} (left : cs.dropWhile isNameChar ≠ []) (more : List Char) :
    (cs ++ more).takeWhile isNameChar = cs.takeWhile isNameChar := by
  have split := congrArg List.length (List.takeWhile_append_dropWhile (p := isNameChar) (l := cs))
  have some := List.length_pos_iff.mpr left
  rw [List.length_append] at split
  rw [List.takeWhile_append, if_neg (by omega)]

theorem dropWhile_append_of_dropWhile {cs : List Char} (left : cs.dropWhile isNameChar ≠ []) (more : List Char) :
    (cs ++ more).dropWhile isNameChar = cs.dropWhile isNameChar ++ more := by
  rw [List.dropWhile_append, if_neg (by simpa using left)]

theorem Line.extend_ofChars (cs : List Char) (c : Char) : (ofChars cs).extend c = ofChars (cs ++ [c]) := by
  by_cases left : cs.dropWhile isNameChar = []
  · have every := List.dropWhile_eq_nil_iff.mp left
    have name : cs.takeWhile isNameChar = cs := List.takeWhile_eq_self_iff.mpr every
    rw [ofChars, if_pos left, extend, ofChars, List.dropWhile_append_of_pos every, List.takeWhile_append_of_pos every]
    by_cases named : isNameChar c
    · simp [named]
    · have first : markedBy .builtin c = .ofRest [c] := (Role.ofRest_append_singleton [] c).symm
      simp [named, first]
  · have longer : cs.dropWhile isNameChar ++ [c] ≠ [] := by simp
    rw [ofChars, if_neg left, ofChars, takeWhile_append_of_dropWhile left, dropWhile_append_of_dropWhile left,
      if_neg longer, Role.ofRest_append_singleton]
    split <;> rfl

/-- The listing with what one more line lists. -/
def addChars (l : Listing) (line : List Char) : Listing := l.addLine (.ofChars line)

theorem addLine_name (l : Listing) {chars : List Char} (named : chars ≠ []) :
    l.addLine (.name chars) = l.add (String.ofList chars.reverse) .builtin := by
  cases chars with
  | nil => contradiction
  | cons c chars => rfl

theorem addChars_eq (l : Listing) (line : List Char) : l.addChars line =
    if line.takeWhile isNameChar = [] then l
    else l.add (String.ofList (line.takeWhile isNameChar)) (.ofRest (line.dropWhile isNameChar)) := by
  rw [addChars, Line.ofChars]
  by_cases left : line.dropWhile isNameChar = []
  · have name : line.takeWhile isNameChar = line := List.takeWhile_eq_self_iff.mpr (List.dropWhile_eq_nil_iff.mp left)
    rw [if_pos left, left, name]
    split
    next none => rw [none]; rfl
    next named => rw [addLine_name l (by simpa using named), List.reverse_reverse]; rfl
  · rw [if_neg left]
    split
    · rfl
    · rw [addLine, List.reverse_reverse]

theorem readFrom_eq_foldl (cs : List Char) : ∀ (l : Listing) (line : List Char), ∃ first later,
    cs.splitOn '\n' = first :: later ∧
      readFrom l (.ofChars line) cs = later.foldl addChars (l.addChars (line ++ first)) := by
  induction cs with
  | nil =>
    intro l line
    exact ⟨[], [], by simp, by simp [readFrom, addChars]⟩
  | cons c cs ih =>
    intro l line
    rw [readFrom, List.splitOn_cons_eq_if_modifyHead]
    by_cases ended : c = '\n'
    · obtain ⟨first, later, split, read⟩ := ih (l.addLine (.ofChars line)) []
      -- The line ends here, and the next one starts without characters.
      refine ⟨[], first :: later, ?_, ?_⟩
      · simp [ended, split]
      · rw [if_pos ended, List.append_nil, List.foldl_cons]
        exact read
    · obtain ⟨first, later, split, read⟩ := ih l (line ++ [c])
      refine ⟨c :: first, later, ?_, ?_⟩
      · simp [ended, split]
      · rw [if_neg ended, Line.extend_ofChars, read, List.append_assoc]
        rfl

theorem parse_eq_foldl (text : String) : parse text = (lines text).foldl addChars empty := by
  obtain ⟨first, later, split, read⟩ := readFrom_eq_foldl text.toList empty []
  rw [lines, split, List.foldl_cons]
  exact read

/-- No line of a text starts with a character of a name. -/
def ListsNothing (text : String) : Prop := ∀ line ∈ lines text, ∀ c ∈ line.head?, isNameChar c = false

instance (text : String) : Decidable (ListsNothing text) :=
  decidable_of_iff ((lines text).all fun line => line.head?.all (!isNameChar ·))
    (by simp [ListsNothing, Option.all_eq_true])

theorem parse_of_listsNothing {text : String} (nothing : ListsNothing text) : parse text = empty := by
  rw [parse_eq_foldl]
  refine List.foldlRecOn (motive := (· = empty)) (lines text) addChars rfl fun l same line member => ?_
  have unnamed : line.takeWhile isNameChar = [] := by
    cases line with
    | nil => rfl
    | cons c cs => exact List.takeWhile_cons_of_neg (by simp [nothing _ member c rfl])
  rw [addChars_eq, if_pos unnamed, same]

/-! ### Roles -/

/-- The names of a role. -/
def namesOf (l : Listing) : Role → Vocabulary
  | .constant => l.constants
  | .deprecated => l.deprecated
  | .builtin => l.builtins

/-- The listing has just the names to which some roles are assigned, each in the set of its role. -/
def Assigns (l : Listing) (roleOf : String → Option Role) : Prop :=
  ∀ name role, (l.namesOf role).contains name = decide (roleOf name = some role)

section
variable {l : Listing} {roleOf : String → Option Role}

theorem assigns_empty : empty.Assigns fun _ => none := by
  intro name role
  cases role <;> rfl

theorem roleOf?_of_assigns (assigns : l.Assigns roleOf) (name : String) : l.roleOf? name = roleOf name := by
  have constants : l.constants.contains name = _ := assigns name .constant
  have deprecated : l.deprecated.contains name = _ := assigns name .deprecated
  have builtins : l.builtins.contains name = _ := assigns name .builtin
  rw [roleOf?, constants, deprecated, builtins]
  cases roleOf name with
  | none => rfl
  | some role => cases role <;> rfl

theorem Assigns.congr {roleOf' : String → Option Role} (assigns : l.Assigns roleOf)
    (same : ∀ name, roleOf name = roleOf' name) : l.Assigns roleOf' := by
  intro name role
  rw [assigns, same]

theorem contains_namesOf_add {name : String} (fresh : ¬ (l.roleOf? name).isSome) (role role' : Role) (w : String) :
    ((l.add name role).namesOf role').contains w =
      ((w == name && role == role') || (l.namesOf role').contains w) := by
  unfold add
  rw [if_neg fresh]
  cases role <;> cases role' <;> simp [namesOf, Vocabulary.contains_insert]

/-- A name keeps its role, whatever is added later. -/
theorem assigns_add (assigns : l.Assigns roleOf) (name : String) (role : Role) :
    (l.add name role).Assigns fun w => (roleOf w).or (if w = name then some role else none) := by
  by_cases known : (l.roleOf? name).isSome
  · unfold add
    rw [if_pos known]
    refine assigns.congr fun w => ?_
    by_cases same : w = name
    · rw [roleOf?_of_assigns assigns] at known
      rw [same, Option.or_of_isSome known]
    · rw [if_neg same, Option.or_none]
  · intro w role'
    rw [contains_namesOf_add known, assigns]
    by_cases same : w = name
    · rw [roleOf?_of_assigns assigns, Option.not_isSome_iff_eq_none] at known
      simp [same, known, Bool.beq_eq_decide_eq]
    · simp [same]

theorem assigns_addChars (assigns : l.Assigns roleOf) (line : List Char) :
    (l.addChars line).Assigns fun w => (roleOf w).or ((restOf? w line).map .ofRest) := by
  rw [addChars_eq]
  split
  next unnamed =>
    refine assigns.congr fun w => ?_
    rw [restOf?_of_unnamed unnamed, Option.map_none, Option.or_none]
  next named =>
    refine (assigns_add assigns _ _).congr fun w => congrArg _ ?_
    rw [restOf?_of_named named]
    split <;> rfl

theorem assigns_foldl (lines : List (List Char)) :
    ∀ {l : Listing} {roleOf : String → Option Role}, l.Assigns roleOf →
      (lines.foldl addChars l).Assigns fun w => (roleOf w).or ((lines.findSome? (restOf? w)).map .ofRest) := by
  induction lines with
  | nil => intro l roleOf assigns; simpa using assigns
  | cons line lines ih =>
    intro l roleOf assigns
    refine (ih (assigns_addChars assigns line)).congr fun name => ?_
    rw [List.findSome?_cons, Option.or_assoc]
    cases restOf? name line <;> rfl

end

/-- In a listing that is read from a text, every name has the role that its first line gives it. -/
theorem assigns_parse (text : String) : (parse text).Assigns fun name => (firstRest? text name).map .ofRest := by
  rw [parse_eq_foldl]
  exact assigns_foldl (lines text) assigns_empty

end Listing

end Highlighter
