import Highlighter.Registry
import Mathlib.Data.List.Basic

/-!
Files in directories. The pieces of a path are what stands between its slashes (`pieces_eq_splitOn`), so a name behind a
slash is the last name of the path, whatever stands in front of the slash (`fileName?_below`). The path of the directory
that holds a file starts where the path of the file does and has all of its names but the last (`names_parent`).
-/

namespace Highlighter.Path

theorem pieces_slash (path : List Char) : pieces ('/' :: path) = [] :: pieces path := rfl

theorem pieces_cons {c : Char} (other : c ≠ '/') {path piece : List Char} {more : List (List Char)}
    (split : pieces path = piece :: more) : pieces (c :: path) = (c :: piece) :: more := by
  rw [pieces] at split ⊢
  rw [List.foldr_cons, split]
  split
  · contradiction
  · contradiction
  next same => rw [← (List.cons.inj same).1, ← (List.cons.inj same).2]

theorem pieces_eq_splitOn (path : List Char) : pieces path = path.splitOn '/' := by
  induction path with
  | nil => rfl
  | cons c path ih =>
    rw [List.splitOn_cons_eq_if_modifyHead]
    by_cases slash : c = '/'
    · rw [slash, pieces_slash, ih]
      rfl
    · obtain ⟨piece, more, split⟩ := List.exists_cons_of_ne_nil (List.splitOn_ne_nil '/' path)
      rw [if_neg (by simpa using slash), split, List.modifyHead_cons]
      exact pieces_cons slash (ih.trans split)

theorem names_of_name {name : List Char} (named : isName name = true) (single : '/' ∉ name) : names name = [name] := by
  rw [names, pieces_eq_splitOn, List.splitOn_eq_singleton single, List.filter_singleton, named]
  rfl

theorem names_below (directory name : List Char) :
    names (directory ++ '/' :: name) = names directory ++ names name := by
  simp only [names, pieces_eq_splitOn, List.splitOn_append_cons_self, List.filter_append]

/-- A name that is not a single dot is the name of a file in every directory just if it is one by itself. -/
theorem fileName?_below (directory : String) {name : String} (full : name ≠ "") (single : '/' ∉ name.toList)
    (some : name ≠ ".") : fileName? (directory ++ "/" ++ name) = fileName? name := by
  have named : isName name.toList = true := by
    have dot : name.toList ≠ ['.'] := fun same => some (String.toList_inj.mp same)
    simp [isName, full, dot]
  have texts : (directory ++ "/" ++ name).toList = directory.toList ++ '/' :: name.toList := by simp
  rw [fileName?, fileName?, texts, names_below, names_of_name named single, List.getLast?_concat,
    List.getLast?_singleton]

/-! ### The directory that holds a file -/

theorem single_of_mem_pieces (path : List Char) : ∀ piece ∈ pieces path, '/' ∉ piece := by
  induction path with
  | nil => simp [pieces]
  | cons c path ih =>
    by_cases slash : c = '/'
    · rw [slash, pieces_slash]
      exact List.forall_mem_cons.mpr ⟨by simp, ih⟩
    · rw [pieces_eq_splitOn] at ih
      obtain ⟨piece, more, split⟩ := List.exists_cons_of_ne_nil (List.splitOn_ne_nil '/' path)
      rw [split] at ih
      obtain ⟨first, others⟩ := List.forall_mem_cons.mp ih
      rw [pieces_cons slash ((pieces_eq_splitOn path).trans split)]
      refine List.forall_mem_cons.mpr ⟨?_, others⟩
      simpa [first] using Ne.symm slash

theorem single_of_mem_names {path name : List Char} (member : name ∈ names path) :
    isName name = true ∧ '/' ∉ name := by
  obtain ⟨piece, named⟩ := List.mem_filter.mp member
  exact ⟨named, single_of_mem_pieces path name piece⟩

theorem names_intercalate {ns : List (List Char)} (each : ∀ name ∈ ns, isName name = true ∧ '/' ∉ name) :
    names (['/'].intercalate ns) = ns := by
  by_cases none : ns = []
  · rw [none]
    rfl
  · rw [names, pieces_eq_splitOn, List.splitOn_intercalate '/' (fun name member => (each name member).2) none]
    exact List.filter_eq_self.mpr fun name member => (each name member).1

theorem isAbsolute_intercalate {ns : List (List Char)} (each : ∀ name ∈ ns, isName name = true ∧ '/' ∉ name) :
    isAbsolute (['/'].intercalate ns) = false := by
  rcases ns with _ | ⟨name, more⟩
  · rfl
  obtain ⟨named, single⟩ := each name List.mem_cons_self
  rcases name with _ | ⟨c, name⟩
  · contradiction
  -- The text begins with the first character of the first name.
  have other : c ≠ '/' := fun slash => single (by simp [slash])
  rcases more with _ | ⟨second, more⟩ <;> simp [isAbsolute, List.intercalate, List.intersperse, other]

section
variable (path : String)

theorem each_above : ∀ name ∈ (names path.toList).dropLast, isName name = true ∧ '/' ∉ name :=
  fun _ member => single_of_mem_names (List.dropLast_subset _ member)

theorem toList_parent : (parent path).toList =
    (if isAbsolute path.toList then ['/'] else []) ++ ['/'].intercalate (names path.toList).dropLast := by
  rw [parent]
  split <;> simp

theorem names_parent : names (parent path).toList = (names path.toList).dropLast := by
  rw [toList_parent]
  split
  · have slash : names (['/'] ++ ['/'].intercalate (names path.toList).dropLast) =
        names [] ++ names (['/'].intercalate (names path.toList).dropLast) := names_below [] _
    rw [slash, names_intercalate (each_above path)]
    rfl
  · exact names_intercalate (each_above path)

theorem isAbsolute_parent : isAbsolute (parent path).toList = isAbsolute path.toList := by
  rw [toList_parent]
  split
  next absolute => rw [absolute]; rfl
  next relative => rw [List.nil_append, isAbsolute_intercalate (each_above path), (Bool.not_eq_true _).mp relative]

end

end Highlighter.Path
