import Highlighter.Files
import Highlighter.Proofs.Path

/-!
What the operations on a file tree look at and what they change. A path enters places by its names (`way`) and ends at
one that does not depend on what the tree holds (`target`). Reading looks at the entries of these places only
(`read_congr`). Making directories puts them where there was no file (`entry_makeDirectoriesFrom`), so it changes no
file, and a file on the way is all that stops it (`makeDirectoriesFrom_of_file`, `makeDirectoriesFrom_of_free`). Writing
changes the place where its path ends and no other (`entry_update`), and what was written is read again
(`read_of_update`).
-/

namespace Highlighter.FileTree

theorem bind_run {α β : Type} (x : StateM FileTree α) (f : α → StateM FileTree β) (t : FileTree) :
    (x >>= f) t = f (x t).1 (x t).2 := rfl

theorem pure_run {α : Type} (a : α) (t : FileTree) : (pure a : StateM FileTree α) t = (a, t) := rfl

/-! ### Places -/

/-- The place that a name leads to from a given place. -/
def next (place : List (List Char)) (name : List Char) : List (List Char) :=
  if name = ['.', '.'] then place.dropLast else place ++ [name]

/-- The places that some names enter one after the other, apart from those that they go back to. -/
def entered (place : List (List Char)) : List (List Char) → List (List (List Char))
  | [] => []
  | name :: names =>
    if name = ['.', '.'] then entered place.dropLast names
    else (place ++ [name]) :: entered (place ++ [name]) names

/-- The place where a path ends. -/
def target (t : FileTree) (path : String) : List (List Char) :=
  (Path.names path.toList).foldl next (t.origin path.toList)

/-- The places that a path enters. -/
def way (t : FileTree) (path : String) : List (List (List Char)) :=
  entered (t.origin path.toList) (Path.names path.toList)

/-- The places that a path enters before the last of its names. -/
def wayAbove (t : FileTree) (path : String) : List (List (List Char)) :=
  entered (t.origin path.toList) (Path.names path.toList).dropLast

section
variable {t u : FileTree} (directory : t.workingDirectory = u.workingDirectory) (path : String)
include directory

theorem target_congr : t.target path = u.target path := by rw [target, target, origin, origin, directory]

theorem way_congr : t.way path = u.way path := by rw [way, way, origin, origin, directory]

theorem wayAbove_congr : t.wayAbove path = u.wayAbove path := by rw [wayAbove, wayAbove, origin, origin, directory]

end

theorem entered_append (place : List (List Char)) (names more : List (List Char)) :
    entered place (names ++ more) = entered place names ++ entered (names.foldl next place) more := by
  -- No name is left, or the first one goes back, or it goes down.
  fun_induction entered place names with
  | case1 place => rfl
  | case2 place names ih => exact ih
  | case3 place name names down ih =>
    rw [List.cons_append, entered, List.foldl_cons, next, if_neg down, if_neg down, ih, List.cons_append]

/-- The last place entered is the one that the names lead to, unless the last name goes back. -/
theorem mem_entered {place q : List (List Char)} {names : List (List Char)} (member : q ∈ entered place names) :
    q ∈ entered place names.dropLast ∨ q = names.foldl next place := by
  rcases names.eq_nil_or_concat with rfl | ⟨init, last, rfl⟩
  · contradiction
  · rw [List.concat_eq_append] at member ⊢
    rw [List.dropLast_concat, List.foldl_concat]
    rw [entered_append, List.mem_append] at member
    refine member.imp_right fun last' => ?_
    rw [entered] at last'
    rw [next]
    split at last'
    · contradiction
    next down => rw [if_neg down]; exact List.mem_singleton.mp last'

theorem mem_entered_cons {place q : List (List Char)} {name : List Char} {names : List (List Char)}
    (member : q ∈ entered place (name :: names).dropLast) : q ∈ entered place (name :: names.dropLast) := by
  cases names with
  | nil => contradiction
  | cons => exact member

theorem mem_way {t : FileTree} {path : String} {q : List (List Char)} (member : q ∈ t.way path) :
    q ∈ t.wayAbove path ∨ q = t.target path := mem_entered member

/-! ### Entries -/

/-- The content of the file at a place. -/
def file? (t : FileTree) (place : List (List Char)) : Option ByteArray :=
  match t.entry place with
  | some (.file content) => some content
  | _ => none

section
variable {t u : FileTree} {place q : List (List Char)}

theorem file?_eq_some_iff {content : ByteArray} :
    t.file? place = some content ↔ t.entry place = some (.file content) := by
  unfold file?
  split
  next same => simp [same]
  next none => exact ⟨fun some => by contradiction, fun some => (none _ some).elim⟩

theorem file?_eq_none_iff : t.file? place = none ↔ t.entry place = none ∨ t.entry place = some .directory := by
  rw [file?]
  rcases t.entry place with _ | _ | _ <;> simp

theorem file?_congr (same : t.entry q = u.entry q) : t.file? q = u.file? q := by rw [file?, file?, same]

theorem entry_put_self (t : FileTree) (place : List (List Char)) (e : FileEntry) :
    (t.put place e).entry place = some e := if_pos rfl

theorem entry_put_of_ne (t : FileTree) (different : q ≠ place) (e : FileEntry) :
    (t.put place e).entry q = t.entry q := if_neg different

theorem put_eq_self {e : FileEntry} (found : t.entry place = some e) : t.put place e = t := by
  have same : (t.put place e).entry = t.entry := by
    funext q
    by_cases here : q = place
    · rw [here, entry_put_self, found]
    · exact entry_put_of_ne t here e
  exact congrArg (FileTree.mk t.workingDirectory) same

end

/-! ### Following a path -/

section
variable {t u : FileTree} {place p : List (List Char)} {name : List Char} {pieces names : List (List Char)}

theorem follow_other (other : Path.isName name = false) : t.follow place (name :: pieces) = t.follow place pieces := by
  rw [follow, other]
  rfl

theorem follow_up : t.follow place (['.', '.'] :: pieces) = t.follow place.dropLast pieces := rfl

theorem follow_last (named : Path.isName name = true) (down : name ≠ ['.', '.']) :
    t.follow place [name] = .ok (place ++ [name]) := by
  rw [follow, named, if_neg (by decide), if_neg down, if_pos rfl]

theorem follow_down_eq_ok_iff (named : Path.isName name = true) (down : name ≠ ['.', '.']) (more : pieces ≠ []) :
    t.follow place (name :: pieces) = .ok p ↔
      t.entry (place ++ [name]) = some .directory ∧ t.follow (place ++ [name]) pieces = .ok p := by
  rw [follow, named, if_neg (by decide), if_neg down, if_neg more]
  rcases t.entry (place ++ [name]) with _ | _ | _ <;> simp

/-- A path that can be followed leads to its end, and through directories. -/
theorem follow_eq_ok (followed : t.follow place pieces = .ok p) :
    p = (pieces.filter Path.isName).foldl next place ∧
      ∀ q ∈ entered place (pieces.filter Path.isName).dropLast, t.entry q = some .directory := by
  fun_induction follow t place pieces with
  | case1 place => exact ⟨(Except.ok.inj followed).symm, by simp [entered]⟩
  | case2 place piece pieces other ih =>
    rw [List.filter_cons_of_neg (by simpa using other)]
    exact ih followed
  | case3 place pieces named ih =>
    obtain ⟨ends, through⟩ := ih followed
    exact ⟨ends, fun q member => through q (mem_entered_cons member)⟩
  | case4 place piece named down =>
    rw [List.filter_cons_of_pos (by simpa using named)]
    refine ⟨?_, fun q member => by contradiction⟩
    rw [List.filter_nil, List.foldl_cons, next, if_neg down]
    exact (Except.ok.inj followed).symm
  -- Nothing or a file is where a directory is needed.
  | case5 | case6 => contradiction
  | case7 place piece pieces named down more here ih =>
    obtain ⟨ends, through⟩ := ih followed
    rw [List.filter_cons_of_pos (by simpa using named), List.foldl_cons, next, if_neg down]
    refine ⟨ends, fun q member => ?_⟩
    have first := mem_entered_cons member
    rw [entered, if_neg down] at first
    rcases List.mem_cons.mp first with rfl | after
    · exact here
    · exact through q after

theorem follow_congr (same : ∀ q ∈ entered place (pieces.filter Path.isName), t.entry q = u.entry q) :
    t.follow place pieces = u.follow place pieces := by
  induction pieces generalizing place with
  | nil => rfl
  | cons piece pieces ih =>
    cases named : Path.isName piece with
    | false =>
      rw [List.filter_cons_of_neg (by simp [named])] at same
      rw [follow_other named, follow_other named, ih same]
    | true =>
      rw [List.filter_cons_of_pos named, entered] at same
      by_cases up : piece = ['.', '.']
      · rw [if_pos up] at same
        rw [up, follow_up, follow_up, ih same]
      · rw [if_neg up] at same
        obtain ⟨here, later⟩ := List.forall_mem_cons.mp same
        simp only [follow, named, up, Bool.not_true, Bool.false_eq_true, if_false, here, ih later]

/-- What is put where there is no directory is in nobody's way. -/
theorem follow_put {q : List (List Char)} (e : FileEntry) (leaf : t.entry q ≠ some .directory)
    (followed : t.follow place pieces = .ok p) : (t.put q e).follow place pieces = .ok p := by
  fun_induction follow t place pieces with
  | case1 place => exact followed
  | case2 place piece pieces other ih =>
    rw [follow_other (by simpa using other)]
    exact ih followed
  | case3 place pieces named ih => exact ih followed
  | case4 place piece named down => rwa [follow_last (by simpa using named) down]
  | case5 | case6 => contradiction
  | case7 place piece pieces named down more here ih =>
    have different : place ++ [piece] ≠ q := fun same => leaf (same ▸ here)
    refine (follow_down_eq_ok_iff (by simpa using named) down more).mpr ⟨?_, ih followed⟩
    rw [entry_put_of_ne t different, here]

end

/-! ### Reading and writing -/

section
variable {t u : FileTree} {path : String} {place : List (List Char)}

theorem resolve_eq_ok (resolved : t.resolve path = .ok place) :
    place = t.target path ∧ ∀ q ∈ t.wayAbove path, t.entry q = some .directory := by
  unfold resolve at resolved
  split at resolved
  · contradiction
  · exact follow_eq_ok resolved

/-- Trees are alike on a path: what it enters and where it ends is the same in both. -/
structure AlikeOn (t u : FileTree) (path : String) : Prop where
  workingDirectory : t.workingDirectory = u.workingDirectory
  way : ∀ q ∈ t.way path, t.entry q = u.entry q
  target : t.entry (t.target path) = u.entry (t.target path)

theorem resolve_congr (directory : t.workingDirectory = u.workingDirectory)
    (same : ∀ q ∈ t.way path, t.entry q = u.entry q) : t.resolve path = u.resolve path := by
  have origin : u.origin path.toList = t.origin path.toList := by rw [origin, origin, directory]
  rw [resolve, resolve, origin, follow_congr same]

theorem read_congr (alike : t.AlikeOn u path) : t.read path = u.read path := by
  rw [read, read, readBytes, readBytes, resolve_congr alike.workingDirectory alike.way]
  cases resolved : u.resolve path with
  | error e => rfl
  | ok place =>
    rw [← resolve_congr alike.workingDirectory alike.way] at resolved
    simp only
    rw [(resolve_eq_ok resolved).1, alike.target]

theorem read_of_file {text : String} (resolved : t.resolve path = .ok place)
    (file : t.entry place = some (.file text.toUTF8)) : t.read path = .ok text := by
  have valid : String.fromUTF8? text.toUTF8 = some text := dif_pos text.isValidUTF8
  simp only [read, readBytes, resolved, file, valid]

/-- An update fails and changes nothing, or puts a file where the path ends, which is no directory. -/
theorem update_cases (t : FileTree) (path : String) (change : ByteArray → ByteArray) :
    (∃ e, t.update path change = (.error e, t)) ∨
      t.resolve path = .ok (t.target path) ∧ t.entry (t.target path) ≠ some .directory ∧
        t.update path change =
          (.ok (), t.put (t.target path) (.file (change ((t.file? (t.target path)).getD .empty)))) := by
  rw [update, file?]
  cases resolved : t.resolve path with
  | error e => exact .inl ⟨e, rfl⟩
  | ok place =>
    obtain ⟨rfl, -⟩ := resolve_eq_ok resolved
    rcases found : t.entry (t.target path) with _ | _ | content
    · exact .inr ⟨rfl, by simp, by simp only [found]; rfl⟩
    · exact .inl ⟨.isDirectory, by simp only [found]⟩
    · exact .inr ⟨rfl, by simp, by simp only [found]; rfl⟩

theorem entry_update (t : FileTree) (change : ByteArray → ByteArray) {q : List (List Char)}
    (different : q ≠ t.target path) : (t.update path change).2.entry q = t.entry q := by
  rcases t.update_cases path change with ⟨e, failed⟩ | ⟨-, -, updated⟩
  · rw [failed]
  · rw [updated, entry_put_of_ne t different]

/-- What was written is read again. -/
theorem read_of_update {text : String} (written : t.update path (fun _ => text.toUTF8) = (.ok (), u)) :
    u.read path = .ok text ∧ u.file? (t.target path) = some text.toUTF8 := by
  rcases t.update_cases path fun _ => text.toUTF8 with ⟨e, failed⟩ | ⟨resolved, leaf, updated⟩
  · rw [failed] at written
    exact absurd (Prod.mk.inj written).1 (by simp)
  · rw [updated] at written
    obtain ⟨-, rfl⟩ := Prod.mk.inj written
    have file := entry_put_self t (t.target path) (.file text.toUTF8)
    refine ⟨read_of_file ?_ file, file?_eq_some_iff.mpr file⟩
    unfold resolve at resolved ⊢
    split at resolved
    · contradiction
    next some =>
      rw [if_neg some]
      exact follow_put _ leaf resolved

/-- Of two trees in which a path goes the same way, an update makes the same where it ends. -/
theorem update_congr (change : ByteArray → ByteArray) (alike : t.AlikeOn u path) :
    (t.update path change).1 = (u.update path change).1 ∧
      (t.update path change).2.entry (t.target path) = (u.update path change).2.entry (t.target path) := by
  have resolves := resolve_congr alike.workingDirectory alike.way
  rw [update, update, ← resolves]
  cases resolved : t.resolve path with
  | error e => exact ⟨rfl, alike.target⟩
  | ok place =>
    obtain ⟨rfl, -⟩ := resolve_eq_ok resolved
    simp only [← alike.target]
    rcases found : t.entry (t.target path) with _ | _ | content
    · exact ⟨rfl, by rw [entry_put_self, entry_put_self]⟩
    · exact ⟨rfl, by rw [← alike.target]⟩
    · exact ⟨rfl, by rw [entry_put_self, entry_put_self]⟩

end

/-! ### Making directories -/

section
variable {t u : FileTree} {place : List (List Char)} {name : List Char} {names : List (List Char)}

theorem makeDirectoriesFrom_down (down : name ≠ ['.', '.']) (free : t.file? (place ++ [name]) = none) :
    t.makeDirectoriesFrom place (name :: names) =
      (t.put (place ++ [name]) .directory).makeDirectoriesFrom (place ++ [name]) names := by
  rw [makeDirectoriesFrom, if_neg down]
  rcases file?_eq_none_iff.mp free with missing | present
  · rw [missing]
  · rw [present, put_eq_self present]

theorem makeDirectoriesFrom_blocked (down : name ≠ ['.', '.']) {content : ByteArray}
    (blocked : t.file? (place ++ [name]) = some content) :
    t.makeDirectoriesFrom place (name :: names) = (.error .notDirectory, t) := by
  rw [makeDirectoriesFrom, if_neg down, file?_eq_some_iff.mp blocked]

/-- Where there was no file there may be a directory now, and nothing else changes. -/
theorem entry_makeDirectoriesFrom (t : FileTree) (place : List (List Char)) (names : List (List Char))
    (q : List (List Char)) :
    (t.makeDirectoriesFrom place names).2.entry q = t.entry q ∨
      q ∈ entered place names ∧ t.file? q = none ∧
        (t.makeDirectoriesFrom place names).2.entry q = some .directory := by
  fun_induction entered place names generalizing t with
  | case1 place => exact .inl rfl
  | case2 place names ih => exact ih t
  | case3 place name names down ih =>
    rw [List.mem_cons]
    cases here : t.file? (place ++ [name]) with
    | some content =>
      rw [makeDirectoriesFrom_blocked down here]
      exact .inl rfl
    | none =>
      rw [makeDirectoriesFrom_down down here]
      by_cases same : q = place ++ [name]
      · have made : (t.put (place ++ [name]) .directory).entry q = some .directory := if_pos same
        refine .inr ⟨.inl same, same ▸ here, ?_⟩
        rcases ih (t.put (place ++ [name]) .directory) with kept | ⟨-, -, directory⟩
        · rw [kept, made]
        · exact directory
      · have other := entry_put_of_ne t same .directory
        rcases ih (t.put (place ++ [name]) .directory) with kept | ⟨member, free, directory⟩
        · exact .inl (kept.trans other)
        · exact .inr ⟨.inr member, (file?_congr other).symm.trans free, directory⟩

theorem file?_makeDirectoriesFrom (t : FileTree) (place : List (List Char)) (names : List (List Char))
    (q : List (List Char)) : (t.makeDirectoriesFrom place names).2.file? q = t.file? q := by
  rcases entry_makeDirectoriesFrom t place names q with kept | ⟨-, free, directory⟩
  · exact file?_congr kept
  · rw [free, file?, directory]

theorem workingDirectory_makeDirectoriesFrom (t : FileTree) (place : List (List Char)) (names : List (List Char)) :
    (t.makeDirectoriesFrom place names).2.workingDirectory = t.workingDirectory := by
  fun_induction makeDirectoriesFrom t place names with
  | case1 t place => rfl
  | case2 t place names ih => exact ih
  | case3 t place name names down there ih => exact ih
  | case4 t place name names down content blocked => rfl
  | case5 t place name names down missing ih => exact ih

/-- A file on the way stops it. -/
theorem makeDirectoriesFrom_of_file {q : List (List Char)} (member : q ∈ entered place names)
    (file : t.file? q ≠ none) : (t.makeDirectoriesFrom place names).1 = .error .notDirectory := by
  fun_induction entered place names generalizing t with
  | case1 place => contradiction
  | case2 place names ih => exact ih member file
  | case3 place name names down ih =>
    cases here : t.file? (place ++ [name]) with
    | some content => rw [makeDirectoriesFrom_blocked down here]
    | none =>
      have different : q ≠ place ++ [name] := by
        rintro rfl
        exact file here
      rw [makeDirectoriesFrom_down down here]
      refine ih ((List.mem_cons.mp member).resolve_left different) ?_
      rwa [file?_congr (entry_put_of_ne t different .directory)]

/-- Without files on the way, there are directories all along it. -/
theorem makeDirectoriesFrom_of_free (free : ∀ q ∈ entered place names, t.file? q = none) :
    (t.makeDirectoriesFrom place names).1 = .ok () ∧
      ∀ q ∈ entered place names, (t.makeDirectoriesFrom place names).2.entry q = some .directory := by
  fun_induction entered place names generalizing t with
  | case1 place => exact ⟨rfl, by simp⟩
  | case2 place names ih => exact ih free
  | case3 place name names down ih =>
    obtain ⟨here, later⟩ := List.forall_mem_cons.mp free
    have still : ∀ q ∈ entered (place ++ [name]) names, (t.put (place ++ [name]) .directory).file? q = none := by
      intro q member
      by_cases same : q = place ++ [name]
      · rw [same, file?, entry_put_self]
      · rw [file?_congr (entry_put_of_ne t same .directory), later q member]
    obtain ⟨done, directories⟩ := ih still
    rw [makeDirectoriesFrom_down down here]
    refine ⟨done, List.forall_mem_cons.mpr ⟨?_, directories⟩⟩
    rcases entry_makeDirectoriesFrom (t.put (place ++ [name]) .directory) (place ++ [name]) names (place ++ [name])
      with kept | ⟨-, -, directory⟩
    · rw [kept, entry_put_self]
    · exact directory

theorem makeDirectoriesFrom_of_directories (there : ∀ q ∈ entered place names, t.entry q = some .directory) :
    t.makeDirectoriesFrom place names = (.ok (), t) := by
  fun_induction entered place names with
  | case1 place => rfl
  | case2 place names ih => exact ih there
  | case3 place name names down ih =>
    obtain ⟨here, later⟩ := List.forall_mem_cons.mp there
    rw [makeDirectoriesFrom_down down (file?_eq_none_iff.mpr (.inr here)), put_eq_self here, ih later]

end

section
variable (t : FileTree) (path : String)

theorem file?_makeDirectories (q : List (List Char)) : (t.makeDirectories path).2.file? q = t.file? q :=
  file?_makeDirectoriesFrom t _ _ q

theorem workingDirectory_makeDirectories : (t.makeDirectories path).2.workingDirectory = t.workingDirectory :=
  workingDirectory_makeDirectoriesFrom t _ _

/-- The directories that are made for a file are those on the way of its path. -/
theorem makeDirectories_parent : t.makeDirectories (Path.parent path) =
    t.makeDirectoriesFrom (t.origin path.toList) (Path.names path.toList).dropLast := by
  rw [makeDirectories, origin, origin, Path.isAbsolute_parent, Path.names_parent]

theorem entry_makeDirectories_parent {t : FileTree} {path : String} (free : ∀ q ∈ t.wayAbove path, t.file? q = none)
    (q : List (List Char)) : (t.makeDirectories (Path.parent path)).2.entry q =
      if q ∈ t.wayAbove path then some .directory else t.entry q := by
  rw [makeDirectories_parent]
  split
  next member => exact (makeDirectoriesFrom_of_free free).2 q member
  next other =>
    exact (entry_makeDirectoriesFrom t _ _ q).resolve_right fun made => other made.1

end

end Highlighter.FileTree
