import Highlighter.Token

/-!
Byte lengths of texts: they add up (`byteLength_append`), and they are the sizes of the strings that the
characters make up (`utf8ByteSize_ofList`), so a split of a text is a split of its bytes.

Stretches of a text between two offsets in bytes. What stands between two parts of a text begins and ends at its
characters, and its bytes are those between the two offsets (`stretch_of_split`).
-/

namespace Highlighter

/-! ## Bytes -/

theorem foldl_utf8Size (cs : List Char) (n : Nat) :
    cs.foldl (fun n c => n + c.utf8Size) n = n + byteLength cs := by
  induction cs generalizing n with
  | nil => rfl
  | cons c cs ih =>
    rw [byteLength, List.foldl_cons, List.foldl_cons, ih, ih]
    omega

@[simp] theorem byteLength_nil : byteLength [] = 0 := rfl

@[simp] theorem byteLength_cons (c : Char) (cs : List Char) :
    byteLength (c :: cs) = c.utf8Size + byteLength cs := by
  rw [byteLength, List.foldl_cons, foldl_utf8Size, Nat.zero_add]

@[simp] theorem byteLength_append (as bs : List Char) : byteLength (as ++ bs) = byteLength as + byteLength bs := by
  rw [byteLength, List.foldl_append, foldl_utf8Size]
  rfl

theorem eq_nil_of_byteLength {cs : List Char} (none : byteLength cs = 0) : cs = [] := by
  cases cs with
  | nil => rfl
  | cons c cs =>
    have some := c.utf8Size_pos
    rw [byteLength_cons] at none
    omega

theorem byteLength_pos {cs : List Char} (some : cs ≠ []) : 0 < byteLength cs :=
  Nat.pos_of_ne_zero fun none => some (eq_nil_of_byteLength none)

/-- A text is split in one way at a given number of bytes. -/
theorem append_inj_of_byteLength {as bs cs ds : List Char} (same : as ++ bs = cs ++ ds)
    (size : byteLength as = byteLength cs) : as = cs ∧ bs = ds := by
  rcases List.append_eq_append_iff.mp same with ⟨more, rfl, rfl⟩ | ⟨more, rfl, rfl⟩
  · rw [byteLength_append] at size
    have none : more = [] := eq_nil_of_byteLength (by omega)
    simp [none]
  · rw [byteLength_append] at size
    have none : more = [] := eq_nil_of_byteLength (by omega)
    simp [none]

theorem utf8ByteSize_ofList (cs : List Char) : (String.ofList cs).utf8ByteSize = byteLength cs := by
  induction cs with
  | nil => rfl
  | cons c cs ih =>
    have split : String.ofList (c :: cs) = String.singleton c ++ String.ofList cs := by
      rw [← String.toList_inj]; simp
    rw [split, String.utf8ByteSize_append, ih, byteLength_cons]
    simp

theorem utf8ByteSize_eq (s : String) : s.utf8ByteSize = byteLength s.toList := by
  rw [← utf8ByteSize_ofList, String.ofList_toList]

/-! ## Stretches -/

theorem isValid_append (front back : String) : String.Pos.Raw.IsValid (front ++ back) ⟨front.utf8ByteSize⟩ :=
  String.Pos.Raw.isValid_iff_exists_append.mpr ⟨front, back, rfl, rfl⟩

/-- A place between two characters splits a text. -/
theorem exists_split_of_isValid {src : String} {offset : Nat} (valid : String.Pos.Raw.IsValid src ⟨offset⟩) :
    ∃ front back, src.toList = front ++ back ∧ offset = byteLength front := by
  obtain ⟨front, back, rfl, place⟩ := String.Pos.Raw.isValid_iff_exists_append.mp valid
  refine ⟨front.toList, back.toList, String.toList_append, ?_⟩
  rw [← utf8ByteSize_eq]
  exact congrArg String.Pos.Raw.byteIdx place

theorem extract_append (front text back : String) :
    (front ++ (text ++ back)).toByteArray.extract front.utf8ByteSize (front.utf8ByteSize + text.utf8ByteSize) =
      text.toByteArray := by
  have later := ByteArray.extract_append_size_add (a := front.toByteArray)
    (b := text.toByteArray ++ back.toByteArray) (i := 0) (j := text.utf8ByteSize)
  have inside : (text.toByteArray ++ back.toByteArray).extract 0 text.utf8ByteSize = text.toByteArray :=
    ByteArray.extract_append_eq_left rfl
  rw [Nat.add_zero, inside] at later
  rw [String.toByteArray_append, String.toByteArray_append]
  exact later

/-- The part of a text between two offsets can be cut out, as they are in order and neither is inside a character,
    and it is made of the given characters. -/
structure Stretch (src : String) (start stop : Nat) (cs : List Char) : Prop where
  ordered : start ≤ stop
  starts : String.Pos.Raw.IsValid src ⟨start⟩
  stops : String.Pos.Raw.IsValid src ⟨stop⟩
  bytes : src.toByteArray.extract start stop = (String.ofList cs).toByteArray

/-- What stands between two parts of a text can be cut out of it. -/
theorem stretch_of_split {src : String} {front cs back : List Char} (split : src.toList = front ++ (cs ++ back)) :
    Stretch src (byteLength front) (byteLength (front ++ cs)) cs := by
  have whole : src = .ofList front ++ (.ofList cs ++ .ofList back) := by
    rw [← String.ofList_append, ← String.ofList_append, ← split, String.ofList_toList]
  have sizes : byteLength (front ++ cs) = (String.ofList front).utf8ByteSize + (String.ofList cs).utf8ByteSize := by
    rw [byteLength_append, utf8ByteSize_ofList, utf8ByteSize_ofList]
  rw [sizes, ← utf8ByteSize_ofList front, whole]
  refine ⟨Nat.le_add_right _ _, isValid_append _ _, ?_, extract_append _ _ _⟩
  rw [← String.utf8ByteSize_append, ← String.append_assoc]
  exact isValid_append _ _

end Highlighter
