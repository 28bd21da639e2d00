import Highlighter.CharSet

/-!
Sets without a common member. `CharSet.apart` compares the ranges that two sets are made of, so it is a
computation on closed terms; `not_contains_of_apart` says that it is right. `CharSet.outside` looks up single
characters instead, which are many in some sets.

Sets whose members all have a property or belong to another set. `CharSet.within` compares the ranges of a set with
those of the property, and `CharSet.includes` looks for the parts of a set among the parts of the other one, so both are
computations on closed terms; `holds_of_within` and `contains_of_includes` say that they are right.
-/

namespace Highlighter

/-! ## Sets that are apart -/

theorem Unicode.mem_of_inRanges {ranges : List (Nat × Nat)} {n : Nat} (inside : inRanges ranges n = true) :
    ∃ r ∈ ranges, r.1 ≤ n ∧ n ≤ r.2 := by
  induction ranges with
  | nil => simp [inRanges] at inside
  | cons r ranges ih =>
    obtain ⟨low, high⟩ := r
    rw [inRanges] at inside
    split at inside
    · simp at inside
    · split at inside
      · exact ⟨(low, high), by simp, by omega, by omega⟩
      · obtain ⟨r, member, bounds⟩ := ih inside
        exact ⟨r, by simp [member], bounds⟩

theorem CharProperty.mem_ranges {p : CharProperty} {c : Char} (holds : p.holds c = true) :
    ∃ r ∈ p.ranges, r.1 ≤ c.toNat ∧ c.toNat ≤ r.2 := by
  cases p <;> exact Unicode.mem_of_inRanges holds

namespace CharSet

theorem contains_union (a b : CharSet) (c : Char) : (union a b).contains c = (a.contains c || b.contains c) := rfl

theorem contains_compl_single (d c : Char) : (compl (.single d)).contains c = (c != d) := by
  rw [contains, contains_single]
  rfl

/-- A set to which some characters have been added. -/
theorem contains_foldl (cs : List Char) (m : CharSet) (c : Char) :
    (cs.foldl (fun set d => .union set (.single d)) m).contains c = (m.contains c || cs.contains c) := by
  induction cs generalizing m with
  | nil => simp
  | cons d cs ih => rw [List.foldl_cons, ih, contains_union, contains_single, List.contains_cons, Bool.or_assoc]

/-- Ranges that the set is made of, for a set written without a complement. -/
def spans? : CharSet → Option CodeRanges
  | empty => some []
  | range low high => some [(low.toNat, high.toNat)]
  | property p => some p.ranges
  | union a b =>
    match a.spans?, b.spans? with
    | some as, some bs => some (as ++ bs)
    | _, _ => none
  | inter _ _ | compl _ | caseless _ => none

theorem mem_spans {s : CharSet} {c : Char} : ∀ {ranges : CodeRanges}, s.spans? = some ranges →
    s.contains c = true → ∃ r ∈ ranges, r.1 ≤ c.toNat ∧ c.toNat ≤ r.2 := by
  induction s with
  | empty => intro ranges _ member; simp [contains] at member
  | range low high =>
    intro ranges found member
    simp only [contains, Bool.and_eq_true, decide_eq_true_eq] at member
    rw [← Option.some.inj found]
    exact ⟨_, List.mem_singleton_self _, member⟩
  | property p =>
    intro ranges found member
    rw [← Option.some.inj found]
    exact CharProperty.mem_ranges member
  | union a b iha ihb =>
    intro ranges found member
    rw [spans?] at found
    split at found
    next as bs foundA foundB =>
      rw [← Option.some.inj found]
      rcases (Bool.or_eq_true _ _).mp member with left | right
      · obtain ⟨r, listed, bounds⟩ := iha foundA left
        exact ⟨r, List.mem_append_left bs listed, bounds⟩
      · obtain ⟨r, listed, bounds⟩ := ihb foundB right
        exact ⟨r, List.mem_append_right as listed, bounds⟩
    · contradiction
  | inter | compl | caseless => intro ranges found; contradiction

/-- Whether the ranges that two sets are made of show that they have no common member. -/
def apart (a b : CharSet) : Bool :=
  match a.spans?, b.spans? with
  | some as, some bs => as.all fun r => bs.all fun r' => decide (r.2 < r'.1 ∨ r'.2 < r.1)
  | _, _ => false

theorem not_contains_of_apart {a b : CharSet} (test : a.apart b = true) {c : Char}
    (member : a.contains c = true) : b.contains c = false := by
  unfold apart at test
  split at test
  next as bs foundA foundB =>
    rw [Bool.eq_false_iff]
    intro other
    obtain ⟨r, listed, low, high⟩ := mem_spans foundA member
    obtain ⟨r', listed', low', high'⟩ := mem_spans foundB other
    have separate := of_decide_eq_true (List.all_eq_true.mp (List.all_eq_true.mp test r listed) r' listed')
    omega
  · contradiction

/-- Whether it can be computed that a set has no member in common with `m`. -/
def outside (m : CharSet) : CharSet → Bool
  | union a b => m.outside a && m.outside b
  | range low high => if low = high then !m.contains low else m.apart (range low high)
  | a => m.apart a

theorem not_contains_of_outside {m a : CharSet} (test : m.outside a = true) {c : Char} (member : m.contains c = true) :
    a.contains c = false := by
  induction a with
  | union a b iha ihb =>
    obtain ⟨first, second⟩ := (Bool.and_eq_true _ _).mp test
    rw [contains_union, iha first, ihb second]
    rfl
  | range low high =>
    rw [outside] at test
    split at test
    next same =>
      have single : (range low high).contains c = (c == low) := same ▸ contains_single low c
      rw [single, beq_eq_false_iff_ne]
      rintro rfl
      simp [member] at test
    next => exact not_contains_of_apart test member
  | _ => exact not_contains_of_apart test member

end CharSet

/-! ## Sets within others -/

namespace CodeRanges

/-- Whether each of some ascending ranges from `low` on lies in one of others. What lies before a range is not looked
    at again for later ones. -/
def includes (low : Nat) : CodeRanges → CodeRanges → Bool
  | [], _ => true
  | (l, h) :: ranges, others =>
    low ≤ l && match others.dropWhile fun r => r.1 ≤ l && r.2 < l with
      | [] => false
      | r :: rest => r.1 ≤ l && h ≤ r.2 && includes l ranges (r :: rest)

theorem inRanges_dropWhile {low n : Nat} (above : low ≤ n) (ranges : CodeRanges) :
    Unicode.inRanges (ranges.dropWhile fun r => r.1 ≤ low && r.2 < low) n = Unicode.inRanges ranges n := by
  induction ranges with
  | nil => rfl
  | cons r ranges ih =>
    obtain ⟨l, h⟩ := r
    rw [List.dropWhile_cons]
    split
    next passed =>
      simp only [Bool.and_eq_true, decide_eq_true_eq] at passed
      rw [ih, Unicode.inRanges, if_neg (by omega), if_neg (by omega)]
    next => rfl

theorem inRanges_of_includes {ranges : CodeRanges} : ∀ {low : Nat} {others : CodeRanges},
    includes low ranges others = true → ∀ r ∈ ranges, low ≤ r.1 ∧
      ∀ n, r.1 ≤ n → n ≤ r.2 → Unicode.inRanges others n = true := by
  induction ranges with
  | nil => simp
  | cons s ranges ih =>
    obtain ⟨l, h⟩ := s
    intro low others test
    rw [includes, Bool.and_eq_true, decide_eq_true_eq] at test
    obtain ⟨start, rest⟩ := test
    split at rest
    · contradiction
    next r behind left =>
      simp only [Bool.and_eq_true, decide_eq_true_eq] at rest
      obtain ⟨⟨first, last⟩, later⟩ := rest
      rw [List.forall_mem_cons]
      constructor
      · refine ⟨start, fun n above below => ?_⟩
        rw [← inRanges_dropWhile above, left, Unicode.inRanges, if_neg (by omega), if_pos (by omega)]
      · intro s member
        obtain ⟨ahead, inside⟩ := ih later s member
        refine ⟨by omega, fun n above below => ?_⟩
        rw [← inRanges_dropWhile (Nat.le_trans ahead above), left]
        exact inside n above below

end CodeRanges

theorem CharProperty.holds_eq (p : CharProperty) (c : Char) : p.holds c = Unicode.inRanges p.ranges c.toNat := by
  cases p <;> rfl

namespace CharSet

/-- Whether the ranges that a set is made of show that all its members have a property. -/
def within (a : CharSet) (p : CharProperty) : Bool :=
  match a.spans? with
  | some ranges => CodeRanges.includes 0 ranges p.ranges
  | none => false

theorem holds_of_within {a : CharSet} {p : CharProperty} (test : a.within p = true) {c : Char}
    (member : a.contains c = true) : p.holds c = true := by
  unfold within at test
  split at test
  next ranges found =>
    obtain ⟨r, listed, above, below⟩ := mem_spans found member
    rw [p.holds_eq]
    exact (CodeRanges.inRanges_of_includes test r listed).2 _ above below
  · contradiction

/-- Whether a set is one of the parts of which `m` is made, or has the property that is one of them. -/
def isPartOf (a : CharSet) : (m : CharSet) → Bool
  | union x y => a.isPartOf x || a.isPartOf y
  | property p => a.within p
  | m => a == m

theorem contains_of_isPartOf {a m : CharSet} (test : a.isPartOf m = true) {c : Char} (member : a.contains c = true) :
    m.contains c = true := by
  induction m with
  | union x y ihx ihy =>
    rw [contains_union, Bool.or_eq_true]
    exact ((Bool.or_eq_true _ _).mp test).imp ihx ihy
  | property p => exact holds_of_within test member
  | _ => exact beq_iff_eq.mp test ▸ member

/-- Whether it can be computed that all members of a set belong to `m`. -/
def includes (m : CharSet) : CharSet → Bool
  | union a b => m.includes a && m.includes b
  | range low high => if low = high then m.contains low else (range low high).isPartOf m
  | a => a.isPartOf m

theorem contains_of_includes {m a : CharSet} (test : m.includes a = true) {c : Char} (member : a.contains c = true) :
    m.contains c = true := by
  induction a with
  | union a b iha ihb =>
    obtain ⟨first, second⟩ := (Bool.and_eq_true _ _).mp test
    exact ((Bool.or_eq_true _ _).mp member).elim (iha first) (ihb second)
  | range low high =>
    rw [includes] at test
    split at test
    next same =>
      subst same
      have single : (range low low).contains c = (c == low) := contains_single low c
      rw [single, beq_iff_eq] at member
      exact member ▸ test
    next => exact contains_of_isPartOf test member
  | _ => exact contains_of_isPartOf test member

end CharSet

end Highlighter
