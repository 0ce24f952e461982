import Mathlib.Order.Bounds.Basic
import Traversal.Text.Boundary

/-! Boundaries of a text. The boundary at or in front of an offset is the greatest that is not behind
it, and the one at or behind an offset is the least that is not in front of it. A search that tries one
offset after the other comes to the same boundary, and on its way it never leaves the text. -/
namespace Traversal.Text

variable {text front back : List Char} {c : Char} {offset : Nat}

/-! ## Lengths -/

theorem byteLength_cons (c : Char) (text : List Char) :
    byteLength (c :: text) = c.utf8Size + byteLength text := rfl

theorem byteLength_append (front back : List Char) :
    byteLength (front ++ back) = byteLength front + byteLength back := by
  induction front with
  | nil => rw [List.nil_append, show byteLength [] = 0 from rfl, Nat.zero_add]
  | cons c rest ih => rw [List.cons_append, byteLength_cons, byteLength_cons, ih, Nat.add_assoc]

/-! ## Boundaries -/

/-- A boundary divides the text. -/
theorem isBoundary_iff :
    IsBoundary text offset ↔ ∃ front back, text = front ++ back ∧ offset = byteLength front := by
  constructor
  · rintro ⟨count, rfl⟩
    exact ⟨text.take count, text.drop count, (List.take_append_drop count text).symm, rfl⟩
  · rintro ⟨front, back, rfl, rfl⟩
    exact ⟨front.length, by rw [List.take_left]⟩

theorem isBoundary_append (front back : List Char) :
    IsBoundary (front ++ back) (byteLength front) := isBoundary_iff.mpr ⟨front, back, rfl, rfl⟩

theorem isBoundary_zero (text : List Char) : IsBoundary text 0 := isBoundary_append [] text

theorem isBoundary_byteLength (text : List Char) : IsBoundary text (byteLength text) :=
  isBoundary_iff.mpr ⟨text, [], (List.append_nil text).symm, rfl⟩

theorem isBoundary_behind (front : List Char) (c : Char) (back : List Char) :
    IsBoundary (front ++ c :: back) (byteLength front + c.utf8Size) :=
  isBoundary_iff.mpr ⟨front ++ [c], back, by simp, (byteLength_append front [c]).symm⟩

theorem IsBoundary.le (boundary : IsBoundary text offset) : offset ≤ byteLength text := by
  obtain ⟨front, back, rfl, rfl⟩ := isBoundary_iff.mp boundary
  rw [byteLength_append]
  exact Nat.le_add_right _ _

theorem isBoundary_cons_iff :
    IsBoundary (c :: text) offset ↔
      offset = 0 ∨ ∃ rest, offset = c.utf8Size + rest ∧ IsBoundary text rest := by
  constructor
  · rintro ⟨count, rfl⟩
    cases count with
    | zero => exact Or.inl rfl
    | succ count => exact Or.inr ⟨byteLength (text.take count), rfl, count, rfl⟩
  · rintro (rfl | ⟨rest, rfl, count, rfl⟩)
    · exact isBoundary_zero _
    · exact ⟨count + 1, rfl⟩

/-! ## The boundaries on either side -/

theorem floorBoundary_isGreatest (text : List Char) (offset : Nat) :
    IsGreatest {place | IsBoundary text place ∧ place ≤ offset} (floorBoundary text offset) := by
  induction text generalizing offset with
  | nil => exact ⟨⟨isBoundary_zero [], Nat.zero_le _⟩, fun place ⟨boundary, _⟩ => boundary.le⟩
  | cons c rest ih =>
    rw [floorBoundary]
    split
    · rename_i inside
      refine ⟨⟨isBoundary_zero _, Nat.zero_le _⟩, fun place ⟨boundary, within⟩ => ?_⟩
      rcases isBoundary_cons_iff.mp boundary with rfl | ⟨further, rfl, -⟩
      · exact Nat.le_refl 0
      · omega
    · obtain ⟨⟨boundary, within⟩, greatest⟩ := ih (offset - c.utf8Size)
      refine ⟨⟨isBoundary_cons_iff.mpr (Or.inr ⟨_, rfl, boundary⟩), by omega⟩, ?_⟩
      rintro place ⟨boundary', within'⟩
      rcases isBoundary_cons_iff.mp boundary' with rfl | ⟨further, rfl, boundary''⟩
      · exact Nat.zero_le _
      · have least := greatest ⟨boundary'', by omega⟩
        omega

/-- Behind the end of the text the end is the boundary. -/
theorem ceilBoundary_isLeast (text : List Char) (offset : Nat) :
    IsLeast {place | IsBoundary text place ∧ min offset (byteLength text) ≤ place}
      (ceilBoundary text offset) := by
  induction text generalizing offset with
  | nil => exact ⟨⟨isBoundary_zero [], Nat.min_le_right _ _⟩, fun place _ => Nat.zero_le place⟩
  | cons c rest ih =>
    have positive := c.utf8Size_pos
    rw [ceilBoundary, byteLength_cons]
    split
    · rename_i start
      exact ⟨⟨isBoundary_zero _, by omega⟩, fun place _ => Nat.zero_le place⟩
    · obtain ⟨⟨boundary, within⟩, least⟩ := ih (offset - c.utf8Size)
      refine ⟨⟨isBoundary_cons_iff.mpr (Or.inr ⟨_, rfl, boundary⟩), by omega⟩, ?_⟩
      rintro place ⟨boundary', within'⟩
      rcases isBoundary_cons_iff.mp boundary' with rfl | ⟨further, rfl, boundary''⟩
      · omega
      · have greatest := least ⟨boundary'', by omega⟩
        omega

/-- A boundary is its own neighbour on either side. -/
theorem floorBoundary_of_isBoundary (boundary : IsBoundary text offset) :
    floorBoundary text offset = offset :=
  (floorBoundary_isGreatest text offset).unique ⟨⟨boundary, Nat.le_refl _⟩, fun _ ⟨_, within⟩ => within⟩

/-- There is no boundary inside a character. -/
theorem IsBoundary.outside (boundary : IsBoundary (front ++ c :: back) offset) :
    offset ≤ byteLength front ∨ byteLength front + c.utf8Size ≤ offset := by
  induction front generalizing offset with
  | nil =>
    rcases isBoundary_cons_iff.mp boundary with rfl | ⟨further, rfl, -⟩
    · exact Or.inl (Nat.le_refl 0)
    · exact Or.inr (by rw [show byteLength [] = 0 from rfl]; omega)
  | cons d front ih =>
    rcases isBoundary_cons_iff.mp boundary with rfl | ⟨further, rfl, boundary'⟩
    · exact Or.inl (Nat.zero_le _)
    · rw [byteLength_cons]
      rcases ih boundary' with within | behind
      · exact Or.inl (by omega)
      · exact Or.inr (by omega)

theorem floorBoundary_inside (low : byteLength front ≤ offset)
    (high : offset < byteLength front + c.utf8Size) :
    floorBoundary (front ++ c :: back) offset = byteLength front := by
  refine (floorBoundary_isGreatest _ _).unique ⟨⟨isBoundary_append _ _, low⟩, ?_⟩
  rintro place ⟨boundary, within⟩
  rcases boundary.outside with least | behind
  · exact least
  · omega

theorem ceilBoundary_inside (low : byteLength front < offset)
    (high : offset ≤ byteLength front + c.utf8Size) :
    ceilBoundary (front ++ c :: back) offset = byteLength front + c.utf8Size := by
  have size : byteLength (front ++ c :: back) = byteLength front + c.utf8Size + byteLength back := by
    rw [byteLength_append, byteLength_cons, Nat.add_assoc]
  refine (ceilBoundary_isLeast _ _).unique ⟨⟨isBoundary_behind front c back, by omega⟩, ?_⟩
  rintro place ⟨boundary, within⟩
  rcases boundary.outside with least | greater
  · omega
  · exact greater

/-- The end of the text is the boundary behind everything. -/
theorem ceilBoundary_end (behind : byteLength text ≤ offset) :
    ceilBoundary text offset = byteLength text := by
  refine (ceilBoundary_isLeast text offset).unique ⟨⟨isBoundary_byteLength text, by omega⟩, ?_⟩
  rintro place ⟨-, within⟩
  omega

/-- The characters in front of a boundary are those in front of it. -/
theorem charactersBefore_append (front back : List Char) :
    charactersBefore (front ++ back) (byteLength front) = front.length := by
  induction front with
  | nil =>
    cases back with
    | nil => rfl
    | cons c rest => exact if_pos c.utf8Size_pos
  | cons c rest ih =>
    rw [List.cons_append, charactersBefore, byteLength_cons, if_neg (by omega),
      Nat.add_sub_cancel_left, ih, List.length_cons, Nat.add_comm]

/-! ## Searches -/

/-- One offset nearer to the start of the text. At the start there is none. -/
def Backward (offset next : Nat) : Prop := offset = next + 1

/-- One offset nearer to the end of the text, or further behind it. -/
def Forward (offset next : Nat) : Prop := next = offset + 1

theorem backward_single : Relator.RightUnique Backward := by
  intro offset next next' left right
  unfold Backward at left right
  omega

theorem forward_single : Relator.RightUnique Forward := by
  intro offset next next' left right
  exact left.trans right.symm

/-- A search from an offset that goes on until it stands on a boundary, with all offsets that it tries
in order. -/
inductive Search (text : List Char) (moves : Nat → Nat → Prop) : Nat → List Nat → Nat → Prop
  | found {offset : Nat} (boundary : IsBoundary text offset) : Search text moves offset [offset] offset
  | move {offset next last : Nat} {tried : List Nat} (inside : ¬ IsBoundary text offset)
      (moved : moves offset next) (rest : Search text moves next tried last) :
      Search text moves offset (offset :: tried) last

/-- A search that has only one way to go has only one end. -/
theorem Search.unique {moves : Nat → Nat → Prop} {tried tried' : List Nat} {last last' : Nat}
    (single : Relator.RightUnique moves) (left : Search text moves offset tried last)
    (right : Search text moves offset tried' last') : tried = tried' ∧ last = last' := by
  induction left generalizing tried' last' with
  | found boundary =>
    cases right with
    | found => exact ⟨rfl, rfl⟩
    | move inside => exact absurd boundary inside
  | move inside moved rest ih =>
    cases right with
    | found boundary => exact absurd boundary inside
    | move _ moved' rest' =>
      cases single moved moved'
      obtain ⟨rfl, rfl⟩ := ih rest'
      exact ⟨rfl, rfl⟩

/-- A search arrives at an offset if it ends there, on its only way, and has tried no offset behind the
end of the text. -/
def Arrives (text : List Char) (moves : Nat → Nat → Prop) (offset last : Nat) : Prop :=
  ∃ tried, Search text moves offset tried last ∧ (∀ place ∈ tried, place ≤ byteLength text) ∧
    ∀ tried' last', Search text moves offset tried' last' → tried' = tried ∧ last' = last

/-- The search towards the start ends at the greatest boundary that is not behind the offset. -/
theorem search_backward {last : Nat}
    (greatest : IsGreatest {place | IsBoundary text place ∧ place ≤ offset} last) :
    ∃ tried, Search text Backward offset tried last ∧ ∀ place ∈ tried, place ≤ offset := by
  induction offset with
  | zero =>
    cases Nat.le_zero.mp greatest.1.2
    exact ⟨[0], .found (isBoundary_zero text), by simp⟩
  | succ offset ih =>
    by_cases boundary : IsBoundary text (offset + 1)
    · cases greatest.unique ⟨⟨boundary, Nat.le_refl _⟩, fun place ⟨_, within⟩ => within⟩
      exact ⟨[offset + 1], .found boundary, by simp⟩
    · have other : last ≠ offset + 1 := by
        rintro rfl
        exact boundary greatest.1.1
      have within := greatest.1.2
      obtain ⟨tried, search, all⟩ := ih ⟨⟨greatest.1.1, by omega⟩,
        fun place ⟨boundary', within'⟩ => greatest.2 ⟨boundary', by omega⟩⟩
      refine ⟨(offset + 1) :: tried, .move boundary rfl search, ?_⟩
      intro place member
      rcases List.mem_cons.mp member with rfl | later
      · exact Nat.le_refl _
      · exact Nat.le_succ_of_le (all place later)

/-- The search towards the end ends at the least boundary that is not in front of the offset. -/
theorem search_forward {last : Nat}
    (least : IsLeast {place | IsBoundary text place ∧ offset ≤ place} last) :
    ∃ tried, Search text Forward offset tried last ∧ ∀ place ∈ tried, place ≤ last := by
  obtain ⟨distance, same⟩ := Nat.exists_eq_add_of_le least.1.2
  induction distance generalizing offset with
  | zero =>
    cases same
    exact ⟨[offset], .found least.1.1, by simp⟩
  | succ distance ih =>
    have inside : ¬ IsBoundary text offset := by
      intro boundary
      have within : last ≤ offset := least.2 ⟨boundary, Nat.le_refl _⟩
      omega
    have further : IsLeast {place | IsBoundary text place ∧ offset + 1 ≤ place} last :=
      ⟨⟨least.1.1, by omega⟩, fun place ⟨boundary, behind⟩ => least.2 ⟨boundary, by omega⟩⟩
    obtain ⟨tried, search, all⟩ := ih further (by omega)
    refine ⟨offset :: tried, .move inside rfl search, ?_⟩
    intro place member
    rcases List.mem_cons.mp member with rfl | later
    · omega
    · exact all place later

end Traversal.Text
