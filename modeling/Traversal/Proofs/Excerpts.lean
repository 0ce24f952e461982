import Traversal.Excerpt
import Traversal.Proofs.Boundaries
import Traversal.Proofs.Expectations
import Traversal.Proofs.Lines

/-! Excerpts. Whatever stretch an error claims for itself, the one that is marked lies in the text, is
not empty and does not cut a character. -/
namespace Traversal.Excerpt
open Text

variable {text : List Char}

/-! ## The marked stretch -/

/-- The boundaries on both sides of a stretch, before it is widened. -/
theorem floor_le_ceil (text : List Char) (start stop : Nat) :
    floorBoundary text start ≤ ceilBoundary text (max stop (floorBoundary text start)) := by
  have within := (floorBoundary_isGreatest text start).1.1.le
  have behind := (ceilBoundary_isLeast text (max stop (floorBoundary text start))).1.2
  omega

/-- An empty stretch is widened by the character in front of it, and at the start by the first one. -/
theorem markedRange_of_empty {start stop : Nat} (nonempty : text ≠ [])
    (empty : floorBoundary text start = ceilBoundary text (max stop (floorBoundary text start))) :
    ∃ front c back, text = front ++ c :: back ∧
      markedRange text start stop = some (byteLength front, byteLength front + c.utf8Size) ∧
      (floorBoundary text start = byteLength front + c.utf8Size ∨
        floorBoundary text start = 0 ∧ front = []) := by
  obtain ⟨front, back, whole, low⟩ := isBoundary_iff.mp (floorBoundary_isGreatest text start).1.1
  have filled : text.isEmpty = false := List.isEmpty_eq_false_iff.mpr nonempty
  unfold markedRange
  dsimp only
  rw [← empty, if_neg (Nat.lt_irrefl _), filled, low]
  rcases List.eq_nil_or_concat' front with rfl | ⟨front, c, rfl⟩
  · obtain ⟨c, back, rfl⟩ := List.exists_cons_of_ne_nil nonempty
    have first : ceilBoundary ([] ++ c :: back) 1 = byteLength [] + c.utf8Size :=
      ceilBoundary_inside Nat.one_pos (Nat.le_add_left_of_le c.utf8Size_pos)
    exact ⟨[], c, back, rfl, congrArg (fun past => some (0, past)) first, Or.inr ⟨rfl, rfl⟩⟩
  · rw [List.append_assoc, List.singleton_append] at whole
    have size : byteLength (front ++ [c]) = byteLength front + c.utf8Size := byteLength_append _ _
    have positive := c.utf8Size_pos
    have last : floorBoundary text (byteLength front + c.utf8Size - 1) = byteLength front := by
      rw [whole]
      exact floorBoundary_inside (by omega) (by omega)
    refine ⟨front, c, back, whole, ?_, Or.inl size⟩
    rw [size, if_pos (by omega), last]

/-- What is marked in a text for a stretch: at least one whole character, and every byte of the stretch
that the text has. -/
structure Marks (text : List Char) (start stop first past : Nat) : Prop where
  ordered : first < past
  inside : past ≤ byteLength text
  front : IsBoundary text first
  behind : IsBoundary text past
  covers : ∀ offset, start ≤ offset → offset < stop → offset < byteLength text →
    first ≤ offset ∧ offset < past

theorem exists_marks (nonempty : text ≠ []) (start stop : Nat) :
    ∃ first past, markedRange text start stop = some (first, past) ∧
      Marks text start stop first past := by
  obtain ⟨⟨front, within⟩, -⟩ := floorBoundary_isGreatest text start
  obtain ⟨⟨behind, past⟩, -⟩ := ceilBoundary_isLeast text (max stop (floorBoundary text start))
  rcases Nat.lt_or_eq_of_le (floor_le_ceil text start stop) with ordered | empty
  · refine ⟨_, _, if_pos ordered, ordered, behind.le, front, behind, ?_⟩
    intro offset _ _ _
    omega
  · obtain ⟨before, c, after, rfl, marked, -⟩ := markedRange_of_empty nonempty empty
    have positive := c.utf8Size_pos
    have last := isBoundary_behind before c after
    refine ⟨_, _, marked, by omega, last.le, isBoundary_append _ _, last, ?_⟩
    intro offset _ _ _
    omega

/-- The two boundaries from which the marked stretch is made are the ends of two searches, one from the
start of the stretch and one from its end. -/
theorem arrives_floorBoundary (text : List Char) (start : Nat) :
    Arrives text Backward (min start (byteLength text)) (floorBoundary text start) := by
  obtain ⟨⟨boundary, within⟩, greatest⟩ := floorBoundary_isGreatest text start
  have inside := boundary.le
  obtain ⟨tried, search, all⟩ := search_backward
    (show IsGreatest {place | IsBoundary text place ∧ place ≤ min start (byteLength text)} _ from
      ⟨⟨boundary, by omega⟩, fun place ⟨other, before⟩ => greatest ⟨other, by omega⟩⟩)
  exact ⟨tried, search, fun place member => Nat.le_trans (all place member) (Nat.min_le_right _ _),
    fun _ _ other => other.unique backward_single search⟩

theorem arrives_ceilBoundary (text : List Char) (stop low : Nat) :
    Arrives text Forward (max (min stop (byteLength text)) (min low (byteLength text)))
      (ceilBoundary text (max stop low)) := by
  obtain ⟨⟨boundary, within⟩, least⟩ := ceilBoundary_isLeast text (max stop low)
  have inside := boundary.le
  obtain ⟨tried, search, all⟩ := search_forward
    (show IsLeast {place | IsBoundary text place ∧
        max (min stop (byteLength text)) (min low (byteLength text)) ≤ place} _ from
      ⟨⟨boundary, by omega⟩, fun place ⟨other, behind⟩ => least ⟨other, by omega⟩⟩)
  exact ⟨tried, search, fun place member => Nat.le_trans (all place member) inside,
    fun _ _ other => other.unique forward_single search⟩

/-- An error at a character marks that character, and one at the end of the text the last. -/
theorem markedRange_of_error {before after : List Char} (nonempty : text ≠ [])
    (whole : text = before ++ after) :
    ∃ front mark back, text = front ++ mark :: back ∧
      (before = front ∨ back = [] ∧ before = front ++ [mark]) ∧
      markedRange text (byteLength before) (byteLength before + 1) =
        some (byteLength front, byteLength front + mark.utf8Size) := by
  have low : floorBoundary text (byteLength before) = byteLength before :=
    floorBoundary_of_isBoundary (whole ▸ isBoundary_append before after)
  have next : max (byteLength before + 1) (byteLength before) = byteLength before + 1 := by omega
  cases after with
  | cons mark back =>
    refine ⟨before, mark, back, whole, Or.inl rfl, ?_⟩
    have positive := mark.utf8Size_pos
    have high : ceilBoundary text (byteLength before + 1) = byteLength before + mark.utf8Size := by
      rw [whole]
      exact ceilBoundary_inside (by omega) (by omega)
    unfold markedRange
    dsimp only
    rw [low, next, high, if_pos (by omega)]
  | nil =>
    rw [List.append_nil] at whole
    subst whole
    have high : ceilBoundary text (byteLength text + 1) = byteLength text :=
      ceilBoundary_end (Nat.le_succ _)
    rcases List.eq_nil_or_concat' text with rfl | ⟨front, mark, rfl⟩
    · exact absurd rfl nonempty
    · have positive := mark.utf8Size_pos
      have size : byteLength (front ++ [mark]) = byteLength front + mark.utf8Size :=
        byteLength_append front [mark]
      have last : floorBoundary (front ++ [mark]) (byteLength (front ++ [mark]) - 1) = byteLength front :=
        floorBoundary_inside (by omega) (by omega)
      refine ⟨front, mark, [], rfl, Or.inr ⟨rfl, rfl⟩, ?_⟩
      unfold markedRange
      dsimp only
      rw [low, next, high, if_neg (Nat.lt_irrefl _), if_pos (by omega), last, size]

/-- In an empty text nothing is marked. -/
theorem markedRange_nil (start stop : Nat) : markedRange [] start stop = none := rfl

/-! ## The excerpt -/

theorem charactersBefore_lt {first : Nat} (boundary : IsBoundary text first)
    (inside : first < byteLength text) : charactersBefore text first < text.length := by
  obtain ⟨front, back, rfl, rfl⟩ := isBoundary_iff.mp boundary
  rw [charactersBefore_append, List.length_append]
  cases back with
  | nil => simp at inside
  | cons c back => simp

/-- Where something is marked there is a line to show. -/
theorem exists_frame {diagnostic : Diagnostic} {place : Place} (name : String)
    (placed : diagnostic.place = some place) {first past : Nat}
    (marked : markedRange text place.start place.stop = some (first, past))
    (marks : Marks text place.start place.stop first past) :
    ∃ number line column,
      lineAt 1 (charactersBefore text first) (lines text) = some (number, line, column) ∧
      render diagnostic text name = frame name diagnostic.detail number ⟨trimEnd line, column,
        column + (charactersBefore text past - charactersBefore text first)⟩ := by
  have within := charactersBefore_lt marks.front (Nat.lt_of_lt_of_le marks.ordered marks.inside)
  rw [← flatten_lines text] at within
  obtain ⟨number, line, column, found⟩ := exists_lineAt 1 within
  rw [flatten_lines text] at found
  refine ⟨number, line, column, found, ?_⟩
  simp only [render, placed, marked, found]

theorem paint_eq (style : Style) (text : String) : ∃ rest, style.paint text = "\x1b[" ++ rest :=
  ⟨style.on ++ ("m" ++ (text ++ ("\x1b[" ++ (style.off ++ "m")))), by
    simp only [Style.paint, String.append_assoc]; rfl⟩

/-- A frame is not what is shown without one: it begins with a change of colour. -/
theorem frame_ne_bare (name message detail : String) (number : Nat) (line : MarkedLine) :
    frame name message number line ≠ bare detail := by
  obtain ⟨rest, painted⟩ := paint_eq markStyle "[PARSE_ERROR] Error:"
  intro same
  have heads := congrArg (fun text : String => text.toList.head?) same
  unfold frame bare at heads
  simp only [List.map_cons, String.join_cons, painted, String.append_assoc, String.toList_append] at heads
  simp [ToString.toString] at heads

/-- The bare message is left to errors without a place and to empty texts. -/
theorem render_eq_bare_iff (diagnostic : Diagnostic) (text : List Char) (name : String) :
    render diagnostic text name = bare diagnostic.detail ↔ diagnostic.place = none ∨ text = [] := by
  constructor
  · intro same
    by_contra neither
    rw [not_or] at neither
    obtain ⟨place, placed⟩ := Option.ne_none_iff_exists'.mp neither.1
    obtain ⟨first, past, marked, marks⟩ := exists_marks neither.2 place.start place.stop
    obtain ⟨number, line, column, -, framed⟩ := exists_frame name placed marked marks
    exact frame_ne_bare _ _ _ _ _ (framed.symm.trans same)
  · rintro (without | rfl)
    · simp only [render, without]
    · cases placed : diagnostic.place with
      | none => simp only [render, placed]
      | some place => simp only [render, placed, markedRange_nil]

/-- The searches for the two ends of a mark arrive and stay in the text; what they find is marked, and if
that is empty, the character beside it. A text that is not empty has a mark that consists of whole
characters of it and lacks no byte of the given stretch, and the mark is what the excerpt shows; only an
empty text, like an error without a place, is left with the message. An error of the parser marks one
character, the one at which it stands or, at the end, the last. -/
theorem marked_stretch_is_valid :
    (∀ (text : List Char) (start stop : Nat), ∃ low high,
      Arrives text Backward (min start (byteLength text)) low ∧
      Arrives text Forward (max (min stop (byteLength text)) low) high ∧
      (low < high ∧ markedRange text start stop = some (low, high) ∨
        low = high ∧ text = [] ∧ markedRange text start stop = none ∨
        low = high ∧ ∃ front c back, text = front ++ c :: back ∧
          (low = byteLength front + c.utf8Size ∨ low = 0 ∧ front = []) ∧
          markedRange text start stop = some (byteLength front, byteLength front + c.utf8Size))) ∧
    (∀ (diagnostic : Diagnostic) (place : Place) (text : List Char) (name : String),
      diagnostic.place = some place → text ≠ [] →
      ∃ first past, markedRange text place.start place.stop = some (first, past) ∧
        Marks text place.start place.stop first past ∧
        ∃ number line column,
          lineAt 1 (charactersBefore text first) (lines text) = some (number, line, column) ∧
          render diagnostic text name = frame name diagnostic.detail number ⟨trimEnd line, column,
            column + (charactersBefore text past - charactersBefore text first)⟩) ∧
    (∀ (diagnostic : Diagnostic) (text : List Char) (name : String),
      render diagnostic text name = bare diagnostic.detail ↔ diagnostic.place = none ∨ text = []) ∧
    ∀ (text : String) (error : ParseError) (place : Place), text ≠ "" →
      parseEvents text = .error error → error.diagnostic.place = some place →
      ∃ front mark back, text.toList = front ++ mark :: back ∧
        (place.start = byteLength front ∨ place.start = byteLength text.toList ∧ back = []) ∧
        markedRange text.toList place.start place.stop =
          some (byteLength front, byteLength front + mark.utf8Size) := by
  refine ⟨?searches, ?marks, render_eq_bare_iff, ?errors⟩
  case searches =>
    intro text start stop
    refine ⟨floorBoundary text start, ceilBoundary text (max stop (floorBoundary text start)),
      arrives_floorBoundary text start, ?_, ?_⟩
    · have inside := (floorBoundary_isGreatest text start).1.1.le
      have arrives := arrives_ceilBoundary text stop (floorBoundary text start)
      rwa [Nat.min_eq_left inside] at arrives
    · rcases Nat.lt_or_eq_of_le (floor_le_ceil text start stop) with ordered | empty
      · exact Or.inl ⟨ordered, if_pos ordered⟩
      · by_cases nonempty : text = []
        · subst nonempty
          exact Or.inr (Or.inl ⟨empty, rfl, markedRange_nil start stop⟩)
        · obtain ⟨front, c, back, whole, marked, beside⟩ := markedRange_of_empty nonempty empty
          exact Or.inr (Or.inr ⟨empty, front, c, back, whole, beside, marked⟩)
  case marks =>
    intro diagnostic place text name placed nonempty
    obtain ⟨first, past, marked, marks⟩ := exists_marks nonempty place.start place.stop
    exact ⟨first, past, marked, marks, exists_frame name placed marked marks⟩
  case errors =>
    intro text error place nonempty failed placed
    rw [parseEvents_eq_error_iff] at failed
    cases error with
    | limitTooLarge digits => cases placed
    | unexpected before expected =>
      cases placed
      obtain ⟨-, ⟨after, whole⟩, -⟩ := expected_of_unexpected failed
      have nonempty' : text.toList ≠ [] := fun empty => nonempty (String.toList_eq_nil_iff.mp empty)
      obtain ⟨front, mark, back, split, stands, marked⟩ := markedRange_of_error nonempty' whole
      refine ⟨front, mark, back, split, ?_, marked⟩
      rcases stands with rfl | ⟨rfl, rfl⟩
      · exact Or.inl rfl
      · exact Or.inr ⟨congrArg byteLength split.symm, rfl⟩

/-- A stretch inside a character marks the whole character. -/
theorem stretch_inside_a_character :
    markedRange ['a', ' ', 'é'] 3 4 = some (2, 4) ∧ Marks ['a', ' ', 'é'] 3 4 2 4 := by
  have range : markedRange ['a', ' ', 'é'] 3 4 = some (2, 4) := by decide
  obtain ⟨first, past, marked, marks, -⟩ := marked_stretch_is_valid.2.1 ⟨"expected `>`", some ⟨3, 4, 1, 4⟩⟩
    ⟨3, 4, 1, 4⟩ ['a', ' ', 'é'] "<query>" rfl (List.cons_ne_nil _ _)
  cases range.symm.trans marked
  exact ⟨range, marks⟩

end Traversal.Excerpt
