import Mathlib.Data.List.Basic
import Traversal.Text.Lines

/-! Lines of a text. The lines make up the text, and each character stands in one of them. White space
or other text in front of a character moves it down by the lines that end there and, on the first line,
to the side; text behind it does not move it. -/
namespace Traversal.Text

variable {text lead core : List Char}

/-! ## Lines -/

theorem flatten_linesFrom (line text : List Char) :
    (linesFrom line text).flatten = line.reverse ++ text := by
  fun_induction linesFrom line text with
  | case1 line empty => simp_all
  | case2 line filled => simp
  | case3 line rest ih => simp [ih]
  | case4 line c rest _ ended ih => simp [ih]
  | case5 line c rest _ open_ ih => simp [ih]

/-- The lines of a text make up the text. -/
theorem flatten_lines (text : List Char) : (lines text).flatten = text :=
  flatten_linesFrom [] text

/-- Whole lines in front of a character count, and their characters are passed. -/
theorem lineAt_append (number index : Nat) (first second : List (List Char)) :
    lineAt number (first.flatten.length + index) (first ++ second) =
      lineAt (number + first.length) index second := by
  induction first generalizing number with
  | nil => simp
  | cons line rest ih =>
    simp only [List.flatten_cons, List.length_append, List.cons_append, lineAt]
    rw [if_neg (by omega), show line.length + rest.flatten.length + index - line.length =
      rest.flatten.length + index by omega, ih, List.length_cons]
    congr 1
    omega

/-- Every character stands in a line. -/
theorem exists_lineAt (number : Nat) {index : Nat} {lines : List (List Char)}
    (within : index < lines.flatten.length) :
    ∃ number' line column, lineAt number index lines = some (number', line, column) := by
  induction lines generalizing number index with
  | nil => exact absurd within (Nat.not_lt_zero _)
  | cons line rest ih =>
    rw [lineAt]
    split
    · exact ⟨number, line, index, rfl⟩
    · rw [List.flatten_cons, List.length_append] at within
      exact ih (number + 1) (by omega)

/-! ## Locations -/

/-- The number of a line and a column in it, which is counted from one. -/
def numbered (found : Nat × List Char × Nat) : Nat × Nat := (found.1, found.2.2 + 1)

/-- The line of the character at an index and its column there, both counted from one. -/
def location (text : List Char) (index : Nat) : Option (Nat × Nat) :=
  (lineAt 1 index (lines text)).map numbered

/-! ## Lines of a text with more text around it -/

/-- A character that is no carriage return in front of a line feed ends a line alone or not at all. -/
theorem linesFrom_cons {line rest : List Char} {c : Char}
    (alone : c = '\r' → rest.head? ≠ some '\n') :
    linesFrom line (c :: rest) =
      if isLineEnd c then (c :: line).reverse :: linesFrom [] rest else linesFrom (c :: line) rest := by
  rw [linesFrom.eq_def]
  split
  · rename_i same
    cases same
  · rename_i same
    cases same
    exact absurd rfl (alone rfl)
  · rename_i same
    cases same
    rfl

theorem linesFrom_pair (line rest : List Char) :
    linesFrom line ('\r' :: '\n' :: rest) = ('\n' :: '\r' :: line).reverse :: linesFrom [] rest := by
  rw [linesFrom]

/-- What has been passed of a line stands in front of the first line to come. -/
theorem exists_first_line (nonempty : text ≠ []) :
    ∃ first rest, first ≠ [] ∧ ∀ line, linesFrom line text = (line.reverse ++ first) :: rest := by
  induction text with
  | nil => exact absurd rfl nonempty
  | cons c text ih =>
    by_cases pair : c = '\r' ∧ text.head? = some '\n'
    · obtain ⟨rfl, head⟩ := pair
      obtain ⟨rest, rfl⟩ := List.head?_eq_some_iff.mp head
      refine ⟨['\r', '\n'], linesFrom [] rest, List.cons_ne_nil _ _, fun line => ?_⟩
      simp [linesFrom]
    · have alone : c = '\r' → text.head? ≠ some '\n' := fun return_ feed => pair ⟨return_, feed⟩
      by_cases ended : isLineEnd c = true
      · refine ⟨[c], linesFrom [] text, List.cons_ne_nil _ _, fun line => ?_⟩
        rw [linesFrom_cons alone, if_pos ended, List.reverse_cons]
      · by_cases last : text = []
        · subst last
          refine ⟨[c], [], List.cons_ne_nil _ _, fun line => ?_⟩
          rw [linesFrom_cons alone, if_neg ended, linesFrom, if_neg (by simp), List.reverse_cons]
        · obtain ⟨first, rest, -, split⟩ := ih last
          refine ⟨c :: first, rest, List.cons_ne_nil _ _, fun line => ?_⟩
          rw [linesFrom_cons alone, if_neg ended, split, List.reverse_cons, List.append_assoc,
            List.singleton_append]

theorem alone_append {c : Char} {rest : List Char} (apart : core.head? ≠ some '\n')
    (other : ∀ more, c = '\r' → rest = '\n' :: more → False) :
    c = '\r' → (rest ++ core).head? ≠ some '\n' := by
  intro return_ feed
  cases rest with
  | nil => exact apart feed
  | cons d more =>
    cases feed
    exact other more return_ rfl

/-- Text that does not begin with a line feed leaves the lines in front of it as they are. -/
theorem exists_lines_before (apart : core.head? ≠ some '\n') (line lead : List Char) :
    ∃ ended opened, line.reverse ++ lead = ended.flatten ++ opened ∧
      linesFrom line (lead ++ core) = ended ++ linesFrom opened.reverse core ∧
      (ended = [] ↔ ∀ c ∈ lead, isLineEnd c = false) := by
  fun_induction linesFrom line lead with
  | case1 line empty => exact ⟨[], line.reverse, by simp, by simp, by simp⟩
  | case2 line filled => exact ⟨[], line.reverse, by simp, by simp, by simp⟩
  | case3 line rest ih =>
    obtain ⟨ended, opened, whole, split, -⟩ := ih
    rw [List.reverse_nil, List.nil_append] at whole
    refine ⟨('\n' :: '\r' :: line).reverse :: ended, opened, ?_, ?_, ?_⟩
    · simp [whole]
    · rw [List.cons_append, List.cons_append, List.cons_append, ← split, linesFrom]
    · simp [isLineEnd]
  | case4 line c rest other ends ih =>
    obtain ⟨ended, opened, whole, split, -⟩ := ih
    rw [List.reverse_nil, List.nil_append] at whole
    refine ⟨(c :: line).reverse :: ended, opened, ?_, ?_, ?_⟩
    · simp [whole]
    · rw [List.cons_append, linesFrom_cons (alone_append apart other), if_pos ends, split,
        List.cons_append]
    · simp [ends]
  | case5 line c rest other open_ ih =>
    obtain ⟨ended, opened, whole, split, unended⟩ := ih
    refine ⟨ended, opened, ?_, ?_, ?_⟩
    · rw [← whole, List.reverse_cons, List.append_assoc, List.singleton_append]
    · rw [List.cons_append, linesFrom_cons (alone_append apart other), if_neg open_, split]
    · rw [unended, List.forall_mem_cons, and_iff_right (Bool.eq_false_iff.mpr open_)]

/-! ## Shifted lines -/

theorem lineAt_first {number place : Nat} {first : List Char} (inside : place < first.length)
    (rest : List (List Char)) : lineAt number place (first :: rest) = some (number, first, place) :=
  if_pos inside

theorem lineAt_shift (more number index : Nat) (lines : List (List Char)) :
    lineAt (more + number) index lines =
      (lineAt number index lines).map fun (number, line, column) => (more + number, line, column) := by
  induction lines generalizing number index with
  | nil => rfl
  | cons line rest ih =>
    rw [lineAt, lineAt]
    split
    · rfl
    · exact ih (number + 1) (index - line.length)

theorem le_of_lineAt {number index number' column : Nat} {lines : List (List Char)} {line : List Char}
    (found : lineAt number index lines = some (number', line, column)) : number ≤ number' := by
  induction lines generalizing number index with
  | nil => cases found
  | cons line rest ih =>
    rw [lineAt] at found
    split at found
    · cases found
      exact Nat.le_refl _
    · exact Nat.le_of_succ_le (ih found)

/-- Only the first line is changed by what stands in front of a text; the others keep their columns. -/
theorem location_shifted {whole opened first : List Char} {ended rest : List (List Char)}
    {index number column : Nat} (split : lines core = first :: rest)
    (before : lines whole = ended ++ (opened ++ first) :: rest)
    (found : location core index = some (number, column)) :
    location whole (ended.flatten.length + (opened.length + index)) =
      some (ended.length + number, if number = 1 then opened.length + column else column) := by
  unfold location at found ⊢
  rw [split] at found
  rw [before, lineAt_append]
  by_cases inside : index < first.length
  · rw [lineAt_first inside] at found
    cases found
    rw [lineAt_first (by rw [List.length_append]; omega), if_pos rfl, Nat.add_comm 1]
    rfl
  · rw [lineAt, if_neg inside] at found
    obtain ⟨⟨number', line, column'⟩, at_, same⟩ := Option.map_eq_some_iff.mp found
    cases same
    have least := le_of_lineAt at_
    have later : opened.length + index - (opened.length + first.length) = index - first.length := by
      omega
    have below : 1 + ended.length + 1 = ended.length + 2 := by omega
    rw [lineAt, List.length_append, if_neg (by omega), later, below, lineAt_shift, at_,
      if_neg (by omega)]
    rfl

/-- Text in front moves a location: on the first line by the columns that stand in front there, and
down by the lines that end in front. -/
theorem location_behind (apart : core.head? ≠ some '\n') (nonempty : core ≠ []) (lead : List Char) :
    ∃ above beside, (above = 0 ↔ ∀ c ∈ lead, isLineEnd c = false) ∧
      (above = 0 → beside = lead.length) ∧
      location (lead ++ core) lead.length = some (above + 1, beside + 1) ∧
      ∀ index number column, location core index = some (number, column) →
        location (lead ++ core) (lead.length + index) =
          some (above + number, if number = 1 then beside + column else column) := by
  obtain ⟨ended, opened, whole, before, unended⟩ := exists_lines_before apart [] lead
  obtain ⟨first, rest, filled, split⟩ := exists_first_line nonempty
  rw [split, List.reverse_reverse] at before
  have size : lead.length = ended.flatten.length + opened.length := by
    rw [← List.length_append, ← whole, List.reverse_nil, List.nil_append]
  have moved : ∀ index number column, location core index = some (number, column) →
      location (lead ++ core) (lead.length + index) =
        some (ended.length + number, if number = 1 then opened.length + column else column) := by
    intro index number column found
    rw [size, Nat.add_assoc]
    exact location_shifted (split []) before found
  refine ⟨ended.length, opened.length, ?_, ?_, ?_, moved⟩
  · rw [List.length_eq_zero_iff, unended]
  · intro none
    rw [List.length_eq_zero_iff] at none
    rw [size, none, List.flatten_nil, List.length_nil, Nat.zero_add]
  · refine moved 0 1 1 ?_
    have start : lines core = first :: rest := split []
    rw [location, start, lineAt_first (List.length_pos_iff.mpr filled)]
    rfl

/-- Text behind a character does not move it: it lengthens the line at most. -/
theorem lineAt_linesFrom_append (trail line core : List Char) {number place : Nat}
    (inside : place < line.length + core.length) :
    (lineAt number place (linesFrom line (core ++ trail))).map numbered =
      (lineAt number place (linesFrom line core)).map numbered := by
  fun_induction linesFrom line core generalizing number place with
  | case1 line empty => simp_all
  | case2 line filled =>
    have passed : place < line.reverse.length := by simpa using inside
    rw [List.nil_append, lineAt_first passed]
    by_cases last : trail = []
    · rw [last, linesFrom, if_neg filled, lineAt_first passed]
    · obtain ⟨first, rest, -, split⟩ := exists_first_line last
      rw [split, lineAt_first (by rw [List.length_append]; omega)]
      rfl
  | case3 line rest ih =>
    rw [List.cons_append, List.cons_append, linesFrom_pair, lineAt, lineAt]
    split
    · rfl
    · rename_i passed
      refine ih ?_
      simp only [List.length_reverse, List.length_cons, List.length_nil] at inside passed ⊢
      omega
  | case4 line c rest other ends ih =>
    rw [List.cons_append]
    by_cases alone : c = '\r' → (rest ++ trail).head? ≠ some '\n'
    · rw [linesFrom_cons alone, if_pos ends, lineAt, lineAt]
      split
      · rfl
      · rename_i passed
        refine ih ?_
        simp only [List.length_reverse, List.length_cons, List.length_nil] at inside passed ⊢
        omega
    · -- The text breaks off within an ending of two characters.
      rw [Classical.not_imp, not_not] at alone
      obtain ⟨rfl, feed⟩ := alone
      cases rest with
      | nil =>
        obtain ⟨more, rfl⟩ := List.head?_eq_some_iff.mp feed
        have within : place < ('\r' :: line).reverse.length := by simpa using inside
        have within' : place < ('\n' :: '\r' :: line).reverse.length := by
          rw [List.length_reverse] at within ⊢
          exact Nat.lt_succ_of_lt within
        rw [List.nil_append, linesFrom_pair, lineAt_first within, lineAt_first within']
        rfl
      | cons d rest =>
        cases feed
        exact absurd rfl fun same => other rest rfl same
  | case5 line c rest other open_ ih =>
    have alone : c = '\r' → (rest ++ trail).head? ≠ some '\n' := by
      rintro rfl
      exact absurd (show isLineEnd '\r' = true by decide) open_
    rw [List.cons_append, linesFrom_cons alone, if_neg open_]
    refine ih ?_
    simp only [List.length_cons] at inside ⊢
    omega

theorem location_append {index : Nat} (inside : index < core.length) (trail : List Char) :
    location (core ++ trail) index = location core index :=
  lineAt_linesFrom_append trail [] core (by simpa using inside)

end Traversal.Text
