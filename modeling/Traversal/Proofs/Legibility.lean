import Traversal.Proofs.WellFormed
import Traversal.Query.Steps

/-! Pieces of generated text tell where they end. If two texts begin with pieces of one sort, the
pieces are equal and so is what follows. Quoted texts, values and lists of them are recognised by
the readers of query texts, since they are spellings of what is read there. -/
namespace Traversal
open Reader Grammar

variable {α : Type} {u v : List Char}

/-! ## Quoted texts and values -/

theorem quoteText_spelled (text : String) : QuotedSpelled text (quoteText text) :=
  .mk (escaped_encode text.toList)

theorem quoteText_unique {a b : String} (same : quoteText a ++ u = quoteText b ++ v) :
    a = b ∧ u = v :=
  Finds.unique (finds_quoted (quoteText_spelled a)) (finds_quoted (quoteText_spelled b)) same

/-- The digits of a number are such as can be written in a query. -/
def Value.Written : Value → Prop
  | .number digits => NumberText digits.toList
  | _ => True

theorem Value.finds_text {value : Value} (written : value.Written) (closes : Closes u) :
    (Literal.value <$> Grammar.literal).Finds value.text value u := by
  cases value with
  | literal text => exact (finds_literal (.text (quoteText_spelled text)) closes).map Literal.value
  | number digits => exact (finds_literal (.number written) closes).map Literal.value
  | boolean b =>
    have truth : BooleanText (String.ofList (Value.boolText b)).toList := by
      cases b
      · exact Or.inr rfl
      · exact Or.inl rfl
    have same : booleanValue (String.ofList (Value.boolText b)) = .boolean b := by
      cases b <;> decide
    have found := (finds_literal (.boolean truth) closes).map Literal.value
    rw [Literal.value, same, String.toList_ofList] at found
    exact found

theorem Value.text_unique {value value' : Value} (written : value.Written)
    (written' : value'.Written) (closes : Closes u) (closes' : Closes v)
    (same : value.text ++ u = value'.text ++ v) : value = value' ∧ u = v :=
  Finds.unique (Value.finds_text written closes) (Value.finds_text written' closes') same

/-- A value does not begin like a list. -/
theorem Value.text_head {value : Value} (written : value.Written) :
    ∃ c rest, value.text = c :: rest ∧ isBlank c = false ∧ c ≠ '[' := by
  cases value with
  | literal text => exact ⟨'\x27', _, rfl, rfl, by decide⟩
  | number digits =>
    obtain ⟨c, rest, same, begun⟩ := numberText_head written
    obtain ⟨d, more, same', solid⟩ : Solid digits.toList := solid_literal (.number written)
    rw [same] at same'
    cases same'
    refine ⟨c, rest, same, solid, ?_⟩
    rintro rfl
    exact absurd begun (by decide)
  | boolean b => cases b <;> exact ⟨_, _, rfl, rfl, by decide⟩

/-! ## Lists -/

/-- A reader of one item or more with commas between them. -/
def items (item : Reader α) : Reader (List α) := do
  let first ← item
  let others ← many (spaced (afterComma item))
  return first :: others

theorem commaEach_flatMap {spelled : α → List Char → Prop} {text : α → List Char} {values : List α}
    (spells : ∀ value ∈ values, spelled value (text value)) :
    CommaEach spelled values (values.flatMap fun value => ", ".toList ++ text value) := by
  induction values with
  | nil => exact .nil
  | cons value values ih =>
    have blank : Layout [' '] := by
      intro c member
      simp_all
    exact .cons layout_nil blank (spells value List.mem_cons_self)
      (ih fun value member => spells value (List.mem_cons_of_mem _ member))

theorem intercalate_cons (text : α → List Char) (value : α) (values : List α) :
    ", ".toList.intercalate ((value :: values).map text) =
      text value ++ values.flatMap fun value => ", ".toList ++ text value := by
  induction values generalizing value with
  | nil => simp
  | cons value' values ih =>
    rw [List.map_cons, List.map_cons, List.intercalate_cons_cons, ← List.map_cons, ih value',
      List.flatMap_cons, List.append_assoc, List.append_assoc]

/-- The items of a list are found in front of its closing bracket. -/
theorem finds_items {item : Reader α} {spelled : α → List Char → Prop}
    {follows : List Char → List Char → Prop} {text : α → List Char} {values : List α}
    (trailing : Trailing follows ',') (closed : ∀ part after, follows part (']' :: after))
    (solid : ∀ value part, spelled value part → Solid part)
    (reads : ∀ value part rest, spelled value part → follows part rest →
      item.Finds part value rest)
    (nonempty : values ≠ []) (spells : ∀ value ∈ values, spelled value (text value)) :
    (items item).Finds (", ".toList.intercalate (values.map text)) values (']' :: u) := by
  obtain ⟨value, values, rfl⟩ := List.exists_cons_of_ne_nil nonempty
  have others := commaEach_flatMap fun value member => spells value (List.mem_cons_of_mem _ member)
  have behind : follows (text value)
      ((values.flatMap fun value => ", ".toList ++ text value) ++ ']' :: u) := by
    cases values with
    | nil => exact closed _ u
    | cons => exact trailing.next _ [] _ layout_nil
  rw [intercalate_cons]
  refine Finds.bind (reads _ _ _ (spells value List.mem_cons_self) behind) ?_
  exact Finds.bind_last (finds_commas trailing solid reads others (closed _ u)
    (stops_cons rfl (by decide))) (Finds.pure _ _)

theorem quotes_unique {labels labels' : List String} (nonempty : labels ≠ [])
    (nonempty' : labels' ≠ [])
    (same : listText (labels.map quoteText) ++ u = listText (labels'.map quoteText) ++ v) :
    labels = labels' ∧ u = v := by
  have found (labels : List String) (nonempty : labels ≠ []) (after : List Char) :
      (items quoted).Finds (", ".toList.intercalate (labels.map quoteText)) labels (']' :: after) :=
    finds_items (trailing_any ',') (fun _ _ => trivial) (fun _ _ => solid_quoted)
      (fun _ _ _ quoted _ => finds_quoted quoted) nonempty fun label _ => quoteText_spelled label
  simp only [listText, List.cons_append, List.append_assoc, List.nil_append, List.cons.injEq,
    true_and] at same
  obtain ⟨equal, behind⟩ := Finds.unique (found _ nonempty u) (found _ nonempty' v) same
  exact ⟨equal, (List.cons.inj behind).2⟩

theorem values_unique {values values' : List Value} (nonempty : values ≠ [])
    (nonempty' : values' ≠ []) (written : ∀ value ∈ values, value.Written)
    (written' : ∀ value ∈ values', value.Written)
    (same : listText (values.map Value.text) ++ u = listText (values'.map Value.text) ++ v) :
    values = values' ∧ u = v := by
  have spelled {value : Value} {part : List Char}
      (same : value.Written ∧ part = value.text) : Solid part := by
    obtain ⟨c, rest, text, solid, -⟩ := Value.text_head same.1
    exact ⟨c, rest, same.2.trans text, solid⟩
  have found (values : List Value) (nonempty : values ≠ [])
      (written : ∀ value ∈ values, value.Written) (after : List Char) :
      (items (Literal.value <$> Grammar.literal)).Finds (", ".toList.intercalate
        (values.map Value.text)) values (']' :: after) :=
    finds_items trailing_closes (fun _ after => by intro c head; cases head; decide)
      (fun _ _ => spelled)
      (fun value part rest same closes => same.2 ▸ Value.finds_text same.1 closes) nonempty
      fun value member => ⟨written value member, rfl⟩
  simp only [listText, List.cons_append, List.append_assoc, List.nil_append, List.cons.injEq,
    true_and] at same
  obtain ⟨equal, behind⟩ := Finds.unique (found _ nonempty written u)
    (found _ nonempty' written' v) same
  exact ⟨equal, (List.cons.inj behind).2⟩

/-! ## Arguments behind the first -/

/-- The last argument of an edge's call, with the comma in front of it. -/
def labelTail (labels : List String) : List Char :=
  if labels.isEmpty then [] else ", ".toList ++ listText (labels.map quoteText)

/-- The last argument of a filter's call, with the comma in front of it. -/
def valueTail : List Value → List Char
  | [] => []
  | [value] => ", ".toList ++ value.text
  | values => ", ".toList ++ listText (values.map Value.text)

theorem labelTail_unique {labels labels' : List String}
    (same : labelTail labels ++ ')' :: u = labelTail labels' ++ ')' :: v) :
    labels = labels' ∧ u = v := by
  cases labels with
  | nil =>
    cases labels' with
    | nil => exact ⟨rfl, (List.cons.inj same).2⟩
    | cons => cases same
  | cons label labels =>
    cases labels' with
    | nil => cases same
    | cons label' labels' =>
      have lists := List.append_cancel_left ((List.append_assoc _ _ _).symm.trans
        (same.trans (List.append_assoc _ _ _)))
      obtain ⟨equal, behind⟩ := quotes_unique (List.cons_ne_nil _ _) (List.cons_ne_nil _ _) lists
      exact ⟨equal, (List.cons.inj behind).2⟩

private theorem text_ne_list {value : Value} (written : value.Written) {items : List (List Char)} :
    value.text ++ u ≠ listText items ++ v := by
  obtain ⟨c, rest, text, -, other⟩ := Value.text_head written
  intro same
  rw [text] at same
  exact other (List.cons.inj same).1

theorem valueTail_unique {values values' : List Value} (written : ∀ value ∈ values, value.Written)
    (written' : ∀ value ∈ values', value.Written)
    (same : valueTail values ++ ')' :: u = valueTail values' ++ ')' :: v) :
    values = values' ∧ u = v := by
  have closes (after : List Char) : Closes (')' :: after) := by
    intro c head
    cases head
    decide
  have behind {front back : List Char}
      (same : (", ".toList ++ front) ++ ')' :: u = (", ".toList ++ back) ++ ')' :: v) :
      front ++ ')' :: u = back ++ ')' :: v :=
    List.append_cancel_left ((List.append_assoc _ _ _).symm.trans
      (same.trans (List.append_assoc _ _ _)))
  rcases values with _ | ⟨value, _ | ⟨second, rest⟩⟩
  · rcases values' with _ | ⟨value', _ | ⟨second', rest'⟩⟩
    · exact ⟨rfl, (List.cons.inj same).2⟩
    · cases same
    · cases same
  · rcases values' with _ | ⟨value', _ | ⟨second', rest'⟩⟩
    · cases same
    · obtain ⟨rfl, after⟩ := Value.text_unique (written value List.mem_cons_self)
        (written' value' List.mem_cons_self) (closes u) (closes v) (behind same)
      exact ⟨rfl, (List.cons.inj after).2⟩
    · exact absurd (behind same) (text_ne_list (written value List.mem_cons_self))
  · rcases values' with _ | ⟨value', _ | ⟨second', rest'⟩⟩
    · cases same
    · exact absurd (behind same).symm (text_ne_list (written' value' List.mem_cons_self))
    · obtain ⟨equal, after⟩ := values_unique (List.cons_ne_nil _ _) (List.cons_ne_nil _ _) written
        written' (behind same)
      exact ⟨equal, (List.cons.inj after).2⟩

theorem count_unique {count count' : Nat} {c : Char} (ended : c.isDigit = false)
    (same : (toString count).toList ++ c :: u = (toString count').toList ++ c :: v) :
    count = count' ∧ u = v := by
  have found (count : Nat) (after : List Char) :
      (run1 Char.isDigit).Finds (toString count).toList (toString count).toList (c :: after) :=
    finds_digits (digits_toString count) fun d head => by cases head; exact ended
  obtain ⟨digits, behind⟩ := Finds.unique (found count u) (found count' v) same
  refine ⟨?_, (List.cons.inj behind).2⟩
  rw [← naturalOfDigits_zeros 0 count, ← naturalOfDigits_zeros 0 count', digits]

/-! ## Calls -/

/-- A text ends where a character stands that is not in it. -/
theorem cut_unique {front front' : List Char} {c : Char} (free : c ∉ front) (free' : c ∉ front')
    (same : front ++ c :: u = front' ++ c :: v) : front = front' ∧ u = v := by
  have found {front : List Char} (free : c ∉ front) (after : List Char) :
      (run (· != c)).Finds front front (c :: after) := by
    refine Finds.run (fun d member => ?_) fun d head => by cases head; exact bne_self_eq_false c
    simp only [bne_iff_ne]
    rintro rfl
    exact free member
  obtain ⟨equal, behind⟩ := Finds.unique (found free u) (found free' v) same
  exact ⟨equal, (List.cons.inj behind).2⟩

end Traversal
