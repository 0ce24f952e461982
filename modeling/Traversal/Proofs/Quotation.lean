import Traversal.Proofs.Legibility
import Traversal.Proofs.Pieces

/-! Quotation. Generated text and query texts quote in one way: what is quoted is read back as it was,
whatever follows, and what is read can be quoted again. A literal of a query may hold more escapes than
it needs; the quoted text of its value is the shortest literal for that value. -/
namespace Traversal
open Reader Grammar

/-! ## Literals -/

/-- The quoted texts that are read are the spellings of their values, and no others. -/
theorem quoted_found_iff {here there : Cursor} {value : String} :
    (Grammar.quoted here).found = some (value, there) ↔
      ∃ literal, QuotedSpelled value literal ∧ here.rest = literal ++ there.rest ∧
        there.index = here.index + literal.length := by
  constructor
  · intro found
    obtain ⟨literal, passed, index, spelled⟩ := sound_quoted here value there found
    exact ⟨literal, spelled, passed, index⟩
  · rintro ⟨literal, spelled, passed, index⟩
    obtain ⟨place, rest⟩ := there
    rw [show here = ⟨here.index, literal ++ rest⟩ from congrArg (Cursor.mk here.index) passed,
      finds_quoted spelled, show place = here.index + literal.length from index]

/-- Escapes are never fewer than those that encoding makes. -/
theorem length_encode_le {text written : List Char} (inner : Escaped text written) :
    (Text.Quoted.encode text).length ≤ written.length := by
  induction inner with
  | nil => exact Nat.le_refl _
  | @plain c text written mark escape rest ih =>
    have ordinary : Text.Quoted.isSpecial c = false := by
      simp [Text.Quoted.isSpecial, Text.Quoted.mark, Text.Quoted.escape, mark, escape]
    simp only [Text.Quoted.encode, ordinary, Bool.false_eq_true, ↓reduceIte, List.length_cons]
    omega
  | @escaped c text written rest ih =>
    have first : (Text.Quoted.encode (c :: text)).length ≤ (Text.Quoted.encode text).length + 2 := by
      rw [Text.Quoted.encode]
      split <;> simp
    simp only [List.length_cons]
    omega

/-- The quoted text is the shortest literal for its value. -/
theorem length_quoteText_le {value : String} {literal : List Char}
    (spelled : QuotedSpelled value literal) : (quoteText value).length ≤ literal.length := by
  cases spelled with
  | mk inner => simpa [quoteText, Text.Quoted.quote] using length_encode_le inner

/-! ## Pieces -/

theorem finds_enclose {kind : PieceKind} {reader : Reader (List Piece)} {parts : List Piece}
    {text after : List Char} (found : reader.Finds text parts after) :
    (Pieces.enclose kind reader).Finds text [.mk kind text parts] after := by
  intro index
  simp only [Pieces.enclose, found index, Option.map_some, Nat.add_sub_cancel_left, List.take_left]

/-- The piece of a literal is the literal, and inside it stands what is between the marks. -/
theorem finds_quoted_piece {text written : List Char} (inner : Escaped text written)
    (after : List Char) :
    Pieces.quoted.Finds ('\x27' :: (written ++ ['\x27']))
      [.mk (.construct .quoted) ('\x27' :: (written ++ ['\x27'])) [.mk .content written []]] after := by
  refine Finds.construct .quoted (finds_enclose ?_)
  have opened : (symbol Text.Quoted.mark).Finds ['\x27'] () ((written ++ ['\x27']) ++ after) :=
    Finds.symbol _ _
  have content : (Pieces.leaf .content Grammar.quotedContent).Finds written
      [.mk .content written []] (['\x27'] ++ after) :=
    finds_enclose (Finds.bind_last (finds_quotedContent inner after) (Finds.pure [] _))
  exact Finds.bind opened (Finds.bind content
    (Finds.bind_last (Finds.symbol _ after) (Finds.pure _ after)))

/-! ## Where a literal ends -/

/-- A quoted text is read as one literal, in front of anything. -/
theorem finds_quoteText (text : String) (after : List Char) :
    Grammar.quoted.Finds (quoteText text) text after := finds_quoted (quoteText_spelled text)

theorem quoteText_injective : Function.Injective quoteText := by
  intro text text' same
  have alone : quoteText text ++ [] = quoteText text' ++ [] := by rw [same]
  exact (quoteText_unique alone).1

/-- A quoted text does not end before its last mark. -/
theorem fails_beginning {text : String} {front back : List Char}
    (whole : quoteText text = front ++ back) (more : back ≠ []) : Grammar.quoted.Fails front := by
  intro index
  cases found : (Grammar.quoted ⟨index, front⟩).found with
  | none => rfl
  | some stopped =>
    obtain ⟨value, there⟩ := stopped
    obtain ⟨literal, spelled, passed, -⟩ := quoted_found_iff.mp found
    have passed : front = literal ++ there.rest := passed
    -- The literal stands in front of the whole text too, so what follows it there is nothing.
    have same : literal ++ (there.rest ++ back) = quoteText text ++ [] := by
      rw [List.append_nil, whole, passed, List.append_assoc]
    have ended := (Finds.unique (finds_quoted spelled) (finds_quoteText text []) same).2
    exact absurd (List.append_eq_nil_iff.mp ended).2 more

/-- Quoting and reading are inverse to each other. In front of anything, a quoted text is read as exactly
one literal; its piece is the quoted text, and what is decoded from between the marks is the text. What
is read are the spellings of texts and nothing else; the value of whatever is read, quoted again, is read
as one literal for that value, which is not longer than the first. Different texts are quoted
differently, also where more text stands behind them, and no beginning of a quoted text is a literal. -/
theorem quoting_and_reading_are_inverse :
    (∀ (text : String) (after : List Char) (index : Nat),
      let literal := quoteText text
      let inner := Text.Quoted.encode text.toList
      let piece := Piece.mk (.construct .quoted) literal [.mk .content inner []]
      let there : Cursor := ⟨index + literal.length, after⟩
      (Grammar.quoted ⟨index, literal ++ after⟩).found = some (text, there) ∧
        (Pieces.quoted ⟨index, literal ++ after⟩).found = some ([piece], there) ∧
        literal = Text.Quoted.mark :: (inner ++ [Text.Quoted.mark]) ∧
        String.ofList (Text.Quoted.decode inner) = text ∧ Walk.quotedText piece = .ok text) ∧
    (∀ (here there : Cursor) (value : String), (Grammar.quoted here).found = some (value, there) ↔
      ∃ literal, QuotedSpelled value literal ∧ here.rest = literal ++ there.rest ∧
        there.index = here.index + literal.length) ∧
    (∀ (here there : Cursor) (value : String), (Grammar.quoted here).found = some (value, there) →
      (quoteText value).length ≤ there.index - here.index ∧ ∀ (index : Nat) (after : List Char),
        (Grammar.quoted ⟨index, quoteText value ++ after⟩).found =
          some (value, ⟨index + (quoteText value).length, after⟩)) ∧
    Function.Injective quoteText ∧
    (∀ (text text' : String) (after after' : List Char),
      quoteText text ++ after = quoteText text' ++ after' → text = text' ∧ after = after') ∧
    ∀ (text : String) (front back : List Char) (index : Nat), quoteText text = front ++ back →
      back ≠ [] → (Grammar.quoted ⟨index, front⟩).found = none := by
  refine ⟨fun text after index => ?_, fun _ _ _ => quoted_found_iff, fun here there value found => ?_,
    quoteText_injective, fun _ _ _ _ => quoteText_unique,
    fun _ _ _ index whole more => fails_beginning whole more index⟩
  · have inner := escaped_encode text.toList
    have decoded : String.ofList (Text.Quoted.decode (Text.Quoted.encode text.toList)) = text := by
      rw [decode_escaped inner, String.ofList_toList]
    exact ⟨finds_quoteText text after index, finds_quoted_piece inner after index, rfl, decoded,
      congrArg Except.ok decoded⟩
  · obtain ⟨literal, spelled, -, index⟩ := quoted_found_iff.mp found
    have short := length_quoteText_le spelled
    exact ⟨by omega, fun index after => finds_quoteText value after index⟩

/-- A text that ends in escapes, in front of another mark: the mark behind it does not belong to it, and
the literal without its last character is none. -/
theorem text_ending_in_escapes_is_read_back :
    let text := "it's \\\\"
    quoteText text = "'it\\'s \\\\\\\\'".toList ∧
      (Grammar.quoted ⟨3, quoteText text ++ "')".toList⟩).found = some (text, ⟨15, "')".toList⟩) ∧
      (Grammar.quoted ⟨3, "'it\\'s \\\\\\\\".toList⟩).found = none := by
  intro text
  obtain ⟨reads, -, -, -, -, ends⟩ := quoting_and_reading_are_inverse
  have quoted : quoteText text = "'it\\'s \\\\\\\\'".toList := by decide
  have found := (reads text "')".toList 3).1
  have failed := ends text "'it\\'s \\\\\\\\".toList ['\x27'] 3 (by decide) (List.cons_ne_nil _ _)
  rw [show 3 + (quoteText text).length = 15 by rw [quoted]; decide] at found
  exact ⟨quoted, found, failed⟩

end Traversal
