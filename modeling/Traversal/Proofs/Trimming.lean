import Mathlib
import Traversal.Proofs.Soundness
import Traversal.Text.Space

/-! Trimming. White space is more than layout, but every part of a query begins and ends with other
characters, so what a text of the grammar has at its ends is layout: trimming takes the layout around
the query and nothing else. -/
namespace Traversal

namespace Text

variable {text front back : List Char}

/-! ## White space at the ends of a text -/

theorem isSpace_of_blank : ∀ c ∈ [' ', '\t', '\r', '\n'], isSpace c = true :=
  Grammar.forall_blank (by decide)

theorem isSpace_of_layout (layout : Layout text) : ∀ c ∈ text, isSpace c = true :=
  fun c member => isSpace_of_blank c (layout c member)

theorem isSpace_of_labelChar {c : Char} (inside : LabelChar c) : isSpace c = false := by
  have ascii : ∀ c : Char, c.isAlphanum = true → 33 ≤ c.toNat ∧ c.toNat ≤ 122 := by
    intro c letter
    simp only [Char.isAlphanum, Char.isAlpha, Char.isUpper, Char.isLower, Char.isDigit, Bool.or_eq_true,
      Bool.and_eq_true, decide_eq_true_eq, UInt32.le_iff_toNat_le, ge_iff_le] at letter
    change ((65 ≤ c.toNat ∧ c.toNat ≤ 90) ∨ (97 ≤ c.toNat ∧ c.toNat ≤ 122)) ∨
      (48 ≤ c.toNat ∧ c.toNat ≤ 57) at letter
    omega
  have range : 33 ≤ c.toNat ∧ c.toNat ≤ 122 := by
    rcases inside with letter | sign
    · exact ascii c letter
    · simp only [List.mem_cons, List.not_mem_nil, or_false] at sign
      rcases sign with rfl | rfl | rfl <;> decide
  refine Bool.eq_false_iff.mpr fun space => ?_
  simp only [isSpace, inRanges, spaceRanges, List.any_cons, List.any_nil, Bool.or_eq_true,
    Bool.and_eq_true, decide_eq_true_eq, Bool.false_eq_true, or_false] at space
  omega

/-- White space does not count where a text begins. -/
theorem trimStart_append (space : ∀ c ∈ front, isSpace c = true) (text : List Char) :
    trimStart (front ++ text) = trimStart text := List.dropWhile_append_of_pos space

/-- Nor does it where a text ends. -/
theorem trimEnd_append (text : List Char) (space : ∀ c ∈ back, isSpace c = true) :
    trimEnd (text ++ back) = trimEnd text := by
  unfold trimEnd
  rw [List.reverse_append, List.dropWhile_append_of_pos fun c member =>
    space c (List.mem_reverse.mp member)]

/-- A text that begins with something other than white space. -/
def Begun (text : List Char) : Prop := ∃ c rest, text = c :: rest ∧ isSpace c = false

/-- A text that does not end in white space. -/
def Firm (text : List Char) : Prop := ∀ c ∈ text.getLast?, isSpace c = false

theorem Begun.append (begun : Begun text) (back : List Char) : Begun (text ++ back) := by
  obtain ⟨c, rest, rfl, solid⟩ := begun
  exact ⟨c, rest ++ back, rfl, solid⟩

theorem trimStart_of_begun (begun : Begun text) : trimStart text = text := by
  obtain ⟨c, rest, rfl, solid⟩ := begun
  exact List.dropWhile_cons_of_neg (by rw [solid]; exact Bool.false_ne_true)

theorem trimEnd_of_firm (firm : Firm text) : trimEnd text = text := by
  rcases List.eq_nil_or_concat' text with rfl | ⟨front, c, rfl⟩
  · rfl
  · have solid := firm c List.getLast?_concat
    unfold trimEnd
    rw [List.reverse_concat, List.dropWhile_cons_of_neg (by rw [solid]; exact Bool.false_ne_true),
      List.reverse_cons, List.reverse_reverse]

/-- Trimming takes white space from the two ends and stops at other characters. -/
theorem trim_surrounded {lead trail : List Char} (space : ∀ c ∈ lead, isSpace c = true)
    (space' : ∀ c ∈ trail, isSpace c = true) (begun : Begun text) (firm : Firm text) :
    trimEnd (trimStart (lead ++ (text ++ trail))) = text := by
  rw [trimStart_append space, trimStart_of_begun (begun.append trail), trimEnd_append text space',
    trimEnd_of_firm firm]

theorem toList_trim (text : String) : (trim text).toList = trimEnd (trimStart text.toList) :=
  String.toList_ofList

/-- What trimming takes away is white space, and what it leaves begins with something else. -/
theorem exists_surroundings (text : List Char) : ∃ lead trail,
    text = lead ++ (trimEnd (trimStart text) ++ trail) ∧ (∀ c ∈ lead, isSpace c = true) ∧
      (∀ c ∈ trail, isSpace c = true) ∧ ∀ c ∈ (trimEnd (trimStart text)).head?, isSpace c = false := by
  have behind : trimStart text = trimEnd (trimStart text) ++
      ((trimStart text).reverse.takeWhile isSpace).reverse := by
    unfold trimEnd
    rw [← List.reverse_append, List.takeWhile_append_dropWhile, List.reverse_reverse]
  refine ⟨text.takeWhile isSpace, ((trimStart text).reverse.takeWhile isSpace).reverse, ?_,
    fun c member => List.mem_takeWhile_imp member,
    fun c member => List.mem_takeWhile_imp (List.mem_reverse.mp member), ?_⟩
  · rw [← behind]
    exact List.takeWhile_append_dropWhile.symm
  · intro c head
    have first : (trimStart text).head? = some c := by
      rw [behind, List.head?_append, head]
      rfl
    have stopped := List.head?_dropWhile_not isSpace text
    rw [show text.dropWhile isSpace = trimStart text from rfl, first] at stopped
    exact stopped

end Text

namespace Grammar
open Text

variable {text : List Char}

/-! ## How parts of a statement end -/

theorem firm_label (name : LabelText text) : Firm text :=
  fun c last => isSpace_of_labelChar (name.2 c (List.mem_of_getLast? last))

theorem firm_star {stored : Bool} {star : List Char} (mark : StarSpelled stored star) : Firm star :=
  forall_last_star mark (by decide)

theorem firm_vertex {vertex : Vertex} (spelled : vertex.Spelled text) : Firm text := by
  cases spelled with
  | mk name mark body mark' =>
    exact forall_last_append (firm_label name) (forall_last_append (firm_star mark)
      (forall_last_append (forall_last_clauses body (by decide)) (firm_star mark')))

theorem firm_target {target : Target} (spelled : target.Spelled text) : Firm text := by
  cases spelled with
  | vertex spelled => exact firm_vertex spelled
  | @union first others stored front text list back star layout head tail layout' mark =>
    have bracket : Firm (('[' :: (front ++ (text ++ (list ++ back)))) ++ [']']) :=
      forall_last_concat _ (by decide)
    have ended : Firm _ := forall_last_append bracket (firm_star mark)
    simpa using ended

theorem firm_hop {hop : Hop} (spelled : hop.Spelled text) : Firm text ∧ text ≠ [] := by
  cases spelled with
  | @mk labels target space lead text layout constraint spelled =>
    have ended : Firm (('>' :: (space ++ lead)) ++ text) :=
      forall_last_behind _ (solid_target spelled).ne_nil (firm_target spelled)
    exact ⟨by simpa using ended, List.cons_ne_nil _ _⟩

theorem firm_limit {before : List Char} {digits : Option (List Char)}
    (spelled : LimitSpelled before digits text) : Firm text := by
  cases spelled with
  | none => exact forall_last_nil
  | @some front word space digits layout apart keyword layout' number =>
    have last : Firm digits := fun c last =>
      isSpace_of_labelChar (Or.inl (by simp [Char.isAlphanum, number.2 c (List.mem_of_getLast? last)]))
    have ended : Firm ((front ++ (word ++ space)) ++ digits) := forall_last_behind _ number.1 last
    simpa using ended

/-! ## Whole texts -/

/-- A statement is left alone by trimming, which takes away the layout around it. -/
theorem trim_statement {root : Vertex} {hops : List Hop} {digits : Option (List Char)}
    (spelled : StatementSpelled root hops digits text) :
    ∃ lead trail, Layout lead ∧ Layout trail ∧
      text = lead ++ (trimEnd (trimStart text) ++ trail) ∧
      StatementSpelled root hops digits (trimEnd (trimStart text)) := by
  cases spelled with
  | @mk front text list limit back layout first steps bound layout' =>
    have firm : Firm (text ++ (list ++ limit)) := forall_last_append (firm_vertex first)
      (forall_last_append (forall_last_each (fun _ _ => firm_hop) steps) (firm_limit bound))
    obtain ⟨c, rest, same, inside⟩ := vertex_head first
    have begun : Begun (text ++ (list ++ limit)) :=
      Begun.append ⟨c, rest, same, isSpace_of_labelChar inside⟩ _
    have trimmed := trim_surrounded (isSpace_of_layout layout) (isSpace_of_layout layout') begun firm
    simp only [List.append_assoc] at trimmed
    rw [trimmed]
    refine ⟨front, back, layout, layout', by simp, ?_⟩
    simpa using StatementSpelled.mk layout_nil first steps bound layout_nil

/-- Trimming leaves of a query the same query, and takes only layout from it. -/
theorem parse_trim {query : Query} (parsed : Query.parse text = .ok query) :
    Query.parse (trimEnd (trimStart text)) = .ok query ∧ ∃ lead trail, Layout lead ∧ Layout trail ∧
      text = lead ++ (trimEnd (trimStart text) ++ trail) := by
  obtain ⟨digits, statement, fits⟩ := spelled_of_parse parsed
  obtain ⟨lead, trail, layout, layout', whole, statement'⟩ := trim_statement statement
  exact ⟨parse_spelled ⟨digits, statement', fits⟩, lead, trail, layout, layout', whole⟩

end Grammar

end Traversal
