import Mathlib
import Traversal.Main
import Traversal.Proofs.Limits
import Traversal.Proofs.Trimming

/-! Values of variables. What the environment says about a count or a truth value is read off its text
without the readers: a count is written in digits, a truth value in one of three words, and white space
around either is nothing to it. -/
namespace Traversal

namespace Text

variable {text core : List Char}

/-! ## Texts with white space around them -/

/-- A text with any amount of white space around it. -/
def Padded (core text : List Char) : Prop :=
  ∃ lead trail, text = lead ++ (core ++ trail) ∧ (∀ c ∈ lead, isSpace c = true) ∧
    ∀ c ∈ trail, isSpace c = true

/-- A text of one character or more, none of which is white space. -/
def Dense (text : List Char) : Prop := text ≠ [] ∧ ∀ c ∈ text, isSpace c = false

theorem Dense.begun (dense : Dense text) : Begun text := by
  obtain ⟨c, rest, rfl⟩ := List.exists_cons_of_ne_nil dense.1
  exact ⟨c, rest, rfl, dense.2 c List.mem_cons_self⟩

theorem Dense.firm (dense : Dense text) : Firm text :=
  fun c last => dense.2 c (List.mem_of_getLast? last)

/-- Trimming leaves a dense text of those, and only those, in which white space stands around it. -/
theorem trim_eq_iff (dense : Dense core) : trimEnd (trimStart text) = core ↔ Padded core text := by
  constructor
  · rintro rfl
    obtain ⟨lead, trail, whole, space, space', -⟩ := exists_surroundings text
    exact ⟨lead, trail, whole, space, space'⟩
  · rintro ⟨lead, trail, rfl, space, space'⟩
    exact trim_surrounded space space' dense.begun dense.firm

/-! ## Counts -/

/-- The text of a count: digits, perhaps behind a plus sign, that denote a number which fits a word of
the machine. -/
def CountText (text : List Char) (count : Nat) : Prop :=
  ∃ sign digits, text = sign ++ digits ∧ (sign = [] ∨ sign = ['+']) ∧ Digits digits ∧
    decimalValue digits = count ∧ count < 2 ^ 64

theorem dense_digits (digits : Digits text) : Dense text :=
  ⟨digits.1, fun c member => isSpace_of_labelChar (Or.inl (by
    simp [Char.isAlphanum, digits.2 c member]))⟩

theorem CountText.dense {count : Nat} (counts : CountText text count) : Dense text := by
  obtain ⟨sign, digits, rfl, rfl | rfl, number, -⟩ := counts
  · exact dense_digits number
  · refine ⟨List.cons_ne_nil _ _, fun c member => ?_⟩
    rcases List.mem_cons.mp member with rfl | inside
    · decide
    · exact (dense_digits number).2 c inside

/-- A plus sign in front of digits does not count. -/
theorem boundedNatural_plus (digits : Digits text) (bound : Nat) :
    boundedNatural bound ('+' :: text) = boundedNatural bound text := by
  rw [boundedNatural_digits digits]
  have all : text.all Char.isDigit = true := List.all_eq_true.mpr digits.2
  have filled : text.isEmpty = false := List.isEmpty_eq_false_iff.mpr digits.1
  simp [boundedNatural, all, filled]

private theorem digits_of_checked {α : Type} {digits : List Char} {otherwise : Option α} {value : α}
    (found : (if digits.isEmpty || !digits.all Char.isDigit then none else otherwise) = some value) :
    Digits digits := by
  by_cases faulty : (digits.isEmpty || !digits.all Char.isDigit) = true
  · rw [if_pos faulty] at found
    cases found
  · simp only [Bool.or_eq_true, List.isEmpty_iff, Bool.not_eq_true', not_or, Bool.not_eq_false,
      List.all_eq_true] at faulty
    exact faulty

theorem digits_of_boundedNatural {bound count : Nat} (found : boundedNatural bound text = some count) :
    ∃ sign digits, text = sign ++ digits ∧ (sign = [] ∨ sign = ['+']) ∧ Digits digits := by
  unfold boundedNatural at found
  split at found
  · rename_i rest
    exact ⟨['+'], rest, rfl, Or.inr rfl, digits_of_checked found⟩
  · exact ⟨[], text, rfl, Or.inl rfl, digits_of_checked found⟩

theorem boundedNatural_eq_some_iff (count : Nat) :
    boundedNatural countBound text = some count ↔ CountText text count := by
  have found {digits : List Char} (number : Digits digits) :
      boundedNatural countBound digits = some count ↔
        decimalValue digits = count ∧ count < 2 ^ 64 := by
    rw [boundedNatural_digits number, naturalOfDigits_eq]
    by_cases fits : decimalValue digits < countBound
    · simp only [fits, ↓reduceIte, Option.some.injEq]
      constructor
      · rintro rfl
        exact ⟨rfl, fits⟩
      · exact And.left
    · simp only [fits, ↓reduceIte, reduceCtorEq, false_iff]
      rintro ⟨rfl, small⟩
      exact fits small
  constructor
  · intro read
    obtain ⟨sign, digits, rfl, rfl | rfl, number⟩ := digits_of_boundedNatural read
    · exact ⟨[], digits, rfl, Or.inl rfl, number, (found number).mp read⟩
    · rw [List.singleton_append, boundedNatural_plus number] at read
      exact ⟨['+'], digits, rfl, Or.inr rfl, number, (found number).mp read⟩
  · rintro ⟨sign, digits, rfl, rfl | rfl, number, value⟩
    · exact (found number).mpr value
    · rw [List.singleton_append, boundedNatural_plus number]
      exact (found number).mpr value

/-! ## Truth values -/

/-- The words for a truth value. -/
def truthWords : Bool → List String
  | true => ["true", "1", "yes"]
  | false => ["false", "0", "no"]

/-- The text of a truth value: one of its words, in letters of either case. -/
def TruthText (text : List Char) (truth : Bool) : Prop :=
  ∃ word ∈ truthWords truth, AnyCase word.toList text

/-- White space has no small letters. -/
theorem toLower_of_isSpace {c : Char} (space : isSpace c = true) : c.toLower = c := by
  unfold Char.toLower
  rw [dif_neg]
  rintro ⟨least, greatest⟩
  have low : 65 ≤ c.toNat := UInt32.le_iff_toNat_le.mp least
  have high : c.toNat ≤ 90 := UInt32.le_iff_toNat_le.mp greatest
  simp only [isSpace, inRanges, spaceRanges, List.any_cons, List.any_nil, Bool.or_eq_true,
    Bool.and_eq_true, decide_eq_true_eq, Bool.false_eq_true, or_false] at space
  omega

theorem dense_of_truthWords {truth : Bool} {word : String} (known : word ∈ truthWords truth) :
    Dense word.toList := by
  cases truth <;> simp only [truthWords, List.mem_cons, List.not_mem_nil, or_false] at known <;>
    rcases known with rfl | rfl | rfl <;> simp [Dense, isSpace, inRanges, spaceRanges]

theorem TruthText.dense {truth : Bool} (means : TruthText text truth) : Dense text := by
  obtain ⟨word, known, lower⟩ := means
  have dense := dense_of_truthWords known
  rw [← lower] at dense
  refine ⟨fun none => dense.1 (by rw [none]; rfl), fun c member => ?_⟩
  by_contra space
  rw [Bool.not_eq_false] at space
  have small := dense.2 _ (List.mem_map_of_mem member)
  rw [toLower_of_isSpace space, space] at small
  cases small

end Text

namespace Cli.Layers
open Text

theorem countValue_eq_some_iff (text : String) (count : Nat) :
    countValue text = some count ↔ ∃ core, Padded core text.toList ∧ CountText core count := by
  rw [countValue, toList_trim, boundedNatural_eq_some_iff]
  constructor
  · intro counts
    exact ⟨_, (trim_eq_iff counts.dense).mp rfl, counts⟩
  · rintro ⟨core, padded, counts⟩
    rw [(trim_eq_iff counts.dense).mpr padded]
    exact counts

theorem truthValue_eq_some_iff (text : String) (truth : Bool) :
    truthValue text = some truth ↔ ∃ core, Padded core text.toList ∧ TruthText core truth := by
  have read : truthValue text = some truth ↔ TruthText (trim text).toList truth := by
    have lower (word : String) : AnyCase word.toList (trim text).toList ↔
        String.ofList ((trim text).toList.map Char.toLower) = word := by
      rw [AnyCase, ← String.toList_inj, String.toList_ofList]
    unfold truthValue TruthText
    simp only [lower]
    split
    all_goals cases truth <;> simp_all [truthWords]
  rw [read, toList_trim]
  constructor
  · intro means
    exact ⟨_, (trim_eq_iff means.dense).mp rfl, means⟩
  · rintro ⟨core, padded, means⟩
    rw [(trim_eq_iff means.dense).mpr padded]
    exact means

end Cli.Layers

end Traversal
