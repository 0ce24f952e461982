import Mathlib.Data.List.Basic
import Traversal.Rules

/-! Texts of rules. Names are looked for anywhere in a text, but where words are joined by commas each
occurrence of a name lies in one of the words, as no name has a comma. So the words act as a set. -/
namespace Traversal.RuleSet

/-! ## Names -/

/-- The names that are looked for in a text of rules. -/
def names : List String := ["none", "all", "loop", "nodeCount"]

/-- Whether a name occurs anywhere in a text. -/
def occurs (name text : String) : Bool := mentions name.toList text.toList

theorem mentions_iff {word text : List Char} : mentions word text = true ↔ word <:+: text := by
  induction text with
  | nil => simp [mentions]
  | cons c rest ih =>
    rw [mentions, Bool.or_eq_true, List.isPrefixOf_iff_prefix, ih, List.infix_cons_iff]

theorem parse_eq (text : String) : parse text =
    ⟨!occurs "none" text && (occurs "all" text || occurs "loop" text),
      !occurs "none" text && (occurs "all" text || occurs "nodeCount" text)⟩ := by
  change (if occurs "none" text then none else if occurs "all" text then all
    else ⟨occurs "loop" text, occurs "nodeCount" text⟩) = _
  cases occurs "none" text <;> cases occurs "all" text <;> simp [none, all]

/-- Texts in which the same names occur enable the same rules. -/
theorem parse_congr {text text' : String}
    (same : ∀ name ∈ names, occurs name text = occurs name text') : parse text = parse text' := by
  rw [parse_eq, parse_eq, same "none" (by decide), same "all" (by decide), same "loop" (by decide),
    same "nodeCount" (by decide)]

theorem parse_text (rules : RuleSet) : parse rules.text = rules := by
  obtain ⟨loop, nodes⟩ := rules
  cases loop <;> cases nodes <;> decide

/-! ## Separators -/

variable {before after front stretch behind : List Char}

/-- A stretch without a separator lies on one side of it. -/
theorem side_of_separator {separator : Char} (free : separator ∉ stretch)
    (whole : before ++ separator :: after = front ++ (stretch ++ behind)) :
    (∃ rest, before = front ++ (stretch ++ rest) ∧ behind = rest ++ separator :: after) ∨
      ∃ start, front = before ++ separator :: start ∧ after = start ++ (stretch ++ behind) := by
  rcases List.append_eq_append_iff.mp whole with ⟨start, rfl, later⟩ | ⟨inside, rfl, across⟩
  · cases start with
    | nil =>
      cases stretch with
      | nil => exact Or.inl ⟨[], by simp, later.symm⟩
      | cons c stretch =>
        obtain ⟨rfl, -⟩ := List.cons.inj later
        exact absurd List.mem_cons_self free
    | cons c start =>
      obtain ⟨rfl, rfl⟩ := List.cons.inj later
      exact Or.inr ⟨start, rfl, rfl⟩
  · rcases List.append_eq_append_iff.mp across with ⟨rest, rfl, split⟩ | ⟨beyond, rfl, split⟩
    · exact Or.inl ⟨rest, rfl, split⟩
    · cases beyond with
      | nil => exact Or.inl ⟨[], by simp, split.symm⟩
      | cons c beyond =>
        obtain ⟨rfl, -⟩ := List.cons.inj split
        exact absurd (by simp) free

/-- The text of words that are joined by commas. -/
def joined (words : List String) : String := ",".intercalate words

theorem joined_cons (word : String) {rest : List String} (more : rest ≠ []) :
    (joined (word :: rest)).toList = word.toList ++ ',' :: (joined rest).toList := by
  rw [joined, String.intercalate_cons_of_ne_nil more, String.toList_append, String.toList_append,
    List.append_assoc]
  rfl

theorem comma_joined {words : List String} (filled : words ≠ []) :
    ',' :: (joined words).toList = words.flatMap (',' :: ·.toList) := by
  induction words with
  | nil => exact absurd rfl filled
  | cons word rest ih =>
    by_cases more : rest = []
    · subst more
      simp [joined]
    · rw [joined_cons word more, ih more, List.flatMap_cons, List.cons_append]

theorem joined_around (earlier later : List String) (word : String) :
    (joined (earlier ++ word :: later)).toList =
      earlier.flatMap (·.toList ++ [',']) ++ (word.toList ++ later.flatMap (',' :: ·.toList)) := by
  induction earlier with
  | nil =>
    have whole := comma_joined (List.cons_ne_nil word later)
    rw [List.flatMap_cons, List.cons_append] at whole
    exact (List.cons.inj whole).2
  | cons first earlier ih =>
    rw [List.cons_append, joined_cons first (by simp), ih]
    simp

/-! ## Words -/

/-- A stretch of joined words lies in one of them: what is in front of it ends with the start of that
word, and what is behind it begins with the rest. -/
def InOneWord (words : List String) (front stretch behind : List Char) : Prop :=
  ∃ earlier word later start rest, words = earlier ++ word :: later ∧
    word.toList = start ++ (stretch ++ rest) ∧
    front = earlier.flatMap (·.toList ++ [',']) ++ start ∧
    behind = rest ++ later.flatMap (',' :: ·.toList)

/-- The stretches of joined words that have no comma are those that lie in one word. -/
theorem joined_eq_iff (filled : stretch ≠ []) (free : ',' ∉ stretch) (words : List String) :
    (joined words).toList = front ++ (stretch ++ behind) ↔
      InOneWord words front stretch behind := by
  constructor
  · intro whole
    induction words generalizing front with
    | nil => simp [joined, filled] at whole
    | cons word rest ih =>
      by_cases more : rest = []
      · subst more
        exact ⟨[], word, [], front, behind, rfl, by simpa [joined] using whole, by simp, by simp⟩
      · rw [joined_cons word more] at whole
        rcases side_of_separator free whole with ⟨v, inside, split⟩ | ⟨start, rfl, further⟩
        · rw [comma_joined more] at split
          exact ⟨[], word, rest, front, v, rfl, inside, rfl, split⟩
        · obtain ⟨earlier, found, later, u, v, rfl, inside, rfl, split⟩ := ih further
          exact ⟨word :: earlier, found, later, u, v, rfl, inside, by simp, split⟩
  · rintro ⟨earlier, word, later, start, rest, rfl, inside, rfl, rfl⟩
    rw [joined_around, inside]
    simp

/-- A name occurs in one of the words or more. -/
def Named (words : List String) (name : String) : Prop :=
  ∃ word ∈ words, name.toList <:+: word.toList

theorem named_iff_occurs {words : List String} {name : String} : Named words name ↔
    ∃ word ∈ words, occurs name word = true := by
  simp only [Named, occurs, mentions_iff]

instance (words : List String) (name : String) : Decidable (Named words name) :=
  decidable_of_iff _ named_iff_occurs.symm

theorem named_iff {words : List String} {name : String} : Named words name ↔
    ∃ front behind, InOneWord words front name.toList behind := by
  constructor
  · rintro ⟨word, member, start, rest, inside⟩
    obtain ⟨earlier, later, rfl⟩ := List.append_of_mem member
    exact ⟨_, _, earlier, word, later, start, rest, rfl, by rw [← inside, List.append_assoc], rfl,
      rfl⟩
  · rintro ⟨front, behind, earlier, word, later, start, rest, rfl, inside, -, -⟩
    exact ⟨word, by simp, start, rest, by rw [inside, List.append_assoc]⟩

theorem plain_of_mem_names : ∀ name ∈ names, name.toList ≠ [] ∧ ',' ∉ name.toList := by
  decide

/-- The names that occur in joined words are those that occur in some of the words. -/
theorem occurs_joined_iff {name : String} (known : name ∈ names) (words : List String) :
    occurs name (joined words) = true ↔ Named words name := by
  obtain ⟨filled, free⟩ := plain_of_mem_names name known
  rw [occurs, mentions_iff, named_iff]
  apply exists_congr
  intro front
  apply exists_congr
  intro behind
  rw [← joined_eq_iff filled free, List.append_assoc, eq_comm]

/-- Joined words act as the set of names that occur in them. The loop rule is enabled if and only if no
word contains none and some word contains all or loop, the other rule likewise with its own name. So
words that differ in order and repetition alone enable the same rules. Each occurrence of a name in
the text lies in one of the words, whatever else these hold, commas included. And the text of
the rules that are enabled enables them again. -/
theorem joined_words_act_as_sets (words : List String) :
    ((parse (joined words)).loopCheck = true ↔
      ¬ Named words "none" ∧ (Named words "all" ∨ Named words "loop")) ∧
    ((parse (joined words)).nodeCountCheck = true ↔
      ¬ Named words "none" ∧ (Named words "all" ∨ Named words "nodeCount")) ∧
    (∀ words' : List String, (∀ word, word ∈ words' ↔ word ∈ words) →
      parse (joined words') = parse (joined words)) ∧
    (∀ name ∈ names, ∀ front behind,
      (joined words).toList = front ++ (name.toList ++ behind) ↔
        InOneWord words front name.toList behind) ∧
    parse (parse (joined words)).text = parse (joined words) := by
  have occurring (name : String) (known : name ∈ names) := occurs_joined_iff known words
  have none := occurring "none" (by decide)
  have all := occurring "all" (by decide)
  have loop := occurring "loop" (by decide)
  have nodeCount := occurring "nodeCount" (by decide)
  refine ⟨?_, ?_, fun words' same => ?_, fun name known front behind => ?_, parse_text _⟩
  · rw [← none, ← all, ← loop, parse_eq]
    simp only [Bool.and_eq_true, Bool.or_eq_true, Bool.not_eq_true', Bool.not_eq_true]
  · rw [← none, ← all, ← nodeCount, parse_eq]
    simp only [Bool.and_eq_true, Bool.or_eq_true, Bool.not_eq_true', Bool.not_eq_true]
  · apply parse_congr
    intro name known
    rw [Bool.eq_iff_iff, occurs_joined_iff known, occurs_joined_iff known]
    simp only [Named, same]
  · obtain ⟨filled, free⟩ := plain_of_mem_names name known
    exact joined_eq_iff filled free words

/-- Two words that make up none when put together do not count as none, in any order, but a single
word that contains it outweighs all others. -/
theorem halves_of_a_name_are_no_name :
    let words : List String := ["no", "ne", "loop,loops", "", "nodeCount"]
    let words' : List String := ["nodeCount", "ne", "loop,loops", "no", "", "ne"]
    ((parse (joined words)).loopCheck = true ∧ (parse (joined words)).nodeCountCheck = true) ∧
      parse (joined words') = parse (joined words) ∧
      parse (parse (joined words)).text = parse (joined words) ∧
      InOneWord words "no,ne,loop,".toList "loop".toList "s,,nodeCount".toList ∧
      ¬ (parse (joined ("nonesuch" :: words))).loopCheck = true := by
  intro words words'
  obtain ⟨loop, nodes, same, occurrences, again⟩ := joined_words_act_as_sets words
  obtain ⟨outweighed, -⟩ := joined_words_act_as_sets ("nonesuch" :: words)
  have kept : ∀ word ∈ words', word ∈ words := by decide
  have reached : ∀ word ∈ words, word ∈ words' := by decide
  have text : (joined words).toList =
      "no,ne,loop,".toList ++ ("loop".toList ++ "s,,nodeCount".toList) := by
    simp [joined, words]
  refine ⟨⟨loop.mpr (by decide), nodes.mpr (by decide)⟩,
    same words' fun word => ⟨kept word, reached word⟩, again,
    (occurrences "loop" (by decide) _ _).mp text, ?_⟩
  rw [outweighed]
  decide

end Traversal.RuleSet
