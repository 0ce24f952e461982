import Traversal.Query.Reader

/-! What readers find, apart from the attempts that they remember. Every combinator has rules for
finding a value, or for finding none, and a rule that says what a found value tells about the text.
Readers built from combinators need no other knowledge about them. -/
namespace Traversal.Reader

variable {α β : Type}

/-- The reader finds a value in a text and stops in front of what follows, wherever the text
stands. -/
def Finds (reader : Reader α) (text : List Char) (value : α) (after : List Char) : Prop :=
  ∀ index, (reader ⟨index, text ++ after⟩).found = some (value, ⟨index + text.length, after⟩)

/-- The reader finds nothing, wherever the text stands. -/
def Fails (reader : Reader α) (text : List Char) : Prop :=
  ∀ index, (reader ⟨index, text⟩).found = none

/-- Whatever the reader finds, a property holds of the value, the text passed for it and the text
that follows. -/
def Sound (reader : Reader α) (property : α → List Char → List Char → Prop) : Prop :=
  ∀ (here : Cursor) (value : α) (there : Cursor), (reader here).found = some (value, there) →
    ∃ text, here.rest = text ++ there.rest ∧ there.index = here.index + text.length ∧
      property value text there.rest

variable {reader first second : Reader α} {next : α → Reader β} {text more after : List Char}
  {value : α} {result : β} {property other : α → List Char → List Char → Prop}

theorem Sound.mono (sound : reader.Sound property)
    (weaker : ∀ value text after, property value text after → other value text after) :
    reader.Sound other := by
  intro here value there stopped
  obtain ⟨text, passed, index, holds⟩ := sound here value there stopped
  exact ⟨text, passed, index, weaker _ _ _ holds⟩

/-- Two texts in which the same reader finds something cannot begin the same text unless what is
found is the same and so is what follows. -/
theorem Finds.unique {text' after' : List Char} {value' : α} (left : reader.Finds text value after)
    (right : reader.Finds text' value' after') (same : text ++ after = text' ++ after') :
    value = value' ∧ after = after' := by
  have found := left 0
  rw [same, right 0] at found
  obtain ⟨values, places⟩ := Prod.mk.inj (Option.some.inj found)
  exact ⟨values.symm, (congrArg Cursor.rest places).symm⟩

/-! ## The empty text -/

theorem Finds.pure (value : α) (after : List Char) : (pure value : Reader α).Finds [] value after :=
  fun _ => rfl

theorem Sound.pure (value : α) :
    (pure value : Reader α).Sound fun found text _ => found = value ∧ text = [] := by
  intro here found there stopped
  cases stopped
  exact ⟨[], rfl, rfl, rfl, rfl⟩

theorem Sound.never : (never : Reader α).Sound property := by
  intro here value there stopped
  cases stopped

/-! ## One reader after the other -/

theorem found_bind {here there : Cursor}
    (stopped : (first here).found = some (value, there)) :
    ((first >>= next) here).found = (next value there).found := by
  change (andThen first next here).found = _
  simp only [andThen, stopped]

theorem found_bind_none {here : Cursor} (stopped : (first here).found = none) :
    ((first >>= next) here).found = none := by
  change (andThen first next here).found = _
  simp only [andThen, stopped]

theorem Finds.bind (found : first.Finds text value (more ++ after))
    (follows : (next value).Finds more result after) :
    (first >>= next).Finds (text ++ more) result after := by
  intro index
  rw [List.append_assoc, found_bind (found index), follows, List.length_append, Nat.add_assoc]

/-- A reader behind which nothing more is read. -/
theorem Finds.bind_last (found : first.Finds text value after)
    (follows : (next value).Finds [] result after) : (first >>= next).Finds text result after := by
  rw [← List.append_nil text]
  exact Finds.bind found follows

/-- A reader that takes no text. -/
theorem Finds.bind_empty (found : first.Finds [] value (text ++ after))
    (follows : (next value).Finds text result after) : (first >>= next).Finds text result after :=
  Finds.bind found follows

theorem Fails.bind_left (failed : first.Fails text) : (first >>= next).Fails text :=
  fun index => found_bind_none (failed index)

theorem Fails.bind_right (found : first.Finds text value after)
    (failed : (next value).Fails after) : (first >>= next).Fails (text ++ after) :=
  fun index => (found_bind (found index)).trans (failed _)

theorem Sound.bind {conclusion : α → β → List Char → List Char → Prop}
    (left : first.Sound property) (right : ∀ value, (next value).Sound (conclusion value)) :
    (first >>= next).Sound fun result text after => ∃ value start more, text = start ++ more ∧
      property value start (more ++ after) ∧ conclusion value result more after := by
  intro here result there stopped
  cases begun : (first here).found with
  | none => rw [found_bind_none begun] at stopped; cases stopped
  | some found =>
    obtain ⟨value, middle⟩ := found
    rw [found_bind begun] at stopped
    obtain ⟨start, passed, index, holds⟩ := left _ _ _ begun
    obtain ⟨more, passed', index', holds'⟩ := right value _ _ _ stopped
    refine ⟨start ++ more, ?_, ?_, value, start, more, rfl, passed' ▸ holds, holds'⟩
    · rw [passed, passed', List.append_assoc]
    · rw [index', index, List.length_append, Nat.add_assoc]

theorem Finds.map (change : α → β) (found : reader.Finds text value after) :
    (change <$> reader).Finds text (change value) after :=
  show (reader >>= fun value => Pure.pure (change value)).Finds text (change value) after from
    Finds.bind_last found (Finds.pure _ after)

theorem Fails.map (change : α → β) (failed : reader.Fails text) : (change <$> reader).Fails text :=
  show (reader >>= fun value => Pure.pure (change value)).Fails text from Fails.bind_left failed

theorem Sound.map (change : α → β) (sound : reader.Sound property) :
    (change <$> reader).Sound fun result text after =>
      ∃ value, result = change value ∧ property value text after := by
  refine Sound.mono (Sound.bind sound fun value => Sound.pure (change value)) ?_
  rintro _ _ after ⟨value, start, more, rfl, holds, rfl, rfl⟩
  rw [List.append_nil]
  exact ⟨value, rfl, holds⟩

/-! ## Alternatives -/

theorem Finds.orElse_left (found : first.Finds text value after) :
    (orElse first second).Finds text value after := by
  intro index
  simp only [orElse, found index]

theorem Finds.orElse_right (failed : first.Fails (text ++ after))
    (found : second.Finds text value after) : (orElse first second).Finds text value after := by
  intro index
  simp only [orElse, failed index, found index]

theorem Fails.orElse (failed : first.Fails text) (failed' : second.Fails text) :
    (orElse first second).Fails text := by
  intro index
  simp only [Reader.orElse, failed index, failed' index]

theorem Sound.orElse (left : first.Sound property) (right : second.Sound other) :
    (orElse first second).Sound fun value text after =>
      property value text after ∨ other value text after := by
  intro here value there stopped
  simp only [Reader.orElse] at stopped
  cases tried : (first here).found with
  | none =>
    rw [tried] at stopped
    obtain ⟨text, passed, index, holds⟩ := right _ _ _ stopped
    exact ⟨text, passed, index, Or.inr holds⟩
  | some found =>
    simp only [tried] at stopped
    cases stopped
    obtain ⟨text, passed, index, holds⟩ := left _ _ _ tried
    exact ⟨text, passed, index, Or.inl holds⟩

theorem Finds.optional_some (found : reader.Finds text value after) :
    reader.optional.Finds text (some value) after :=
  Finds.orElse_left (found.map some)

theorem Finds.optional_none (failed : reader.Fails after) : reader.optional.Finds [] none after :=
  Finds.orElse_right (failed.map some) (Finds.pure none after)

theorem Sound.optional (sound : reader.Sound property) :
    reader.optional.Sound fun found text after =>
      (∃ value, found = some value ∧ property value text after) ∨ found = none ∧ text = [] :=
  Sound.orElse (sound.map some) (Sound.pure none)

theorem Finds.present_true (found : reader.Finds text value after) :
    reader.present.Finds text true after :=
  Finds.orElse_left (found.map fun _ => true)

theorem Finds.present_false (failed : reader.Fails after) : reader.present.Finds [] false after :=
  Finds.orElse_right (failed.map fun _ => true) (Finds.pure false after)

theorem Sound.present (sound : reader.Sound property) :
    reader.present.Sound fun found text after =>
      (∃ value, found = true ∧ property value text after) ∨ found = false ∧ text = [] :=
  Sound.orElse (sound.map fun _ => true) (Sound.pure false)

/-! ## Constructs -/

theorem found_construct (name : Construct) (reader : Reader α) (here : Cursor) :
    (construct name reader here).found = (reader here).found := by
  simp only [construct]
  split
  · rfl
  · rename_i failed
    exact failed.symm

theorem Finds.construct (name : Construct) (found : reader.Finds text value after) :
    (construct name reader).Finds text value after :=
  fun index => (found_construct name reader _).trans (found index)

theorem Fails.construct (name : Construct) (failed : reader.Fails text) :
    (construct name reader).Fails text :=
  fun index => (found_construct name reader _).trans (failed index)

theorem Sound.construct (name : Construct) (sound : reader.Sound property) :
    (construct name reader).Sound property :=
  fun _ _ _ stopped => sound _ _ _ ((found_construct name reader _).symm.trans stopped)

/-! ## Characters -/

theorem Finds.run {class_ : Char → Bool} (all : ∀ c ∈ text, class_ c = true)
    (ended : ∀ c ∈ after.head?, class_ c = false) : (run class_).Finds text text after := by
  have taken : (text ++ after).takeWhile class_ = text := by
    rw [List.takeWhile_append_of_pos all]
    cases after with
    | nil => simp
    | cons c rest => simp [ended c rfl]
  intro index
  simp only [Reader.run, taken, Cursor.advance, List.drop_left]

theorem Sound.run (class_ : Char → Bool) :
    (run class_).Sound fun found text after =>
      found = text ∧ (∀ c ∈ text, class_ c = true) ∧ ∀ c ∈ after.head?, class_ c = false := by
  intro here found there stopped
  cases stopped
  have rest : (here.advance (here.rest.takeWhile class_).length).rest =
      here.rest.dropWhile class_ := by
    rw [Cursor.advance, ← @List.drop_left _ (here.rest.takeWhile class_)
      (here.rest.dropWhile class_), List.takeWhile_append_dropWhile]
  refine ⟨here.rest.takeWhile class_, ?_, rfl, rfl, List.all_eq_true.mp List.all_takeWhile, ?_⟩
  · rw [rest, List.takeWhile_append_dropWhile]
  · intro c head
    have ended := List.head?_dropWhile_not class_ here.rest
    rw [← rest, Option.mem_def.mp head] at ended
    exact ended

theorem Finds.run1 {class_ : Char → Bool} (nonempty : text ≠ [])
    (all : ∀ c ∈ text, class_ c = true) (ended : ∀ c ∈ after.head?, class_ c = false) :
    (run1 class_).Finds text text after := by
  refine Finds.bind_last (Finds.run all ended) ?_
  rw [List.isEmpty_eq_false_iff.mpr nonempty]
  exact Finds.pure text after

theorem Sound.run1 (class_ : Char → Bool) :
    (run1 class_).Sound fun found text after =>
      found = text ∧ text ≠ [] ∧ (∀ c ∈ text, class_ c = true) ∧
        ∀ c ∈ after.head?, class_ c = false := by
  have checked (taken : List Char) :
      Sound (if taken.isEmpty then Reader.never else give taken) fun found text _ =>
        taken ≠ [] ∧ found = taken ∧ text = [] := by
    split
    · exact Sound.never
    · rename_i nonempty
      exact (Sound.pure taken).mono fun _ _ _ holds =>
        ⟨fun empty => nonempty (List.isEmpty_iff.mpr empty), holds⟩
  refine (Sound.bind (Sound.run class_) checked).mono ?_
  rintro _ _ after ⟨taken, start, more, rfl, ⟨rfl, all, ended⟩, nonempty, rfl, rfl⟩
  rw [List.append_nil]
  exact ⟨rfl, nonempty, all, ended⟩

theorem Finds.symbol (c : Char) (after : List Char) : (symbol c).Finds [c] () after := by
  intro index
  simp only [Reader.symbol, List.cons_append, List.nil_append, ↓reduceIte]
  rfl

theorem Fails.symbol {c : Char} (other : ∀ d ∈ text.head?, d ≠ c) : (symbol c).Fails text := by
  intro index
  cases text with
  | nil => rfl
  | cons d rest => simp only [Reader.symbol, other d rfl, ↓reduceIte]

theorem Sound.symbol (c : Char) : (symbol c).Sound fun _ text _ => text = [c] := by
  intro here _ there stopped
  obtain ⟨index, rest⟩ := here
  cases rest with
  | nil => cases stopped
  | cons d rest =>
    simp only [Reader.symbol] at stopped
    split at stopped
    · rename_i same
      cases stopped
      exact ⟨[c], by rw [same]; rfl, rfl, rfl⟩
    · cases stopped

theorem Finds.word {letters : List Char} (same : text.map Char.toLower = letters) :
    (word letters).Finds text text after := by
  have length : letters.length = text.length := by rw [← same, List.length_map]
  intro index
  simp only [Reader.word, length, List.take_left, same, ↓reduceIte, Cursor.advance, List.drop_left]

theorem Fails.word {letter : Char} {letters : List Char}
    (other : ∀ c ∈ text.head?, c.toLower ≠ letter) : (word (letter :: letters)).Fails text := by
  intro index
  cases text with
  | nil => rfl
  | cons c rest =>
    simp only [Reader.word, List.length_cons, List.take_succ_cons, List.map_cons, List.cons.injEq,
      other c rfl, false_and, ↓reduceIte]

theorem Sound.word (letters : List Char) :
    (word letters).Sound fun found text _ => found = text ∧ text.map Char.toLower = letters := by
  intro here found there stopped
  simp only [Reader.word] at stopped
  split at stopped
  · rename_i same
    cases stopped
    have length := congrArg List.length same
    rw [List.length_map] at length
    refine ⟨here.rest.take letters.length, (List.take_append_drop _ _).symm, ?_, rfl, same⟩
    rw [length]
    rfl
  · cases stopped

theorem Finds.notAhead {class_ : Char → Bool} (free : ∀ c ∈ after.head?, class_ c = false) :
    (notAhead class_).Finds [] () after := by
  intro index
  cases after with
  | nil => rfl
  | cons c rest => simp [Reader.notAhead, free c rfl]

theorem Sound.notAhead (class_ : Char → Bool) :
    (notAhead class_).Sound fun _ text after =>
      text = [] ∧ ∀ c ∈ after.head?, class_ c = false := by
  intro here _ there stopped
  obtain ⟨index, rest⟩ := here
  cases rest with
  | nil =>
    cases stopped
    exact ⟨[], rfl, rfl, rfl, by intro c member; cases member⟩
  | cons c rest =>
    simp only [Reader.notAhead] at stopped
    split at stopped
    · cases stopped
    · rename_i free
      cases stopped
      exact ⟨[], rfl, rfl, rfl, by intro d member; cases member; simpa using free⟩

/-! ## Repetition -/

/-- Values read one after the other, each with its own text and what follows it. -/
inductive Series (item : α → List Char → List Char → Prop) (after : List Char) :
    List α → List Char → Prop
  | nil : Series item after [] []
  | cons {value : α} {values : List α} {text rest : List Char}
      (first : item value text (rest ++ after)) (others : Series item after values rest) :
      Series item after (value :: values) (text ++ rest)

theorem Finds.many {item : Reader α} {values : List α}
    (series : Series (fun value text after => text ≠ [] ∧ item.Finds text value after) after
      values text) (ended : item.Fails after) : Finds (many item) text values after := by
  induction series with
  | nil =>
    intro index
    rw [Reader.many, List.nil_append, ended]
    rfl
  | @cons value values text rest first others ih =>
    intro index
    have shorter : (rest ++ after).length < (text ++ (rest ++ after)).length := by
      have positive := List.length_pos_iff.mpr first.1
      simp only [List.length_append]
      omega
    rw [Reader.many, List.append_assoc, first.2]
    simp only
    rw [if_pos shorter]
    simp only [ih (index + text.length), Option.map_some, List.length_append, Nat.add_assoc]

theorem Sound.many {item : Reader α} (sound : item.Sound property) :
    Sound (many item) fun values text after => Series property after values text := by
  intro here values there stopped
  induction here using Reader.many.induct item generalizing values with
  | case1 here reading failed =>
    rw [Reader.many, failed] at stopped
    cases stopped
    exact ⟨[], rfl, rfl, .nil⟩
  | case2 here reading value middle begun shorter ih =>
    have found : (item here).found = some (value, middle) := begun
    rw [Reader.many, found] at stopped
    simp only [shorter, ↓reduceIte] at stopped
    obtain ⟨⟨others, last⟩, continued, same⟩ := Option.map_eq_some_iff.mp stopped
    cases same
    obtain ⟨text, passed, index, holds⟩ := sound _ _ _ begun
    obtain ⟨rest, passed', index', series⟩ := ih _ continued
    refine ⟨text ++ rest, ?_, ?_, .cons (passed' ▸ holds) series⟩
    · rw [passed, passed', List.append_assoc]
    · rw [index', index, List.length_append, Nat.add_assoc]
  | case3 here reading value middle begun idle =>
    have found : (item here).found = some (value, middle) := begun
    rw [Reader.many, found] at stopped
    simp only [idle, ↓reduceIte] at stopped
    cases stopped
    obtain ⟨text, passed, index, holds⟩ := sound _ _ _ begun
    exact ⟨text ++ [], by rw [passed, List.append_nil], by rw [index, List.append_nil],
      .cons holds .nil⟩

end Traversal.Reader
