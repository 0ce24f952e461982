import Traversal.Proofs.Tokens

/-! Items in a row, with layout in front of each, and the clauses made of them that contain no
statements: filters, edge filters and limits. What may follow an item depends on the item, so the
rules are told which texts can follow one. -/
namespace Traversal

variable {α : Type}

/-- An item behind a comma and layout. -/
def BehindComma (item : α → List Char → Prop) (value : α) (text : List Char) : Prop :=
  ∃ space body, text = ',' :: (space ++ body) ∧ Layout space ∧ item value body

theorem commaEach_iff {item : α → List Char → Prop} {values : List α} {text : List Char} :
    CommaEach item values text ↔ Each (BehindComma item) values text := by
  constructor
  · intro each
    induction each with
    | nil => exact .nil
    | cons layout layout' first others ih => exact .cons layout ⟨_, _, rfl, layout', first⟩ ih
  · intro each
    induction each with
    | nil => exact .nil
    | cons layout first others ih =>
      obtain ⟨space, body, rfl, layout', first⟩ := first
      exact .cons layout layout' first ih

/-- Every item of a row is at most as long as the row. -/
theorem Each.bounded {item : α → List Char → Prop} {values : List α} {text : List Char}
    (each : Each item values text) {bound : Nat} (short : text.length ≤ bound) :
    Each (fun value part => item value part ∧ part.length ≤ bound) values text := by
  induction each with
  | nil => exact .nil
  | cons layout first others ih =>
    simp only [List.length_append] at short
    exact .cons layout ⟨first, by omega⟩ (ih (by omega))

theorem CommaEach.bounded {item : α → List Char → Prop} {values : List α} {text : List Char}
    (each : CommaEach item values text) {bound : Nat} (short : text.length ≤ bound) :
    CommaEach (fun value part => item value part ∧ part.length ≤ bound) values text := by
  induction each with
  | nil => exact .nil
  | cons layout layout' first others ih =>
    simp only [List.length_append, List.length_cons] at short
    exact .cons layout layout' ⟨first, by omega⟩ (ih (by omega))

namespace Grammar
open Reader

variable {values : List α} {item : Reader α} {text after : List Char}
  {spelled : α → List Char → Prop}

/-- The text begins with a character that is no layout. -/
def Solid (text : List Char) : Prop := ∃ c rest, text = c :: rest ∧ isBlank c = false

theorem Solid.unblank (solid : Solid text) : Unblank (text ++ after) := by
  obtain ⟨c, rest, rfl, blank⟩ := solid
  exact unblank_cons blank

theorem Solid.append (solid : Solid text) : Solid (text ++ after) := by
  obtain ⟨c, rest, rfl, blank⟩ := solid
  exact ⟨c, rest ++ after, rfl, blank⟩

theorem Solid.ne_nil (solid : Solid text) : text ≠ [] := by
  obtain ⟨c, rest, rfl, -⟩ := solid
  exact List.cons_ne_nil c rest

/-- What may follow a text depends on its end only, and every text may be followed by layout and then
a given character. -/
structure Trailing (follows : List Char → List Char → Prop) (c : Char) : Prop where
  last : ∀ front part after, part ≠ [] → follows (front ++ part) after → follows part after
  next : ∀ part space more, Layout space → follows part (space ++ c :: more)

/-- A row is found as a whole if every item is found in front of what can follow it: the next item,
or what follows the row. -/
theorem Finds.many_spaced (follows : List Char → List Char → Prop) {openers : List Char}
    (opens : Opens item openers) (stops : Stops openers after)
    (solid : ∀ value part, spelled value part → Solid part)
    (last : ∀ front part after, part ≠ [] → follows (front ++ part) after → follows part after)
    (link : ∀ part value' part' space more, spelled value' part' → Layout space →
      follows part (space ++ (part' ++ more)))
    (reads : ∀ value part rest, spelled value part → follows part rest →
      item.Finds part value rest)
    (each : Each spelled values text) (ended : follows text after) :
    Finds (many (Grammar.spaced item)) text values after := by
  refine Finds.many ?_ (Fails.spaced opens stops)
  induction each with
  | nil => exact .nil
  | @cons value values space part rest layout first others ih =>
    have nonempty := (solid _ _ first).ne_nil
    rw [← List.append_assoc]
    have following : follows part (rest ++ after) := by
      cases others with
      | nil =>
        rw [List.append_nil] at ended
        exact last space part after nonempty ended
      | cons layout' second others =>
        rw [List.append_assoc, List.append_assoc]
        exact link _ _ _ _ _ second layout'
    refine .cons ⟨fun empty => nonempty (List.append_eq_nil_iff.mp empty).2, ?_⟩ ?_
    · exact Finds.spaced layout (solid _ _ first).unblank (reads _ _ _ first following)
    · cases others with
      | nil => exact .nil
      | cons layout' second others =>
        refine ih (last (space ++ part) _ after ?_ ?_)
        · exact fun empty => (solid _ _ second).ne_nil
            (List.append_eq_nil_iff.mp (List.append_eq_nil_iff.mp empty).2).1
        · rw [List.append_assoc]
          exact ended

/-- Items behind commas are found as a whole. -/
theorem finds_commas {follows : List Char → List Char → Prop} (trailing : Trailing follows ',')
    (solid : ∀ value part, spelled value part → Solid part)
    (reads : ∀ value part rest, spelled value part → follows part rest →
      item.Finds part value rest)
    (each : CommaEach spelled values text) (ended : follows text after)
    (stops : Stops [','] after) :
    Finds (many (Grammar.spaced (afterComma item))) text values after := by
  refine Finds.many_spaced follows (opens_symbol ',').bind stops ?_ trailing.last ?_ ?_
    (commaEach_iff.mp each) ended
  · rintro value _ ⟨space, body, rfl, -, -⟩
    exact ⟨',', _, rfl, rfl⟩
  · rintro part value _ space more ⟨_, _, rfl, -, -⟩ layout
    exact trailing.next part space _ layout
  · rintro value _ rest ⟨space, body, rfl, layout, first⟩ following
    have comma : (symbol ',').Finds [','] () ((space ++ body) ++ rest) := Finds.symbol ',' _
    refine Finds.bind comma (Finds.spaced layout (solid _ _ first).unblank ?_)
    exact reads value body rest first
      (trailing.last (',' :: space) body rest (solid _ _ first).ne_nil following)

/-- Whatever a row of items passes is a row of their spellings. -/
theorem Series.each {property : α → List Char → List Char → Prop}
    (series : Series (fun value text after => ∃ space body, text = space ++ body ∧ Layout space ∧
      Unblank (body ++ after) ∧ property value body after) after values text)
    (spells : ∀ value body rest, Unblank (body ++ rest) → property value body rest →
      spelled value body) : Each spelled values text := by
  induction series with
  | nil => exact .nil
  | cons first others ih =>
    obtain ⟨space, body, rfl, layout, unblank, holds⟩ := first
    rw [List.append_assoc]
    exact .cons layout (spells _ _ _ unblank holds) ih

/-- What is known of the last item, if there is one. -/
theorem Series.last {property : α → List Char → List Char → Prop}
    (series : Series property after values text) :
    text = [] ∨ ∃ value front part, text = front ++ part ∧ property value part after := by
  induction series with
  | nil => exact Or.inl rfl
  | @cons value values part rest first others ih =>
    right
    rcases ih with rfl | ⟨value', front, part', rfl, holds⟩
    · exact ⟨value, [], part, List.append_nil part, first⟩
    · exact ⟨value', part ++ front, part', (List.append_assoc _ _ _).symm, holds⟩

/-- Whatever is read behind commas is a row behind commas. -/
theorem sound_commas (sound : item.Sound fun value text after =>
    Unblank (text ++ after) → spelled value text) :
    Sound (many (Grammar.spaced (afterComma item))) fun values text _ =>
      CommaEach spelled values text := by
  refine (Sound.many (Sound.spaced (Sound.bind (Sound.symbol ',') fun _ =>
    Sound.spaced sound))).mono ?_
  intro values text after series
  refine commaEach_iff.mpr (Series.each series ?_)
  rintro value _ rest - ⟨_, _, _, rfl, rfl, space, body, rfl, layout, unblank, spells⟩
  exact ⟨space, body, rfl, layout, spells unblank⟩

/-! ## One item behind layout -/

theorem Finds.bind_spaced {β : Type} {next : α → Reader β} {value : α} {result : β}
    {space more : List Char} (layout : Layout space) (solid : Solid text)
    (found : item.Finds text value (more ++ after))
    (follows : (next value).Finds more result after) :
    (Grammar.spaced item >>= next).Finds (space ++ (text ++ more)) result after := by
  rw [← List.append_assoc]
  exact Finds.bind (Finds.spaced layout solid.unblank found) follows

/-- A closing character ends what is read. -/
theorem finds_closing {c : Char} {value : α} {space : List Char} (layout : Layout space)
    (solid : isBlank c = false) :
    (do Grammar.spaced (symbol c); return value : Reader α).Finds (space ++ [c]) value after :=
  Finds.bind_last (Finds.spaced layout (unblank_cons solid) (Finds.symbol c after))
    (Finds.pure value after)

theorem solid_quoted {label : String} (quoted : QuotedSpelled label text) : Solid text := by
  cases quoted
  exact ⟨_, _, rfl, rfl⟩

theorem solid_of_head (property : Char → Prop) {c : Char} {rest : List Char}
    (same : text = c :: rest) (holds : property c)
    (blank : ∀ d ∈ [' ', '\t', '\r', '\n'], ¬ property d) : Solid text := by
  refine ⟨c, rest, same, Bool.eq_false_iff.mpr fun isblank => ?_⟩
  exact blank c ((isBlank_iff c).mp isblank) holds

theorem solid_literal {literal : Literal} (spelled : literal.Spelled text) : Solid text := by
  cases spelled with
  | text quoted => exact solid_quoted quoted
  | @number digits number =>
    obtain ⟨c, rest, same, begun⟩ := numberText_head number
    exact solid_of_head (fun c => c.isDigit = true ∨ c = '-') same begun
      (forall_blank (by decide))
  | @boolean word truth =>
    obtain ⟨c, rest, same, begun⟩ := booleanText_head truth
    exact solid_of_head (fun c => c.toLower = 't' ∨ c.toLower = 'f') same begun
      (forall_blank (by decide))

/-! ## Filters -/

theorem trailing_any (c : Char) : Trailing (fun _ _ => True) c :=
  ⟨fun _ _ _ _ _ => trivial, fun _ _ _ _ => trivial⟩

/-- What holds of layout and of the first character of a text holds of the first character of both
together. -/
theorem head_layout {property : Char → Prop} {space : List Char} (layout : Layout space)
    (blank : ∀ c ∈ [' ', '\t', '\r', '\n'], property c) (next : ∀ c ∈ text.head?, property c) :
    ∀ c ∈ (space ++ text).head?, property c := by
  cases space with
  | nil => exact next
  | cons d rest =>
    intro c head
    cases head
    exact blank d (layout d List.mem_cons_self)

theorem closes_layout {space : List Char} (layout : Layout space) (closes : Closes text) :
    Closes (space ++ text) :=
  head_layout layout (forall_blank (by decide)) closes

theorem trailing_closes : Trailing (fun _ after => Closes after) ',' := by
  refine ⟨fun _ _ _ _ closes => closes, fun _ space more layout => closes_layout layout ?_⟩
  intro c head
  cases head
  decide

theorem opens_edgeFilter : Opens edgeFilter ['('] := (opens_symbol '(').bind.construct .edgeFilter

theorem solid_edgeFilter {labels : List String} (spelled : EdgeFilterSpelled labels text) :
    Solid text := by
  cases spelled
  exact ⟨_, _, rfl, rfl⟩

theorem finds_edgeFilter {labels : List String} (spelled : EdgeFilterSpelled labels text) :
    edgeFilter.Finds text labels after := by
  cases spelled with
  | @mk label labels front first others back layout head tail layout' =>
    have opened : (symbol '(').Finds ['('] ()
      ((front ++ (first ++ (others ++ (back ++ [')'])))) ++ after) := Finds.symbol '(' _
    refine Finds.construct .edgeFilter (Finds.bind opened ?_)
    refine Finds.bind_spaced layout (solid_quoted head) (finds_quoted head) ?_
    refine Finds.bind (finds_commas (trailing_any ',') (fun _ _ => solid_quoted)
      (fun _ _ _ quoted _ => finds_quoted quoted) tail trivial ?_) (finds_closing layout' rfl)
    rw [List.append_assoc]
    exact stops_layout layout' (stops_cons rfl (by decide))

theorem sound_edgeFilter :
    edgeFilter.Sound fun labels text _ => EdgeFilterSpelled labels text := by
  have quoted' := sound_quoted.mono fun label text after quoted (_ : Unblank (text ++ after)) =>
    quoted
  refine (Sound.construct .edgeFilter (Sound.bind (Sound.symbol '(') fun _ =>
    Sound.bind (Sound.spaced sound_quoted) fun first => Sound.bind (sound_commas quoted')
      fun others => Sound.bind (Sound.spaced (Sound.symbol ')')) fun _ =>
        Sound.pure (first :: others))).mono ?_
  rintro _ _ after ⟨_, _, _, rfl, rfl, first, _, _, rfl, ⟨front, _, rfl, layout, -, head⟩, others,
    _, _, rfl, tail, _, _, _, rfl, ⟨back, _, rfl, layout', -, rfl⟩, rfl, rfl⟩
  simpa using EdgeFilterSpelled.mk layout head tail layout'

theorem opens_filter : Opens filter ['!', '('] := opens_opening.bind.construct .filter

theorem finds_filter {test : Filter} (spelled : test.Spelled text) :
    filter.Finds text test after := by
  cases spelled with
  | @mk key negated values sign front first others back negation layout name list layout' =>
    rw [List.append_cons]
    refine Finds.construct .filter (Finds.bind (finds_opening negation) ?_)
    refine Finds.bind_spaced layout (solid_quoted name) (finds_quoted name) ?_
    refine Finds.bind (finds_commas trailing_closes (fun _ _ => solid_literal)
      (fun _ _ _ => finds_literal) list ?_ ?_) (finds_closing layout' rfl)
    · rw [List.append_assoc]
      exact closes_layout layout' fun c head => by cases head; decide
    · rw [List.append_assoc]
      exact stops_layout layout' (stops_cons rfl (by decide))

theorem sound_filter :
    filter.Sound fun test text after => Unblank (text ++ after) → test.Spelled text := by
  have literal' := sound_literal.mono fun literal text after spelled (_ : Unblank (text ++ after)) =>
    spelled
  refine (Sound.construct .filter (Sound.bind sound_opening fun negated =>
    Sound.bind (Sound.spaced sound_quoted) fun key => Sound.bind (sound_commas literal')
      fun values => Sound.bind (Sound.spaced (Sound.symbol ')')) fun _ =>
        Sound.pure (Filter.mk key negated values))).mono ?_
  rintro _ _ after ⟨negated, _, _, rfl, signed, key, _, _, rfl, ⟨front, _, rfl, layout, -, name⟩,
    values, _, _, rfl, list, _, _, _, rfl, ⟨back, _, rfl, layout', -, rfl⟩, rfl, rfl⟩ unblank
  rw [List.append_assoc] at unblank
  obtain ⟨sign, rfl, negation⟩ := signed unblank
  simpa using Filter.Spelled.mk negation layout name list layout'

/-! ## Limits -/

/-- A text may stand behind another: they do not run together to one node type. -/
def Apart (text after : List Char) : Prop :=
  ∀ c ∈ text.getLast?, LabelChar c → ∀ d ∈ after.head?, ¬ LabelChar d

theorem not_labelChar_of_blank : ∀ c ∈ [' ', '\t', '\r', '\n'], ¬ LabelChar c :=
  forall_blank (by decide)

theorem solid_digits (digits : Digits text) : Solid text := by
  obtain ⟨c, rest, rfl⟩ := List.exists_cons_of_ne_nil digits.1
  exact solid_of_head (fun c => c.isDigit = true) rfl (digits.2 c List.mem_cons_self)
    (forall_blank (by decide))

/-- The keyword begins with a letter, in either case. -/
theorem limit_head {word : List Char} (keyword : AnyCase "limit".toList word) :
    ∃ c rest, word = c :: rest ∧ (c = 'l' ∨ c = 'L') := by
  cases word with
  | nil => cases keyword
  | cons c rest => exact ⟨c, rest, rfl, small_or_capital (List.cons.inj keyword).1⟩

/-- A keyword that has been found does not run on from a node type. -/
theorem apart_keyword {before word : List Char} (keyword : AnyCase "limit".toList word)
    (apart : Apart before (word ++ after)) : ∀ c ∈ before.getLast?, ¬ LabelChar c := by
  intro c last inside
  obtain ⟨letter, letters, rfl, capital⟩ := limit_head keyword
  refine apart c last inside letter rfl ?_
  rcases capital with rfl | rfl <;> exact Or.inl (by decide)

/-- A limit is found at the end of a query, where only layout follows. -/
theorem finds_limit {before : List Char} {digits : Option (List Char)}
    (bound : LimitSpelled before digits text) (layout : Layout after) :
    (optional (Grammar.spaced limit)).Finds text digits after := by
  have blank (c : Char) (member : c ∈ after) : isBlank c = true := (isBlank_iff c).mpr (layout c member)
  cases bound with
  | none =>
    have skipped : (run isBlank).Finds after after [] := Finds.run blank (by intro c head; cases head)
    have failed : (Grammar.spaced limit).Fails (after ++ []) := by
      refine Fails.bind_right skipped (Fails.construct .limit (Fails.bind_left (Fails.word ?_)))
      intro c head
      cases head
    rw [List.append_nil] at failed
    exact Finds.optional_none failed
  | @some front word space digits layout' apart keyword layout'' number =>
    obtain ⟨letter, letters, same, capital⟩ := limit_head keyword
    have ended : ∀ c ∈ (after ++ []).head?, c.isDigit = false :=
      head_layout layout (forall_blank rfl) (by intro c head; cases head)
    rw [List.append_nil] at ended
    have solid : Solid word :=
      solid_of_head (fun c => c = 'l' ∨ c = 'L') same capital
        (forall_blank (by decide))
    refine Finds.optional_some (Finds.spaced layout' solid.append.unblank ?_)
    refine Finds.construct .limit (Finds.bind (Finds.word keyword) ?_)
    exact Finds.spaced layout'' (solid_digits number).unblank
      (Finds.construct .integer (finds_digits number ended))

theorem sound_limit :
    (optional (Grammar.spaced limit)).Sound fun digits text after =>
      ∀ before, Apart before (text ++ after) → LimitSpelled before digits text := by
  refine (Sound.optional (Sound.spaced (Sound.construct .limit (Sound.bind
    (Sound.word "limit".toList) fun _ => Sound.spaced (Sound.construct .integer
      sound_digits))))).mono ?_
  rintro _ _ after (⟨_, rfl, front, _, rfl, layout, -, _, word, _, rfl, ⟨rfl, keyword⟩, space, _,
    rfl, layout', -, rfl, number⟩ | ⟨rfl, rfl⟩) before apart
  · refine .some layout ?_ keyword layout' number
    rintro rfl
    rw [List.nil_append, List.append_assoc] at apart
    exact apart_keyword keyword apart
  · exact .none

end Grammar

end Traversal
