import Traversal.Proofs.Reading
import Traversal.Proofs.Spelling

/-! Layout and tokens: the readers of single tokens find exactly the spellings of tokens. A token
that ends where a class of characters ends needs to know what follows it. -/
namespace Traversal.Grammar
open Reader

variable {α β : Type} {reader : Reader α} {value : α} {text space after : List Char}

/-! ## Layout -/

theorem isBlank_iff (c : Char) : isBlank c = true ↔ c ∈ [' ', '\t', '\r', '\n'] := by
  simp [isBlank, or_assoc]

theorem isLabelChar_iff (c : Char) : isLabelChar c = true ↔ LabelChar c := by
  simp [isLabelChar, isWordChar, LabelChar, or_assoc]

theorem layout_nil : Layout [] := by
  intro c member
  cases member

/-- What holds of each of the four characters of layout holds of all of them. -/
theorem forall_blank {property : Char → Prop} [DecidablePred property]
    (all : [' ', '\t', '\r', '\n'].all (fun c => decide (property c)) = true) :
    ∀ c ∈ [' ', '\t', '\r', '\n'], property c :=
  fun c member => of_decide_eq_true (List.all_eq_true.mp all c member)

/-- No layout stands at the start of the text. -/
def Unblank (text : List Char) : Prop := ∀ c ∈ text.head?, isBlank c = false

theorem unblank_cons {c : Char} (solid : isBlank c = false) : Unblank (c :: text) := by
  intro d head
  cases head
  exact solid

theorem eq_nil_of_unblank (layout : Layout space) (unblank : Unblank (space ++ text)) :
    space = [] := by
  cases space with
  | nil => rfl
  | cons c rest =>
    have blank := (isBlank_iff c).mpr (layout c List.mem_cons_self)
    rw [unblank c rfl] at blank
    cases blank

/-- Behind its layout the text does not go on with one of the given characters. -/
def Stops (openers text : List Char) : Prop := ∀ c ∈ (text.dropWhile isBlank).head?, c ∉ openers

theorem stops_nil (openers : List Char) : Stops openers [] := by
  intro c head
  cases head

theorem stops_cons {openers : List Char} {c : Char} (solid : isBlank c = false)
    (other : c ∉ openers) : Stops openers (c :: text) := by
  intro d head
  rw [List.dropWhile_cons_of_neg (by rw [solid]; decide)] at head
  cases head
  exact other

theorem stops_of_head {openers : List Char}
    (other : ∀ c ∈ text.head?, isBlank c = false ∧ c ∉ openers) : Stops openers text := by
  cases text with
  | nil => exact stops_nil openers
  | cons c rest => exact stops_cons (other c rfl).1 (other c rfl).2

theorem stops_layout {openers : List Char} (layout : Layout space) (stops : Stops openers text) :
    Stops openers (space ++ text) := by
  intro c head
  rw [List.dropWhile_append_of_pos fun d member => (isBlank_iff d).mpr (layout d member)] at head
  exact stops c head

theorem Stops.mono {openers fewer : List Char} (stops : Stops openers text)
    (less : fewer ⊆ openers) : Stops fewer text :=
  fun c head member => stops c head (less member)

/-- The reader finds nothing unless the text begins with one of the given characters. Layout is
skipped before the reader begins. -/
def Opens (reader : Reader α) (openers : List Char) : Prop :=
  ∀ text, (∀ c ∈ text.head?, isBlank c = false ∧ c ∉ openers) → reader.Fails text

theorem opens_symbol (c : Char) : Opens (symbol c) [c] := by
  intro text other
  exact Fails.symbol fun d head => List.ne_of_not_mem_cons (other d head).2

theorem Opens.construct {openers : List Char} (name : Construct) (opens : Opens reader openers) :
    Opens (construct name reader) openers :=
  fun text other => Fails.construct name (opens text other)

theorem Opens.bind {openers : List Char} {next : α → Reader β} (opens : Opens reader openers) :
    Opens (reader >>= next) openers :=
  fun text other => Fails.bind_left (opens text other)

theorem Finds.spaced (layout : Layout space) (solid : Unblank (text ++ after))
    (found : reader.Finds text value after) : (spaced reader).Finds (space ++ text) value after :=
  Finds.bind (Finds.run (fun c member => (isBlank_iff c).mpr (layout c member)) solid) found

theorem Fails.spaced {openers : List Char} (opens : Opens reader openers)
    (stops : Stops openers text) : (spaced reader).Fails text := by
  have parts : text = text.takeWhile isBlank ++ text.dropWhile isBlank :=
    List.takeWhile_append_dropWhile.symm
  have solid (c : Char) (head : c ∈ (text.dropWhile isBlank).head?) : isBlank c = false := by
    have ended := List.head?_dropWhile_not isBlank text
    rw [Option.mem_def.mp head] at ended
    exact ended
  rw [parts]
  exact Fails.bind_right (Finds.run (List.all_eq_true.mp List.all_takeWhile) solid)
    (opens _ fun c head => ⟨solid c head, stops c head⟩)

theorem Sound.spaced {property : α → List Char → List Char → Prop}
    (sound : reader.Sound property) :
    (spaced reader).Sound fun value text after => ∃ space body, text = space ++ body ∧
      Layout space ∧ Unblank (body ++ after) ∧ property value body after := by
  refine (Sound.bind (Sound.run isBlank) fun _ => sound).mono ?_
  rintro value _ after ⟨_, space, body, rfl, ⟨-, blank, ended⟩, holds⟩
  exact ⟨space, body, rfl, fun c member => (isBlank_iff c).mp (blank c member), ended, holds⟩

/-! ## Single tokens -/

theorem finds_label {label : String} (name : LabelText label.toList)
    (ended : ∀ c ∈ after.head?, ¬ LabelChar c) :
    Grammar.label.Finds label.toList label after := by
  have taken : (run1 isLabelChar).Finds label.toList label.toList after :=
    Finds.run1 name.1 (fun c member => (isLabelChar_iff c).mpr (name.2 c member))
      fun c head => Bool.eq_false_iff.mpr fun inside => ended c head ((isLabelChar_iff c).mp inside)
  have made := Finds.construct .label (taken.map String.ofList)
  rw [String.ofList_toList] at made
  exact made

theorem sound_label :
    Grammar.label.Sound fun label text after =>
      text = label.toList ∧ LabelText text ∧ ∀ c ∈ after.head?, ¬ LabelChar c := by
  refine (Sound.construct .label ((Sound.run1 isLabelChar).map String.ofList)).mono ?_
  rintro _ text after ⟨_, rfl, rfl, nonempty, all, ended⟩
  refine ⟨String.toList_ofList.symm, ⟨nonempty, ?_⟩, ?_⟩
  · exact fun c member => (isLabelChar_iff c).mp (all c member)
  · intro c head inside
    rw [← isLabelChar_iff, ended c head] at inside
    cases inside

/-- A mark for output, which must not be followed by another where there is none. -/
theorem finds_star {stored : Bool} {star : List Char} (mark : StarSpelled stored star)
    (single : stored = false → Stops ['*'] after) :
    (present (spaced store)).Finds star stored after := by
  cases mark with
  | absent =>
    exact Finds.present_false (Fails.spaced ((opens_symbol '*').construct .store) (single rfl))
  | present layout =>
    exact Finds.present_true (Finds.spaced layout (unblank_cons rfl)
      (Finds.construct .store (Finds.symbol '*' after)))

theorem sound_star :
    (present (spaced store)).Sound fun stored text _ => StarSpelled stored text := by
  refine (Sound.present (Sound.spaced (Sound.construct .store (Sound.symbol '*')))).mono ?_
  rintro _ _ _ (⟨_, rfl, space, _, rfl, layout, -, rfl⟩ | ⟨rfl, rfl⟩)
  · exact .present layout
  · exact .absent

/-! ## Signs and the parenthesis behind them -/

variable {negated : Bool} {sign : List Char}

private theorem finds_negation (after : List Char) (negation : SignSpelled negated sign) :
    ∃ mark space, sign = mark ++ space ∧ Layout space ∧
      (present Grammar.negation).Finds mark negated (space ++ '(' :: after) := by
  cases negation with
  | plain =>
    refine ⟨[], [], rfl, ?_, Finds.present_false (Fails.construct .negation (Fails.symbol ?_))⟩
    · intro c member
      cases member
    · intro c head
      cases head
      decide
  | @negated space layout =>
    exact ⟨['!'], space, rfl, layout,
      Finds.present_true (Finds.construct .negation (Finds.symbol '!' _))⟩

theorem finds_opening (negation : SignSpelled negated sign) :
    opening.Finds (sign ++ ['(']) negated after := by
  obtain ⟨mark, space, rfl, layout, found⟩ := finds_negation after negation
  rw [List.append_assoc]
  refine Finds.bind (by simpa using found) ?_
  rw [← List.append_nil (space ++ ['('])]
  exact Finds.bind (Finds.spaced layout (unblank_cons rfl) (Finds.symbol '(' _))
    (Finds.pure negated after)

theorem opens_opening : Opens opening ['!', '('] := by
  intro text other
  have unsigned : (present Grammar.negation).Finds [] false text := by
    refine Finds.present_false (Fails.construct .negation (Fails.symbol ?_))
    intro d head same
    exact (other d head).2 (by simp [same])
  refine Fails.bind_right unsigned (Fails.bind_left ?_)
  · refine Fails.spaced (opens_symbol '(') (stops_of_head fun c head => ?_)
    exact ⟨(other c head).1, fun same => (other c head).2 (List.mem_cons_of_mem _ same)⟩

theorem sound_opening :
    opening.Sound fun negated text after => Unblank (text ++ after) →
      ∃ sign, text = sign ++ ['('] ∧ SignSpelled negated sign := by
  refine (Sound.bind (Sound.present (Sound.construct .negation (Sound.symbol '!'))) fun negated =>
    Sound.bind (Sound.spaced (Sound.symbol '(')) fun _ => Sound.pure negated).mono ?_
  rintro _ _ after ⟨negated, mark, _, rfl, marked, _, _, _, rfl, ⟨space, _, rfl, layout, -, rfl⟩,
    rfl, rfl⟩ unblank
  rcases marked with ⟨_, rfl, rfl⟩ | ⟨rfl, rfl⟩
  · exact ⟨'!' :: space, by simp, .negated layout⟩
  · rw [List.nil_append, List.append_nil, List.append_assoc] at unblank
    rw [eq_nil_of_unblank layout unblank]
    exact ⟨[], rfl, .plain⟩

/-! ## Quoted texts -/

theorem split_escaped {value written : List Char} (inner : Escaped value written)
    (after : List Char) : Text.Quoted.split (written ++ '\x27' :: after) = (written, '\x27' :: after) := by
  induction inner with
  | nil => cases after <;> rfl
  | @plain c value written mark escape rest ih =>
    obtain ⟨d, tail, same⟩ : ∃ d tail, written ++ '\x27' :: after = d :: tail := by
      cases written <;> exact ⟨_, _, rfl⟩
    rw [List.cons_append]
    rw [same] at ih ⊢
    simp [Text.Quoted.split, Text.Quoted.mark, Text.Quoted.escape, mark, escape, ih]
  | @escaped c value written rest ih =>
    simp [Text.Quoted.split, Text.Quoted.mark, Text.Quoted.escape, ih]

private theorem decode_cons {c : Char} (plain : c ≠ '\x5c') (rest : List Char) :
    Text.Quoted.decode (c :: rest) = c :: Text.Quoted.decode rest := by
  cases rest <;> simp [Text.Quoted.decode, Text.Quoted.escape, plain]

theorem decode_escaped {value written : List Char} (inner : Escaped value written) :
    Text.Quoted.decode written = value := by
  induction inner with
  | nil => rfl
  | @plain c value written mark escape rest ih => rw [decode_cons escape, ih]
  | @escaped c value written rest ih => simp [Text.Quoted.decode, Text.Quoted.escape, ih]

/-- The written form that reading takes never ends in the middle of an escape. -/
theorem escaped_split (text : List Char) :
    Escaped (Text.Quoted.decode (Text.Quoted.split text).1) (Text.Quoted.split text).1 := by
  fun_induction Text.Quoted.split text with
  | case1 => exact .nil
  | case2 c special => exact .nil
  | case3 c plain =>
    simp only [Text.Quoted.isSpecial, Bool.or_eq_true, beq_iff_eq, not_or] at plain
    simp only [Text.Quoted.decode, if_neg plain.2]
    exact .plain plain.1 plain.2 .nil
  | case4 d rest => exact .nil
  | case5 d rest other ih => exact .escaped ih
  | case6 c d rest mark escape ih =>
    rw [decode_cons escape]
    exact .plain mark escape ih

theorem split_append (text : List Char) :
    (Text.Quoted.split text).1 ++ (Text.Quoted.split text).2 = text := by
  fun_induction Text.Quoted.split text <;> simp_all

theorem finds_quotedContent {content written : List Char}
    (inner : Escaped content written) (after : List Char) :
    quotedContent.Finds written written ('\x27' :: after) := by
  intro index
  simp only [quotedContent, split_escaped inner, Cursor.advance, List.drop_left]

theorem sound_quotedContent :
    quotedContent.Sound fun found text _ =>
      found = text ∧ Escaped (Text.Quoted.decode text) text := by
  intro here found there stopped
  cases stopped
  have rest : (here.advance (Text.Quoted.split here.rest).1.length).rest =
      (Text.Quoted.split here.rest).2 := by
    rw [Cursor.advance, ← @List.drop_left _ (Text.Quoted.split here.rest).1
      (Text.Quoted.split here.rest).2, split_append]
  exact ⟨_, by rw [rest, split_append], rfl, rfl, escaped_split here.rest⟩

theorem finds_quoted {label : String} (spelled : QuotedSpelled label text) :
    quoted.Finds text label after := by
  cases spelled with
  | @mk written inner =>
    have value : label = String.ofList (Text.Quoted.decode written) := by
      rw [decode_escaped inner, String.ofList_toList]
    rw [value]
    have opened : (symbol Text.Quoted.mark).Finds ['\x27'] () ((written ++ ['\x27']) ++ after) :=
      Finds.symbol _ _
    refine Finds.construct .quoted (Finds.bind opened ?_)
    refine Finds.bind (finds_quotedContent inner after) ?_
    exact Finds.bind_last (Finds.symbol _ after) (Finds.pure _ after)

theorem sound_quoted : quoted.Sound fun label text _ => QuotedSpelled label text := by
  refine (Sound.construct .quoted (Sound.bind (Sound.symbol Text.Quoted.mark) fun _ =>
    Sound.bind sound_quotedContent fun content => Sound.bind (Sound.symbol Text.Quoted.mark)
      fun _ => Sound.pure (String.ofList (Text.Quoted.decode content)))).mono ?_
  rintro _ _ after ⟨_, _, _, rfl, rfl, _, written, _, rfl, ⟨rfl, inner⟩, _, _, _, rfl, rfl, rfl, rfl⟩
  refine .mk ?_
  rw [String.toList_ofList]
  exact inner

/-! ## Truth values and numbers -/

theorem finds_boolean {word : String} (truth : BooleanText word.toList)
    (ended : ∀ c ∈ after.head?, c.isAlphanum = false) : boolean.Finds word.toList word after := by
  have letters : (orElse (Reader.word "true".toList) (Reader.word "false".toList)).Finds word.toList
      word.toList after := by
    rcases truth with yes | no
    · exact Finds.orElse_left (Finds.word yes)
    · refine Finds.orElse_right (Fails.word ?_) (Finds.word no)
      cases letters : word.toList with
      | nil => rw [letters] at no; cases no
      | cons c rest =>
        rw [letters] at no
        intro d head same
        cases head
        rw [(List.cons.inj no).1] at same
        cases same
  suffices made : boolean.Finds word.toList (String.ofList word.toList) after by
    rwa [String.ofList_toList] at made
  refine Finds.construct .boolean (Finds.bind_last letters ?_)
  exact Finds.bind_last (Finds.notAhead ended) (Finds.pure _ after)

theorem sound_boolean :
    boolean.Sound fun word text _ => text = word.toList ∧ BooleanText word.toList := by
  refine (Sound.construct .boolean (Sound.bind (Sound.orElse (Sound.word "true".toList)
    (Sound.word "false".toList)) fun letters => Sound.bind (Sound.notAhead isWordChar) fun _ =>
      Sound.pure (String.ofList letters))).mono ?_
  rintro _ _ after ⟨_, written, _, rfl, either, _, _, _, rfl, ⟨rfl, -⟩, rfl, rfl⟩
  rw [List.append_nil, List.append_nil, String.toList_ofList]
  rcases either with ⟨rfl, yes⟩ | ⟨rfl, no⟩
  · exact ⟨rfl, Or.inl yes⟩
  · exact ⟨rfl, Or.inr no⟩

theorem finds_digits (digits : Digits text) (ended : ∀ c ∈ after.head?, c.isDigit = false) :
    (run1 Char.isDigit).Finds text text after := Finds.run1 digits.1 digits.2 ended

theorem sound_digits : (run1 Char.isDigit).Sound fun found text _ => found = text ∧ Digits text :=
  (Sound.run1 Char.isDigit).mono fun _ _ _ ⟨same, nonempty, all, _⟩ => ⟨same, nonempty, all⟩

/-- The reader of a sign finds it, with a digit behind it. -/
private theorem finds_minus (after : List Char) {minus whole : List Char} (sign : minus = [] ∨ minus = ['-'])
    (digits : Digits whole) :
    ∃ negative, (if negative then ['-'] else []) = minus ∧
      (present (symbol '-')).Finds minus negative (whole ++ after) := by
  rcases sign with rfl | rfl
  · refine ⟨false, rfl, Finds.present_false (Fails.symbol ?_)⟩
    obtain ⟨c, rest, rfl⟩ := List.exists_cons_of_ne_nil digits.1
    intro d head same
    cases head
    have digit := digits.2 c List.mem_cons_self
    rw [same] at digit
    exact absurd digit (by decide)
  · exact ⟨true, rfl, Finds.present_true (Finds.symbol '-' _)⟩

private theorem finds_fraction {decimals : List Char}
    (fraction : decimals = [] ∨ ∃ more, decimals = '.' :: more ∧ Digits more)
    (ended : ∀ c ∈ after.head?, c.isDigit = false ∧ c ≠ '.') :
    ∃ found, found.getD [] = decimals ∧
      (optional Grammar.fraction).Finds decimals found after := by
  rcases fraction with rfl | ⟨more, rfl, digits⟩
  · refine ⟨none, rfl, Finds.optional_none (Fails.bind_left (Fails.symbol ?_))⟩
    exact fun c head => (ended c head).2
  · refine ⟨some ('.' :: more), rfl, Finds.optional_some ?_⟩
    have point : (symbol '.').Finds ['.'] () (more ++ after) := Finds.symbol '.' _
    refine Finds.bind point ?_
    exact Finds.bind_last (finds_digits digits fun c head => (ended c head).1) (Finds.pure _ after)

private theorem sound_fraction :
    Grammar.fraction.Sound fun found text _ =>
      found = text ∧ ∃ more, text = '.' :: more ∧ Digits more := by
  refine (Sound.bind (Sound.symbol '.') fun _ => sound_digits.map ('.' :: ·)).mono ?_
  rintro _ _ after ⟨_, _, _, rfl, rfl, more, rfl, rfl, digits⟩
  exact ⟨rfl, more, rfl, digits⟩

theorem finds_number {digits : String} (spelled : NumberText digits.toList)
    (ended : ∀ c ∈ after.head?, c.isDigit = false ∧ c ≠ '.') :
    number.Finds digits.toList digits after := by
  obtain ⟨minus, whole, decimals, text, sign, integral, fraction⟩ := spelled
  obtain ⟨negative, rfl, begun⟩ := finds_minus (decimals ++ after) sign integral
  obtain ⟨found, rfl, continued⟩ := finds_fraction fraction ended
  have value : digits = String.ofList ((if negative then ['-'] else []) ++ whole ++ found.getD []) := by
    rw [List.append_assoc, ← text, String.ofList_toList]
  rw [text]
  refine Finds.construct .number (Finds.bind (by rw [List.append_assoc]; exact begun) ?_)
  refine Finds.bind (finds_digits integral ?_) ?_
  · intro c head
    rcases fraction with empty | ⟨more, point, -⟩
    · rw [empty] at head
      exact (ended c head).1
    · rw [point] at head
      cases head
      rfl
  · rw [value]
    exact Finds.bind_last continued (Finds.pure _ after)

theorem sound_number :
    number.Sound fun digits text _ => text = digits.toList ∧ NumberText digits.toList := by
  refine (Sound.construct .number (Sound.bind (Sound.present (Sound.symbol '-')) fun negative =>
    Sound.bind sound_digits fun digits => Sound.bind (Sound.optional sound_fraction)
      fun decimals => Sound.pure (String.ofList ((if negative then ['-'] else []) ++ digits ++
        decimals.getD [])))).mono ?_
  rintro _ _ after ⟨negative, minus, _, rfl, signed, whole, _, _, rfl, ⟨rfl, integral⟩, decimals,
    fraction, _, rfl, fractional, rfl, rfl⟩
  have sign : (if negative then ['-'] else []) = minus ∧ (minus = [] ∨ minus = ['-']) := by
    rcases signed with ⟨_, rfl, rfl⟩ | ⟨rfl, rfl⟩
    · exact ⟨rfl, Or.inr rfl⟩
    · exact ⟨rfl, Or.inl rfl⟩
  have point : decimals.getD [] = fraction ∧
      (fraction = [] ∨ ∃ more, fraction = '.' :: more ∧ Digits more) := by
    rcases fractional with ⟨_, rfl, rfl, more, same, digits⟩ | ⟨rfl, rfl⟩
    · exact ⟨rfl, Or.inr ⟨more, same, digits⟩⟩
    · exact ⟨rfl, Or.inl rfl⟩
  rw [String.toList_ofList, sign.1, point.1, List.append_nil, List.append_assoc]
  exact ⟨rfl, minus, whole, fraction, rfl, sign.2, integral, point.2⟩

/-! ## Values of filters -/

/-- A number begins with a digit or a minus sign, which are no capitals. -/
theorem numberText_head (number : NumberText text) :
    ∃ c rest, text = c :: rest ∧ (c.isDigit = true ∨ c = '-') := by
  obtain ⟨minus, whole, fraction, rfl, sign, integral, -⟩ := number
  obtain ⟨c, rest, rfl⟩ := List.exists_cons_of_ne_nil integral.1
  rcases sign with rfl | rfl
  · exact ⟨c, _, rfl, Or.inl (integral.2 c List.mem_cons_self)⟩
  · exact ⟨'-', _, rfl, Or.inr rfl⟩

theorem toLower_of_isDigit {c : Char} (digit : c.isDigit = true) : c.toLower = c := by
  unfold Char.toLower
  rw [dif_neg]
  rintro ⟨capital, -⟩
  have bound := (Char.isDigit_iff_toNat.mp digit).2
  have least : 'A'.toNat ≤ c.toNat := UInt32.le_iff_toNat_le.mp capital
  exact absurd (Nat.le_trans least bound) (by decide)

/-- A letter whose small form is given is that form or its capital. -/
theorem small_or_capital {c small : Char} (lower : c.toLower = small) :
    c = small ∨ c = Char.ofNat (small.toNat - 32) := by
  unfold Char.toLower at lower
  split at lower
  · rename_i capital
    right
    have bound : c.toNat ≤ 'Z'.toNat := UInt32.le_iff_toNat_le.mp capital.2
    have shift : small.toNat = (c.toNat + 32) % 2 ^ 32 :=
      (congrArg Char.toNat lower).symm.trans (UInt32.toNat_add _ _)
    have limit : 'Z'.toNat = 90 := rfl
    rw [show small.toNat - 32 = c.toNat by omega, Char.ofNat_toNat]
  · exact Or.inl lower

/-- A truth value begins with a letter. -/
theorem booleanText_head (truth : BooleanText text) :
    ∃ c rest, text = c :: rest ∧ (c.toLower = 't' ∨ c.toLower = 'f') := by
  cases text with
  | nil => rcases truth with yes | no <;> contradiction
  | cons c rest =>
    rcases truth with yes | no
    · exact ⟨c, rest, rfl, Or.inl (List.cons.inj yes).1⟩
    · exact ⟨c, rest, rfl, Or.inr (List.cons.inj no).1⟩

theorem fails_boolean_of_number (number : NumberText text) : boolean.Fails (text ++ after) := by
  obtain ⟨c, rest, rfl, begun⟩ := numberText_head number
  have other (letter : Char) (small : letter ≠ '-' ∧ letter.isDigit = false) :
      ∀ d ∈ (c :: rest ++ after).head?, d.toLower ≠ letter := by
    intro d head same
    cases head
    rcases begun with digit | rfl
    · rw [toLower_of_isDigit digit] at same
      rw [same, small.2] at digit
      cases digit
    · exact small.1 same.symm
  exact Fails.construct .boolean (Fails.bind_left (Fails.orElse (Fails.word (other 't' (by decide)))
    (Fails.word (other 'f' (by decide)))))

/-- A value may end here: neither a letter, nor a digit, nor a point follows. -/
def Closes (after : List Char) : Prop := ∀ c ∈ after.head?, c.isAlphanum = false ∧ c ≠ '.'

private theorem fails_quoted (after : List Char) {c : Char} {rest : List Char} (same : text = c :: rest)
    (other : c ≠ '\x27') : quoted.Fails (text ++ after) := by
  rw [same]
  refine Fails.construct .quoted (Fails.bind_left (Fails.symbol ?_))
  intro d head mark
  cases head
  exact other mark

theorem finds_literal {literal : Literal} (spelled : literal.Spelled text) (closes : Closes after) :
    Grammar.literal.Finds text literal after := by
  cases spelled with
  | text quoted => exact Finds.orElse_left ((finds_quoted quoted).map Literal.text)
  | @number digits number =>
    obtain ⟨c, rest, same, begun⟩ := numberText_head number
    have unquoted := fails_quoted after same (by rintro rfl; exact absurd begun (by decide))
    refine Finds.orElse_right (unquoted.map _) (Finds.orElse_right
      ((fails_boolean_of_number number).map _) ((finds_number number ?_).map Literal.number))
    intro d head
    have ended := closes d head
    simp only [Char.isAlphanum, Bool.or_eq_false_iff] at ended
    exact ⟨ended.1.2, ended.2⟩
  | @boolean word truth =>
    obtain ⟨c, rest, same, begun⟩ := booleanText_head truth
    have unquoted := fails_quoted after same (by rintro rfl; exact absurd begun (by decide))
    exact Finds.orElse_right (unquoted.map _) (Finds.orElse_left
      ((finds_boolean truth fun d head => (closes d head).1).map Literal.boolean))

theorem sound_literal : literal.Sound fun literal text _ => literal.Spelled text := by
  refine (Sound.orElse (sound_quoted.map Literal.text) (Sound.orElse
    (sound_boolean.map Literal.boolean) (sound_number.map Literal.number))).mono ?_
  rintro _ _ after (⟨_, rfl, quoted⟩ | ⟨_, rfl, rfl, truth⟩ | ⟨_, rfl, rfl, number⟩)
  · exact .text quoted
  · exact .boolean truth
  · exact .number number

end Traversal.Grammar
