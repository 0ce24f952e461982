import Mathlib.Computability.Language
import Traversal.Proofs.Tokens

/-! What readers record of constructs tried in vain. A record changes by failures of constructs alone,
and behind each failure there is a text that the reader would have gone on with: what it has passed, and
then a phrase of the construct. Every combinator has a rule that tells this of its reader from its
parts. The rules say nothing of the failures that are forgotten or replaced. -/
namespace Traversal

/-! ## The record -/

/-- The record has come to be by failures of constructs, each at a place where a property holds. -/
inductive Attempts.Grows (explained : Nat → Construct → Prop) (before : Attempts) : Attempts → Prop
  | refl : Grows explained before before
  | fail {after : Attempts} {name : Construct} {place known : Nat} (grown : Grows explained before after)
      (holds : explained place name) : Grows explained before (after.fail name place known)

namespace Attempts

variable {explained other : Nat → Construct → Prop} {before middle after : Attempts}

theorem Grows.trans (first : Grows explained before middle) (second : Grows explained middle after) :
    Grows explained before after := by
  induction second with
  | refl => exact first
  | fail _ holds ih => exact ih.fail holds

theorem Grows.mono (grown : Grows explained before after)
    (weaker : ∀ place name, explained place name → other place name) : Grows other before after := by
  induction grown with
  | refl => exact .refl
  | fail _ holds ih => exact ih.fail (weaker _ _ holds)

/-- What is recorded behind a failure was recorded in front of it, or it is that failure. -/
theorem mem_fail {name construct : Construct} {place known : Nat} {attempts : Attempts}
    (member : construct ∈ (attempts.fail name place known).constructs) :
    construct ∈ attempts.constructs ∧ (attempts.fail name place known).index = attempts.index ∨
      construct = name ∧ (attempts.fail name place known).index = place := by
  unfold fail at member ⊢
  split_ifs at member ⊢ with one here further
  · exact Or.inl ⟨member, rfl⟩
  · rcases List.mem_append.mp member with old | new
    · exact Or.inl ⟨List.mem_of_mem_take old, here⟩
    · exact Or.inr ⟨List.mem_singleton.mp new, rfl⟩
  · exact Or.inr ⟨List.mem_singleton.mp member, rfl⟩
  · exact Or.inl ⟨member, rfl⟩

/-- Whatever is recorded is explained, if all that has been recorded before is. -/
theorem Grows.explains (grown : Grows explained before after)
    (begun : ∀ name ∈ before.constructs, explained before.index name) :
    ∀ name ∈ after.constructs, explained after.index name := by
  induction grown with
  | refl => exact begun
  | fail _ holds ih =>
    intro name member
    rcases mem_fail member with ⟨old, index⟩ | ⟨rfl, index⟩
    · rw [index]
      exact ih name old
    · rw [index]
      exact holds

/-- Where nothing is recorded the furthest place is the beginning. -/
def Settled (attempts : Attempts) : Prop := attempts.constructs = [] → attempts.index = 0

theorem Settled.fail (settled : before.Settled) (name : Construct) (place known : Nat) :
    (before.fail name place known).Settled := by
  unfold Attempts.fail
  split_ifs
  · exact settled
  · exact fun empty => absurd empty (by simp)
  · exact fun empty => absurd empty (by simp)
  · exact settled

theorem Grows.settled (grown : Grows explained before after) (begun : before.Settled) :
    after.Settled := by
  induction grown with
  | refl => exact begun
  | fail _ _ ih => exact ih.fail _ _ _

/-- Behind a failure at the beginning something is recorded. -/
theorem fail_ne_nil (settled : before.Settled) (name : Construct) :
    (before.fail name 0 0).constructs ≠ [] := by
  unfold fail
  split_ifs with one here further
  · unfold countAt at one
    split at one
    · exact List.ne_nil_of_length_pos (by omega)
    · cases one
  · simp
  · omega
  · exact fun empty => here (settled empty).symm

end Attempts

/-! ## Phrases -/

/-- A start statement: a root vertex, hops and perhaps a limit, without layout around them. -/
def StartSpelled (root : Vertex) (hops : List Hop) (digits : Option (List Char)) (text : List Char) :
    Prop :=
  ∃ front list limit, text = front ++ (list ++ limit) ∧ root.Spelled front ∧
    Each Hop.Spelled hops list ∧ LimitSpelled (front ++ list) digits limit

/-- The texts that a construct can stand for. The end of the query stands for none. -/
def Construct.Phrase : Construct → List Char → Prop
  | .endOfQuery, _ => False
  | .query, text => Grammatical text
  | .startStatement, text => ∃ root hops digits, StartSpelled root hops digits text
  | .nestedStatement, text => ∃ statement : Nested, statement.Spelled text
  | .hop, text => ∃ hop : Hop, hop.Spelled text
  | .union, text => ∃ first others stored, (Target.union first others stored).Spelled text
  | .vertex, text => ∃ vertex : Vertex, vertex.Spelled text
  | .block, text => ∃ negated inner, (Clause.block negated inner).Spelled text
  | .filter, text => ∃ test : Filter, test.Spelled text
  | .edgeFilter, text => ∃ labels, EdgeFilterSpelled labels text
  | .limit, text => ∃ word space digits, text = word ++ (space ++ digits) ∧
      AnyCase "limit".toList word ∧ Layout space ∧ Digits digits
  | .label, text => LabelText text
  | .store, text => text = ['*']
  | .negation, text => text = ['!']
  | .boolean, text => BooleanText text
  | .number, text => NumberText text
  | .integer, text => Digits text
  | .quoted, text => ∃ label, QuotedSpelled label text

/-- A text of a language goes on from what has been passed with a phrase of a construct, perhaps behind
layout. -/
def Leads (language : Language Char) (passed : List Char) (name : Construct) : Prop :=
  ∃ space phrase more, Layout space ∧ name.Phrase phrase ∧
    passed ++ (space ++ (phrase ++ more)) ∈ language

variable {language front back : Language Char} {passed part text : List Char} {name : Construct}

theorem Leads.extend (leads : Leads front passed name)
    (goes_on : ∀ part ∈ front, ∃ more, part ++ more ∈ language) : Leads language passed name := by
  obtain ⟨space, phrase, more, layout, spelled, inside⟩ := leads
  obtain ⟨others, whole⟩ := goes_on _ inside
  exact ⟨space, phrase, more ++ others, layout, spelled, by simpa using whole⟩

theorem Leads.mono (leads : Leads front passed name) (within : ∀ text ∈ front, text ∈ language) :
    Leads language passed name :=
  leads.extend fun part inside => ⟨[], (List.append_nil part).symm ▸ within part inside⟩

/-- What leads on behind a part of a text leads on from the whole text. -/
theorem Leads.behind (leads : Leads front passed name)
    (goes_on : ∀ more ∈ front, part ++ more ∈ language) : Leads language (part ++ passed) name := by
  obtain ⟨space, phrase, more, layout, spelled, inside⟩ := leads
  refine ⟨space, phrase, more, layout, spelled, ?_⟩
  rw [List.append_assoc]
  exact goes_on _ inside

theorem Leads.phrase {phrase : List Char} (spelled : name.Phrase phrase) (inside : phrase ∈ language) :
    Leads language [] name :=
  ⟨[], phrase, [], Grammar.layout_nil, spelled, (List.append_nil phrase).symm ▸ inside⟩

namespace Reader
open Grammar (isBlank spaced)

variable {α β : Type} {reader first second : Reader α} {next : α → Reader β}

/-! ## Readers that record nothing -/

/-- The reader records no failures. -/
def Silent (reader : Reader α) : Prop := ∀ here, (reader here).tried = id

theorem Silent.pure (value : α) : (pure value : Reader α).Silent := fun _ => rfl

theorem Silent.bind (left : first.Silent) (right : ∀ value, (next value).Silent) :
    (first >>= next).Silent := by
  intro here
  change (andThen first next here).tried = id
  simp only [andThen]
  split
  · exact left here
  · rename_i value there _
    rw [left here, right value there]
    rfl

theorem Silent.map (change : α → β) (silent : reader.Silent) : (change <$> reader).Silent :=
  show (reader >>= fun value => Pure.pure (change value)).Silent from
    silent.bind fun value => Silent.pure (change value)

theorem Silent.orElse (left : first.Silent) (right : second.Silent) :
    (orElse first second).Silent := by
  intro here
  simp only [Reader.orElse]
  split
  · exact left here
  · rw [left here, right here]
    rfl

theorem Silent.optional (silent : reader.Silent) : reader.optional.Silent :=
  (silent.map some).orElse (Silent.pure none)

theorem Silent.present (silent : reader.Silent) : reader.present.Silent :=
  (silent.map fun _ => true).orElse (Silent.pure false)

theorem Silent.run (class_ : Char → Bool) : (run class_).Silent := fun _ => rfl

theorem Silent.run1 (class_ : Char → Bool) : (run1 class_).Silent := by
  refine (Silent.run class_).bind fun taken => ?_
  split
  · exact fun _ => rfl
  · exact Silent.pure taken

theorem Silent.symbol (c : Char) : (symbol c).Silent := by
  intro here
  simp only [Reader.symbol]
  split
  · split <;> rfl
  · rfl

theorem Silent.word (letters : List Char) : (word letters).Silent := by
  intro here
  simp only [Reader.word]
  split <;> rfl

theorem Silent.notAhead (class_ : Char → Bool) : (notAhead class_).Silent := by
  intro here
  simp only [Reader.notAhead]
  split
  · split <;> rfl
  · rfl

/-! ## Readers whose failures are explained -/

/-- Of each failure that the reader records in a text a property holds: of what has been passed in the
text, and of the construct. -/
def Tries (reader : Reader α) (leads : List Char → Construct → Prop) (text : List Char) : Prop :=
  ∀ index attempts, Attempts.Grows (fun place name => ∃ passed rest, text = passed ++ rest ∧
      place = index + passed.length ∧ leads passed name)
    attempts ((reader ⟨index, text⟩).tried attempts)

variable {leads leads' : List Char → Construct → Prop} {property : α → List Char → List Char → Prop}

theorem Silent.tries (silent : reader.Silent) : Tries reader leads text := by
  intro index attempts
  rw [silent]
  exact .refl

theorem Tries.mono (tries : Tries reader leads text)
    (weaker : ∀ passed name, leads passed name → leads' passed name) : Tries reader leads' text :=
  fun index attempts => (tries index attempts).mono fun _ name ⟨passed, rest, whole, place, holds⟩ =>
    ⟨passed, rest, whole, place, weaker passed name holds⟩

/-- The second reader goes on behind the text that the first has passed. -/
theorem Tries.bind (left : Tries first leads text) (sound : first.Sound property)
    (right : ∀ value part rest, text = part ++ rest → property value part rest →
      Tries (next value) (fun passed => leads (part ++ passed)) rest) :
    Tries (first >>= next) leads text := by
  intro index attempts
  change Attempts.Grows _ attempts ((andThen first next _).tried attempts)
  have begun := left index attempts
  cases stopped : (first ⟨index, text⟩).found with
  | none =>
    simp only [andThen, stopped]
    exact begun
  | some found =>
    obtain ⟨value, index', rest⟩ := found
    obtain ⟨part, whole, passed, holds⟩ := sound _ _ _ stopped
    simp only at whole passed
    simp only [andThen, stopped]
    -- What the second reader records it records behind the part that the first has passed.
    refine begun.trans ((right value part rest whole holds index' _).mono ?_)
    rintro place name ⟨passed', rest', same, place', holds'⟩
    refine ⟨part ++ passed', rest', by rw [whole, same, List.append_assoc], ?_, holds'⟩
    rw [place', passed, List.length_append, Nat.add_assoc]

theorem Tries.orElse (left : Tries first leads text) (right : Tries second leads text) :
    Tries (orElse first second) leads text := by
  intro index attempts
  simp only [Reader.orElse]
  split
  · exact left index attempts
  · exact (left index attempts).trans (right index _)

theorem Tries.optional (tries : Tries reader leads text) (sound : reader.Sound property) :
    Tries reader.optional leads text :=
  orElse (bind tries sound fun _ _ _ _ _ => Silent.tries fun _ => rfl) (Silent.tries fun _ => rfl)

/-- A construct that fails does so where it begins. -/
theorem Tries.construct (tries : Tries reader leads text) (holds : leads [] name) :
    Tries (construct name reader) leads text := by
  intro index attempts
  simp only [Reader.construct]
  split
  · exact tries index attempts
  · exact (tries index attempts).fail ⟨[], text, rfl, rfl, holds⟩

theorem Tries.many (tries : ∀ text, Tries reader leads text) (sound : reader.Sound property)
    (later : ∀ value part rest, property value part rest →
      ∀ passed name, leads passed name → leads (part ++ passed) name) (text : List Char) :
    Tries (many reader) leads text := by
  suffices all : ∀ (here : Cursor) attempts, Attempts.Grows (fun place name => ∃ passed rest,
      here.rest = passed ++ rest ∧ place = here.index + passed.length ∧ leads passed name)
      attempts ((Reader.many reader here).tried attempts) from fun index => all ⟨index, text⟩
  intro here attempts
  induction here using Reader.many.induct reader generalizing attempts with
  | case1 here reading failed =>
    rw [Reader.many, failed]
    exact tries here.rest here.index attempts
  | case2 here reading value middle begun shorter ih =>
    have found : (reader here).found = some (value, middle) := begun
    rw [Reader.many]
    simp only [found, shorter, ↓reduceIte]
    refine (tries here.rest here.index attempts).trans ((ih _).mono ?_)
    obtain ⟨part, whole, index, holds⟩ := sound _ _ _ found
    rintro place name ⟨passed, rest, same, place', holds'⟩
    refine ⟨part ++ passed, rest, by rw [whole, same, List.append_assoc], ?_,
      later _ _ _ holds _ _ holds'⟩
    rw [place', index, List.length_append, Nat.add_assoc]
  | case3 here reading value middle begun idle =>
    have found : (reader here).found = some (value, middle) := begun
    rw [Reader.many]
    simp only [found, idle, ↓reduceIte]
    exact tries here.rest here.index attempts

/-- A construct that fails at the beginning of a text leaves some failures on record, and of all that it
leaves the property holds. -/
theorem Tries.recorded (tries : Tries reader leads text) (holds : leads [] name)
    (failed : (Reader.construct name reader ⟨0, text⟩).found = none) :
    let attempts := (Reader.construct name reader ⟨0, text⟩).tried Attempts.none
    attempts.constructs ≠ [] ∧ ∀ name ∈ attempts.constructs, ∃ passed rest, text = passed ++ rest ∧
      attempts.index = passed.length ∧ leads passed name := by
  intro attempts
  have parts := tries 0 Attempts.none
  have last : attempts = ((reader ⟨0, text⟩).tried Attempts.none).fail name 0 0 := by
    rw [found_construct] at failed
    simp only [attempts, Reader.construct, failed]
    rfl
  refine ⟨?_, fun name member => ?_⟩
  · rw [last]
    exact Attempts.fail_ne_nil (parts.settled fun _ => rfl) name
  · obtain ⟨passed, rest, whole, place, leads⟩ := (tries.construct holds 0 Attempts.none).explains
      (fun _ member => absurd member List.not_mem_nil) name member
    exact ⟨passed, rest, whole, place.trans (Nat.zero_add _), leads⟩

/-! ## Readers of languages -/

/-- The reader takes texts of a language, and all that it tries in vain leads on to such a text. There
are such texts, and there are values for them. -/
structure Reads (reader : Reader α) (language : Language Char) : Prop where
  sound : reader.Sound fun _ text _ => text ∈ language
  tries : ∀ text, Tries reader (Leads language) text
  inhabited : Nonempty α ∧ ∃ text, text ∈ language

theorem Reads.mono (reads : Reads reader front) (within : ∀ text ∈ front, text ∈ language) :
    Reads reader language where
  sound := reads.sound.mono fun _ text _ inside => within text inside
  tries text := (reads.tries text).mono fun _ _ leads => leads.mono within
  inhabited := reads.inhabited.imp_right fun ⟨text, inside⟩ => ⟨text, within text inside⟩

/-- A reader that records nothing needs no explanation. -/
theorem Silent.reads [Nonempty α] (silent : reader.Silent)
    (sound : reader.Sound fun _ text _ => text ∈ language) (inhabited : ∃ text, text ∈ language) :
    Reads reader language where
  sound := sound
  tries _ := silent.tries
  inhabited := ⟨inferInstance, inhabited⟩

theorem Reads.pure (value : α) : Reads (pure value : Reader α) 1 :=
  have : Nonempty α := ⟨value⟩
  (Silent.pure value).reads ((Sound.pure value).mono fun _ _ _ ⟨_, empty⟩ => empty) ⟨[], rfl⟩

theorem Reads.never (inhabited : Nonempty α ∧ ∃ text, text ∈ language) :
    Reads (never : Reader α) language where
  sound := Sound.never
  tries _ := Silent.tries fun _ => rfl
  inhabited := inhabited

theorem Reads.symbol (c : Char) : Reads (symbol c) {[c]} :=
  (Silent.symbol c).reads (Sound.symbol c) ⟨[c], rfl⟩

theorem Reads.bind (left : Reads first front) (right : ∀ value, Reads (next value) back) :
    Reads (first >>= next) (front * back) where
  sound := (Sound.bind left.sound fun value => (right value).sound).mono
    fun _ _ _ ⟨_, _, _, whole, inside, inside'⟩ => ⟨_, inside, _, inside', whole.symm⟩
  tries text := by
    obtain ⟨⟨value⟩, -⟩ := left.inhabited
    obtain ⟨-, more, inside⟩ := (right value).inhabited
    refine Tries.bind ((left.tries text).mono fun _ _ leads => leads.extend fun part inside' =>
      ⟨more, part, inside', more, inside, rfl⟩) left.sound fun value part rest _ inside' => ?_
    exact ((right value).tries rest).mono fun _ _ leads => leads.behind fun more inside'' =>
      ⟨part, inside', more, inside'', rfl⟩
  inhabited := by
    obtain ⟨⟨value⟩, part, inside⟩ := left.inhabited
    obtain ⟨result, more, inside'⟩ := (right value).inhabited
    exact ⟨result, part ++ more, part, inside, more, inside', rfl⟩

theorem Reads.map (change : α → β) (reads : Reads reader language) :
    Reads (change <$> reader) language := by
  have whole : Reads (reader >>= fun value => Pure.pure (change value)) (language * 1) :=
    bind reads fun value => pure (change value)
  refine whole.mono ?_
  rintro text ⟨part, inside, _, rfl, whole⟩
  have same : part = text := (List.append_nil part).symm.trans whole
  exact same ▸ inside

theorem Reads.orElse (left : Reads first front) (right : Reads second back) :
    Reads (orElse first second) (front + back) where
  sound := (Sound.orElse left.sound right.sound).mono fun _ _ _ either => either
  tries text := ((left.tries text).mono fun _ _ leads => leads.mono fun _ inside => Or.inl inside).orElse
    ((right.tries text).mono fun _ _ leads => leads.mono fun _ inside => Or.inr inside)
  inhabited := left.inhabited.imp_right fun ⟨text, inside⟩ => ⟨text, Or.inl inside⟩

theorem Reads.optional (reads : Reads reader language) : Reads reader.optional (language + 1) :=
  (reads.map some).orElse (Reads.pure none)

theorem Reads.present (reads : Reads reader language) : Reads reader.present (language + 1) :=
  (reads.map fun _ => true).orElse (Reads.pure false)

/-- A row of items, one in front of a row being a row. -/
theorem Reads.many {row : Language Char} (reads : Reads reader language) (nil : [] ∈ row)
    (cons : ∀ part ∈ language, ∀ others ∈ row, part ++ others ∈ row) : Reads (many reader) row where
  sound := by
    refine (Sound.many reads.sound).mono fun values text after series => ?_
    induction series with
    | nil => exact nil
    | cons first others ih => exact cons _ first _ ih
  tries := Tries.many (fun text => (reads.tries text).mono fun _ _ leads => leads.extend
    fun part inside => ⟨[], cons part inside [] nil⟩) reads.sound
      fun _ part _ inside _ _ leads => leads.behind (cons part inside)
  inhabited := ⟨⟨[]⟩, [], nil⟩

/-- A construct is explained by one of its own phrases. -/
theorem Reads.construct {phrase : List Char} (reads : Reads reader language)
    (spelled : name.Phrase phrase) (inside : phrase ∈ language) :
    Reads (construct name reader) language where
  sound := Sound.construct name reads.sound
  tries text := (reads.tries text).construct (Leads.phrase spelled inside)
  inhabited := reads.inhabited

/-- All layout. -/
def blank : Language Char := {text | Layout text}

theorem Reads.spaced (reads : Reads reader language) : Reads (spaced reader) (blank * language) :=
  bind ((Silent.run isBlank).reads ((Sound.run isBlank).mono fun _ _ _ ⟨_, all, _⟩ c member =>
    (Grammar.isBlank_iff c).mp (all c member)) ⟨[], Grammar.layout_nil⟩) fun _ => reads

end Reader

end Traversal
