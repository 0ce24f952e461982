import Mathlib
import Traversal.Proofs.Attempts
import Traversal.Proofs.Soundness

/-! What a syntax error tells. The readers of all parts of a query read languages of phrases, so every
construct that one of them tries in vain leads on to a phrase; and what a whole query tries in vain
leads on to a text of the grammar. An error therefore names constructs with which the text in front of
it can be continued. -/
namespace Traversal.Grammar
open Reader

/-! ## Languages of phrases -/

/-- The phrases of a construct. -/
def phrases (name : Construct) : Language Char := {text | name.Phrase text}

/-- The texts that spell any value. -/
def spellings {α : Type} (spelled : α → List Char → Prop) : Language Char :=
  {text | ∃ value, spelled value text}

variable {α : Type} {language front back : Language Char} {name : Construct}
  {spelled : α → List Char → Prop} {text : List Char}

theorem blank_append {space : List Char} (layout : Layout space) (layout' : Layout text) :
    Layout (space ++ text) := by
  intro c member
  rcases List.mem_append.mp member with first | second
  · exact layout c first
  · exact layout' c second

/-- Layout behind layout is layout. -/
theorem mem_blank_of_twice : ∀ text ∈ blank * (blank * language), text ∈ blank * language := by
  rintro _ ⟨space, layout, _, ⟨space', layout', body, inside, rfl⟩, rfl⟩
  exact ⟨space ++ space', blank_append layout layout', body, inside, List.append_assoc _ _ _⟩

/-- There may be no layout. -/
theorem mem_blank : ∀ text ∈ language, text ∈ blank * language :=
  fun text inside => ⟨[], layout_nil, text, inside, rfl⟩

theorem Reads.behind_blank {reader : Reader α} (reads : Reads reader (blank * language)) :
    Reads (Grammar.spaced reader) (blank * language) :=
  reads.spaced.mono (mem_blank_of_twice)

/-- A construct whose reader takes layout and then one of its phrases. -/
theorem Reads.rule {reader : Reader α} (reads : Reads reader front)
    (phrased : ∀ text ∈ front, text ∈ blank * phrases name) : Reads (construct name reader) (blank * phrases name) := by
  obtain ⟨-, text, inside⟩ := reads.inhabited
  obtain ⟨-, -, phrase, spelled, -⟩ := phrased text inside
  exact (reads.mono phrased).construct spelled (mem_blank _ spelled)

/-- A construct whose parts are not recorded. -/
theorem reads_token [Nonempty α] {reader : Reader α} (phrase : List Char) (silent : reader.Silent)
    (sound : (construct name reader).Sound fun _ text _ => name.Phrase text)
    (spelled : name.Phrase phrase) : Reads (construct name reader) (phrases name) where
  sound := sound
  tries _ := silent.tries.construct (Leads.phrase spelled spelled)
  inhabited := ⟨inferInstance, phrase, spelled⟩

/-! ## Tokens -/

theorem labelText_a : LabelText ['a'] := by
  refine ⟨List.cons_ne_nil _ _, fun c member => ?_⟩
  cases List.mem_singleton.mp member
  decide

theorem digits_one : Digits ['1'] := ⟨List.cons_ne_nil _ _, by simp⟩

theorem reads_label : Reads Grammar.label (phrases .label) :=
  reads_token ['a'] ((Silent.run1 _).map _)
    (sound_label.mono fun _ _ _ ⟨_, letters, _⟩ => letters) labelText_a

theorem reads_negation : Reads Grammar.negation (phrases .negation) :=
  reads_token ['!'] (Silent.symbol '!') (Sound.construct .negation (Sound.symbol '!')) rfl

theorem reads_integer : Reads Grammar.integer (phrases .integer) :=
  reads_token ['1'] (Silent.run1 _)
    ((Sound.construct .integer sound_digits).mono fun _ _ _ ⟨_, digits⟩ => digits) digits_one

theorem quotedSpelled_nil : QuotedSpelled "" ['\x27', '\x27'] := by
  have empty : Escaped "".toList [] := by
    rw [String.toList_empty]
    exact .nil
  exact .mk empty

theorem reads_quoted : Reads Grammar.quoted (spellings QuotedSpelled) :=
  reads_token ['\x27', '\x27'] ((Silent.symbol _).bind fun _ => Silent.bind (fun _ => rfl) fun _ =>
    (Silent.symbol _).bind fun _ => Silent.pure _)
    (sound_quoted.mono fun label _ _ quoted => ⟨label, quoted⟩) ⟨"", quotedSpelled_nil⟩

theorem reads_boolean : Reads Grammar.boolean (phrases .boolean) :=
  reads_token "true".toList (((Silent.word _).orElse (Silent.word _)).bind fun _ =>
    (Silent.notAhead _).bind fun _ => Silent.pure _)
    (sound_boolean.mono fun _ _ _ ⟨same, truth⟩ => same ▸ truth) (Or.inl (by decide))

theorem reads_number : Reads Grammar.number (phrases .number) := by
  have fraction : Grammar.fraction.Silent :=
    (Silent.symbol '.').bind fun _ => (Silent.run1 _).bind fun _ => Silent.pure _
  exact reads_token ['1'] ((Silent.symbol '-').present.bind fun _ => (Silent.run1 _).bind fun _ =>
    fraction.optional.bind fun _ => Silent.pure _) (sound_number.mono fun _ _ _ ⟨same, number⟩ =>
      same ▸ number) ⟨[], ['1'], [], rfl, Or.inl rfl, digits_one, Or.inl rfl⟩

theorem reads_literal : Reads Grammar.literal (spellings Literal.Spelled) := by
  refine ((reads_quoted.map Literal.text).orElse ((reads_boolean.map Literal.boolean).orElse
    (reads_number.map Literal.number))).mono ?_
  rintro text (⟨label, quoted⟩ | truth | number)
  · exact ⟨.text label, .text quoted⟩
  · have spelled : BooleanText (String.ofList text).toList := by rwa [String.toList_ofList]
    exact ⟨_, String.toList_ofList (l := text) ▸ Literal.Spelled.boolean spelled⟩
  · have spelled : NumberText (String.ofList text).toList := by rwa [String.toList_ofList]
    exact ⟨_, String.toList_ofList (l := text) ▸ Literal.Spelled.number spelled⟩

/-! ## Parts that occur in several places -/

theorem reads_star : Reads (present (Grammar.spaced Grammar.store)) (spellings StarSpelled) := by
  have store : Reads Grammar.store (phrases .store) :=
    reads_token ['*'] (Silent.symbol '*') (Sound.construct .store (Sound.symbol '*')) rfl
  refine store.spaced.present.mono ?_
  rintro _ (⟨space, layout, _, rfl, rfl⟩ | rfl)
  · exact ⟨true, .present layout⟩
  · exact ⟨false, .absent⟩

/-- The opening of a clause, perhaps with layout in front of it. -/
theorem reads_opening : Reads opening
    (blank * spellings fun negated text => ∃ sign, SignSpelled negated sign ∧ text = sign ++ ['(']) := by
  refine (reads_negation.present.bind fun negated => (Reads.symbol '(').spaced.bind fun _ =>
    Reads.pure negated).mono ?_
  rintro _ ⟨_, rfl | rfl, _, ⟨_, ⟨space, layout, _, rfl, rfl⟩, _, rfl, rfl⟩, rfl⟩
  · exact ⟨[], layout_nil, _, ⟨true, '!' :: space, .negated layout, rfl⟩, by simp⟩
  · exact ⟨space, layout, _, ⟨false, [], .plain, rfl⟩, by simp⟩

theorem reads_each {item : Reader α} (reads : Reads item (blank * spellings spelled)) :
    Reads (many (Grammar.spaced item)) (spellings (Each spelled)) := by
  refine (Reads.behind_blank reads).many ⟨[], .nil⟩ ?_
  rintro _ ⟨space, layout, part, ⟨value, first⟩, rfl⟩ others ⟨values, rest⟩
  refine ⟨value :: values, ?_⟩
  rw [List.append_assoc]
  exact .cons layout first rest

theorem reads_commas {item : Reader α} (reads : Reads item (blank * spellings spelled)) :
    Reads (many (Grammar.spaced (afterComma item))) (spellings (CommaEach spelled)) := by
  have behind : Reads (afterComma item) (blank * spellings (BehindComma spelled)) := by
    refine ((Reads.symbol ',').bind fun _ => Reads.behind_blank reads).mono ?_
    rintro _ ⟨_, rfl, _, ⟨space, layout, body, ⟨value, first⟩, rfl⟩, rfl⟩
    exact mem_blank _ ⟨value, space, body, rfl, layout, first⟩
  refine (reads_each behind).mono ?_
  rintro text ⟨values, each⟩
  exact ⟨values, commaEach_iff.mpr each⟩

/-! ## Filters -/

theorem reads_filter : Reads Grammar.filter (blank * phrases .filter) := by
  refine Reads.rule (reads_opening.bind fun negated => reads_quoted.spaced.bind fun key =>
    (reads_commas (reads_literal.mono mem_blank)).bind fun values =>
      (Reads.symbol ')').spaced.bind fun _ => Reads.pure _) ?_
  rintro _ ⟨_, ⟨space, layout, _, ⟨negated, sign, negation, rfl⟩, rfl⟩, _,
    ⟨_, ⟨front, layout', first, ⟨key, name⟩, rfl⟩, _, ⟨others, ⟨values, list⟩, _,
      ⟨_, ⟨back, layout'', _, rfl, rfl⟩, _, rfl, rfl⟩, rfl⟩, rfl⟩, rfl⟩
  refine ⟨space, layout, _, ⟨_, .mk negation layout' name list layout''⟩, by simp⟩

theorem reads_edgeFilter : Reads Grammar.edgeFilter (blank * phrases .edgeFilter) := by
  refine Reads.rule ((Reads.symbol '(').bind fun _ => reads_quoted.spaced.bind fun first =>
    (reads_commas (reads_quoted.mono mem_blank)).bind fun others =>
      (Reads.symbol ')').spaced.bind fun _ => Reads.pure _) ?_
  rintro _ ⟨_, rfl, _, ⟨_, ⟨front, layout, first, ⟨label, head⟩, rfl⟩, _, ⟨others, ⟨labels, tail⟩, _,
    ⟨_, ⟨back, layout', _, rfl, rfl⟩, _, rfl, rfl⟩, rfl⟩, rfl⟩, rfl⟩
  exact mem_blank _ ⟨_, by simpa using EdgeFilterSpelled.mk layout head tail layout'⟩

/-! ## The parts of a statement -/

section

variable {inner : Reader Nested} (deep : Reads inner (blank * phrases .nestedStatement))

include deep

theorem reads_clause : Reads (Grammar.clause inner) (blank * spellings Clause.Spelled) := by
  have block : Reads (Grammar.block inner) (blank * phrases .block) := by
    refine Reads.rule (reads_opening.bind fun negated => (Reads.symbol '>').spaced.bind fun _ =>
      (Reads.behind_blank deep).bind fun nested => (Reads.symbol ')').spaced.bind fun _ =>
        Reads.pure _) ?_
    rintro _ ⟨_, ⟨space, layout, _, ⟨negated, sign, negation, rfl⟩, rfl⟩, _,
      ⟨_, ⟨front, layout', _, rfl, rfl⟩, _, ⟨_, ⟨lead, layout'', text, ⟨statement, spelled⟩, rfl⟩, _,
        ⟨_, ⟨back, layout''', _, rfl, rfl⟩, _, rfl, rfl⟩, rfl⟩, rfl⟩, rfl⟩
    exact ⟨space, layout, _, ⟨_, _, .block negation layout' layout'' spelled layout'''⟩, by simp⟩
  refine (block.orElse (reads_filter.map Clause.filter)).mono ?_
  rintro _ (⟨space, layout, text, ⟨negated, statement, spelled⟩, rfl⟩ |
    ⟨space, layout, text, ⟨test, spelled⟩, rfl⟩)
  · exact ⟨space, layout, text, ⟨_, spelled⟩, rfl⟩
  · exact ⟨space, layout, text, ⟨_, .filter spelled⟩, rfl⟩

theorem reads_vertex : Reads (Grammar.vertex inner) (blank * phrases .vertex) := by
  refine Reads.rule (reads_label.bind fun name => reads_star.bind fun early =>
    (reads_each (reads_clause deep)).bind fun clauses => reads_star.bind fun late =>
      Reads.pure _) ?_
  rintro _ ⟨name, letters, _, ⟨star, ⟨early, mark⟩, _, ⟨list, ⟨clauses, body⟩, _,
    ⟨star', ⟨late, mark'⟩, _, rfl, rfl⟩, rfl⟩, rfl⟩, rfl⟩
  have label : LabelText (String.ofList name).toList := by rwa [String.toList_ofList]
  have spelled := Vertex.Spelled.mk label mark body mark'
  rw [String.toList_ofList] at spelled
  exact mem_blank _ ⟨_, by simpa using spelled⟩

theorem reads_target : Reads (orElse (Grammar.union inner) (Target.vertex <$> Grammar.vertex inner))
    (blank * spellings Target.Spelled) := by
  have union : Reads (Grammar.union inner) (blank * phrases .union) := by
    refine Reads.rule ((Reads.symbol '[').bind fun _ => (Reads.behind_blank deep).bind fun first =>
      (reads_commas deep).bind fun others => (Reads.symbol ']').spaced.bind fun _ =>
        reads_star.bind fun stored => Reads.pure _) ?_
    rintro _ ⟨_, rfl, _, ⟨_, ⟨front, layout, text, ⟨first, head⟩, rfl⟩, _, ⟨list, ⟨others, tail⟩, _,
      ⟨_, ⟨back, layout', _, rfl, rfl⟩, _, ⟨star, ⟨stored, mark⟩, _, rfl, rfl⟩, rfl⟩, rfl⟩, rfl⟩, rfl⟩
    exact mem_blank _ ⟨_, _, _, by simpa using Target.Spelled.union layout head tail layout' mark⟩
  refine (union.orElse ((reads_vertex deep).map Target.vertex)).mono ?_
  rintro _ (⟨space, layout, text, ⟨first, others, stored, spelled⟩, rfl⟩ |
    ⟨space, layout, text, ⟨vertex, spelled⟩, rfl⟩)
  · exact ⟨space, layout, text, ⟨_, spelled⟩, rfl⟩
  · exact ⟨space, layout, text, ⟨_, .vertex spelled⟩, rfl⟩

theorem reads_hop : Reads (Grammar.hop inner) (blank * phrases .hop) := by
  refine Reads.rule ((Reads.symbol '>').bind fun _ => (Reads.behind_blank reads_edgeFilter).optional.bind
    fun labels => (Reads.behind_blank (reads_target deep)).bind fun target => Reads.pure _) ?_
  rintro _ ⟨_, rfl, _, ⟨_, ⟨front, layout, filter, ⟨labels, constraint⟩, rfl⟩ | rfl, _,
    ⟨_, ⟨space, layout', text, ⟨target, spelled⟩, rfl⟩, _, rfl, rfl⟩, rfl⟩, rfl⟩
  · exact mem_blank _ ⟨_, by simpa using Hop.Spelled.mk layout (.some constraint layout') spelled⟩
  · exact mem_blank _ ⟨_, by simpa using Hop.Spelled.mk layout' .any spelled⟩

theorem reads_hops : Reads (many (Grammar.spaced (Grammar.hop inner))) (spellings (Each Hop.Spelled)) :=
  reads_each (reads_hop deep)

theorem reads_statement : Reads (Grammar.statement inner) (blank * phrases .nestedStatement) := by
  refine Reads.rule (reads_edgeFilter.optional.bind fun labels =>
    (Reads.behind_blank (reads_vertex deep)).bind fun head => (reads_hops deep).bind fun hops =>
      Reads.pure _) ?_
  rintro _ ⟨_, ⟨front, layout, filter, ⟨labels, constraint⟩, rfl⟩ | rfl, _,
    ⟨_, ⟨space, layout', text, ⟨head, first⟩, rfl⟩, _, ⟨list, ⟨hops, steps⟩, _, rfl, rfl⟩, rfl⟩, rfl⟩
  · exact ⟨front, layout, _, ⟨_, .mk (.some constraint layout') first steps⟩, by simp⟩
  · exact ⟨space, layout', _, ⟨_, .mk .any first steps⟩, by simp⟩

end

theorem vertexSpelled_a : (Vertex.mk "a" [] (false || false)).Spelled ("a".toList ++ ([] ++ ([] ++ []))) :=
  .mk labelText_a .absent .nil .absent

/-- Nested statements are read at every depth. -/
theorem reads_nested (depth : Nat) : Reads (nested depth) (blank * phrases .nestedStatement) := by
  induction depth with
  | zero =>
    exact Reads.never ⟨⟨.mk [] (.mk "a" [] false) []⟩, _, mem_blank _ ⟨_, .mk .any vertexSpelled_a .nil⟩⟩
  | succ depth ih => exact reads_statement ih

/-! ## Whole texts -/

/-- The texts of limits that may stand behind a text. -/
def limits (before : List Char) : Language Char := spellings (LimitSpelled before)

/-- What is tried in vain for a limit leads on to one. A keyword that is missing right behind a node type
needs layout in front of it. -/
theorem tries_limit {before : List Char} (apart : Apart before text) :
    Tries (optional (Grammar.spaced limit)) (Leads (limits before)) text := by
  have found := Sound.spaced (Sound.construct .limit (Sound.bind (Sound.word "limit".toList) fun _ =>
    Sound.spaced (Sound.construct .integer sound_digits)))
  refine Tries.optional (Tries.bind (Silent.run isBlank).tries (Sound.run isBlank) ?_) found
  rintro _ space rest rfl ⟨-, blank, -⟩
  have layout : Layout space := fun c member => (isBlank_iff c).mp (blank c member)
  refine Tries.construct (Tries.bind (Silent.word _).tries (Sound.word _) ?_) ?_
  · rintro _ word rest' rfl ⟨-, keyword⟩
    refine (reads_integer.spaced.tries rest').mono fun passed name leads => ?_
    rw [← List.append_assoc]
    refine leads.behind ?_
    rintro _ ⟨space', layout', digits, number, rfl⟩
    refine ⟨some digits, ?_⟩
    rw [List.append_assoc]
    refine .some layout ?_ keyword layout' number
    rintro rfl
    exact apart_keyword keyword apart
  -- The keyword may be missing right behind a node type; with a space in front it does not run on.
  · have keyword : AnyCase "limit".toList "limit".toList := by decide
    have gap : Layout [' '] := by simp [Layout]
    have spelled : LimitSpelled before (some ['1'])
        ((space ++ [' ']) ++ ("limit".toList ++ ([] ++ ['1']))) :=
      .some (blank_append layout gap) (fun empty => absurd empty (by simp)) keyword layout_nil digits_one
    exact ⟨[' '], _, [], gap, ⟨_, _, _, rfl, keyword, layout_nil, digits_one⟩, some ['1'],
      by simpa using spelled⟩

theorem startSpelled {root : Vertex} {hops : List Hop} {front list limit : List Char}
    (first : root.Spelled front) (steps : Each Hop.Spelled hops list)
    (inside : limit ∈ limits (front ++ list)) : front ++ (list ++ limit) ∈ phrases .startStatement := by
  obtain ⟨digits, bound⟩ := inside
  exact ⟨root, hops, digits, front, list, limit, rfl, first, steps, bound⟩

theorem tries_startStatement (depth : Nat) (text : List Char) :
    Tries (startStatement (nested depth)) (Leads (blank * phrases .startStatement)) text := by
  have deep := sound_nested depth
  have unlimited (before : List Char) : [] ∈ limits before := ⟨none, .none⟩
  refine Tries.construct (Tries.bind ?_ (sound_vertex deep) fun root front rest _ ⟨first, apart⟩ =>
    Tries.bind ?_ (sound_hops deep) fun hops list rest' whole ⟨steps, apart'⟩ =>
      Tries.bind ?_ sound_limit fun _ _ _ _ _ => (Silent.pure _).tries) ?_
  · refine ((reads_vertex (reads_nested depth)).tries text).mono fun passed name leads =>
      leads.extend ?_
    rintro _ ⟨space, layout, part, ⟨root, first⟩, rfl⟩
    exact ⟨[], space, layout, _, startSpelled first .nil (unlimited _), by simp⟩
  · refine ((reads_hops (reads_nested depth)).tries rest).mono fun passed name leads =>
      leads.behind fun list ⟨hops, steps⟩ => ?_
    rw [← List.append_nil list]
    exact mem_blank _ (startSpelled first steps (unlimited _))
  -- Only the limit depends on what stands in front of it: on the end of the last hop, or of the root.
  · have ends : Apart (front ++ list) rest' := by
      by_cases alone : list = []
      · rw [whole, alone] at apart
        simpa [alone] using apart
      · exact (apart'.resolve_left alone).behind alone
    refine (tries_limit ends).mono fun passed name leads => ?_
    rw [← List.append_assoc]
    refine leads.behind fun limit inside => ?_
    rw [List.append_assoc]
    exact mem_blank _ (startSpelled first steps inside)
  · have spelled := startSpelled vertexSpelled_a .nil (unlimited _)
    exact Leads.phrase spelled (mem_blank _ spelled)

end Traversal.Grammar

namespace Traversal
open Reader Grammar

/-- How a text can go on with a construct: with a phrase of it and more, perhaps behind layout, and with
nothing where the end is expected. -/
def Construct.Continues : Construct → List Char → Prop
  | .endOfQuery, more => more = []
  | name, more => ∃ space phrase rest, more = space ++ (phrase ++ rest) ∧ Layout space ∧ name.Phrase phrase

/-- What has been passed can be continued with a construct to a text of the grammar. -/
def Expected (passed : List Char) (name : Construct) : Prop :=
  ∃ more, name.Continues more ∧ Grammatical (passed ++ more)

theorem Leads.expected {passed : List Char} {name : Construct}
    (leads : Leads {text | Grammatical text} passed name) : Expected passed name := by
  obtain ⟨space, phrase, more, layout, spelled, whole⟩ := leads
  refine ⟨space ++ (phrase ++ more), ?_, whole⟩
  cases name with
  | endOfQuery => exact absurd spelled id
  | _ => exact ⟨space, phrase, more, rfl, layout, spelled⟩

theorem grammatical_of_start {space text back : List Char} (layout : Layout space)
    (start : text ∈ phrases .startStatement) (layout' : Layout back) :
    Grammatical (space ++ (text ++ back)) := by
  obtain ⟨root, hops, digits, front, list, limit, rfl, first, steps, bound⟩ := start
  exact ⟨root, hops, digits, by simpa using StatementSpelled.mk layout first steps bound layout'⟩

/-- What the parts of a query try in vain leads on to a text of the grammar, or to its end. -/
theorem tries_parts (depth : Nat) (text : List Char) :
    Tries (do
      let statement ← Grammar.spaced (startStatement (nested depth))
      Grammar.spaced endOfQuery
      return statement) Expected text := by
  refine Tries.bind ?_ (Sound.spaced (sound_startStatement depth)) ?_
  · refine Tries.bind (Silent.run isBlank).tries (Sound.run isBlank) ?_
    rintro _ space rest rfl ⟨-, blank, -⟩
    have layout : Layout space := fun c member => (isBlank_iff c).mp (blank c member)
    refine (tries_startStatement depth rest).mono fun passed name leads => (leads.behind ?_).expected
    rintro _ ⟨space', layout', start, inside, rfl⟩
    have whole := grammatical_of_start (blank_append layout layout') inside layout_nil
    rw [List.append_nil, List.append_assoc] at whole
    exact whole
  · rintro found _ rest - ⟨space, start, rfl, layout, -, parts⟩
    have inside : start ∈ phrases .startStatement := ⟨_, _, _, parts⟩
    have ended := Sound.spaced (Sound.construct .endOfQuery (Sound.notAhead fun _ => true))
    refine Tries.bind (Tries.bind (Silent.run isBlank).tries (Sound.run isBlank) ?_) ended
      fun _ _ _ _ _ => (Silent.pure _).tries
    rintro _ back rest' rfl ⟨-, blank, -⟩
    have layout' : Layout back := fun c member => (isBlank_iff c).mp (blank c member)
    refine Tries.construct (Silent.notAhead _).tries ⟨[], rfl, ?_⟩
    simpa using grammatical_of_start layout inside layout'

theorem expected_query : Expected [] .query := by
  have whole := grammatical_of_start layout_nil (startSpelled vertexSpelled_a .nil ⟨none, .none⟩)
    layout_nil
  exact ⟨_, ⟨[], _, [], rfl, layout_nil, whole⟩, by simpa using whole⟩

/-- Where the syntax is wrong, each construct that is expected can follow what stands in front, and some
construct is expected. -/
theorem expected_of_unexpected {text before : List Char} {expected : List Construct}
    (failed : Query.parse text = .error (.unexpected before expected)) :
    expected ≠ [] ∧ (∃ after, text = before ++ after) ∧ ∀ name ∈ expected, Expected before name := by
  simp only [Query.parse] at failed
  split at failed
  · rename_i root hops digits _ _
    cases digits with
    | none => cases failed
    | some digits =>
      simp only [Query.limitOfDigits] at failed
      split at failed <;> cases failed
  · rename_i nothing
    cases failed
    obtain ⟨some', all⟩ := (tries_parts (text.length + 1) text).recorded expected_query nothing
    refine ⟨some', ⟨_, (List.take_append_drop _ text).symm⟩, fun name member => ?_⟩
    obtain ⟨passed, rest, whole, place, leads⟩ := all name member
    have same : text.take _ = passed := (congrArg₂ List.take place whole).trans List.take_left
    exact same ▸ leads

/-! ## Positions -/

namespace Text

theorem byteLength_eq (text : List Char) : byteLength text = (String.ofList text).utf8ByteSize := by
  induction text with
  | nil => rfl
  | cons c rest ih =>
    rw [String.ofList_cons, String.utf8ByteSize_append, String.utf8ByteSize_singleton, ← ih]
    rfl

/-- The length of a beginning of a text is a position in it, and not one inside a character. -/
theorem isValid_byteLength {text : String} {before after : List Char}
    (whole : text.toList = before ++ after) :
    (String.Pos.Raw.mk (byteLength before)).IsValid text := by
  have parts : text = String.ofList before ++ String.ofList after := by
    rw [← String.ofList_append, ← whole, String.ofList_toList]
  rw [parts, byteLength_eq]
  exact String.Pos.Raw.isValid_rawEndPos.append_right _

/-- A line is what stands behind the last line feed, and it is counted by the line feeds in front. -/
theorem lineAndColumn_eq (before : List Char) :
    ∃ earlier current, before = earlier ++ current ∧ (earlier = [] ∨ earlier.getLast? = some '\n') ∧
      '\n' ∉ current ∧ lineAndColumn before = (1 + earlier.count '\n', 1 + current.length) := by
  let earlier := (before.reverse.dropWhile (· != '\n')).reverse
  let current := (before.reverse.takeWhile (· != '\n')).reverse
  have whole : before = earlier ++ current := by
    rw [← List.reverse_append, List.takeWhile_append_dropWhile, List.reverse_reverse]
  have unbroken : '\n' ∉ current := by
    intro member
    have solid := List.all_eq_true.mp List.all_takeWhile _ (List.mem_reverse.mp member)
    simp at solid
  have ended : earlier = [] ∨ earlier.getLast? = some '\n' := by
    have broken := List.head?_dropWhile_not (· != '\n') before.reverse
    rw [List.getLast?_reverse]
    cases rest : before.reverse.dropWhile (· != '\n') with
    | nil => exact Or.inl (congrArg List.reverse rest)
    | cons c rest' =>
      rw [rest] at broken
      exact Or.inr (congrArg some (by simpa using broken))
  refine ⟨earlier, current, whole, ended, unbroken, ?_⟩
  have lines : before.count '\n' = earlier.count '\n' := by
    rw [whole, List.count_append, List.count_eq_zero_of_not_mem unbroken, Nat.add_zero]
  rw [lineAndColumn, lines, List.length_reverse]

end Text

theorem Construct.mem_inOrder {name : Construct} {constructs : List Construct} :
    name ∈ Construct.inOrder constructs ↔ name ∈ constructs := by
  have listed : name ∈ Construct.all := by cases name <;> decide
  rw [Construct.inOrder, List.mem_filter, List.contains_iff_mem]
  exact and_iff_right listed

/-- A syntax error stands at a place that the grammar can explain. In front of the place there is a
beginning of the text, so the place is a boundary between characters, and its line and column are those
of the end of that beginning. The message lists constructs, at least one; and each of them can follow the
beginning, perhaps behind layout, so that with more behind it there is a text of the grammar. -/
theorem syntax_errors_are_explained (text : String) (error : ParseError) (detail : String)
    (place : Place) (failed : parseEvents text = .error error)
    (told : error.diagnostic = ⟨detail, some place⟩) :
    ∃ (before after : List Char) (expected : List Construct), text.toList = before ++ after ∧
      place.start = Text.byteLength before ∧ place.stop = place.start + 1 ∧
      place.start ≤ text.utf8ByteSize ∧ (String.Pos.Raw.mk place.start).IsValid text ∧
      (∃ earlier current, before = earlier ++ current ∧
        (earlier = [] ∨ earlier.getLast? = some '\n') ∧ '\n' ∉ current ∧
        place.line = 1 + earlier.count '\n' ∧ place.column = 1 + current.length) ∧
      detail = "expected " ++ Construct.alternatives (expected.map Construct.name) ∧ expected ≠ [] ∧
      (∀ name ∈ expected, ∃ more, name.Continues more ∧ Grammatical (before ++ more)) ∧
      ∃ more, Grammatical (before ++ more) := by
  cases error with
  | limitTooLarge digits => cases congrArg Diagnostic.place told
  | unexpected before constructs =>
    obtain ⟨some', ⟨after, whole⟩, all⟩ :=
      expected_of_unexpected ((parseEvents_eq_error_iff text _).mp failed)
    obtain ⟨earlier, current, parts, ended, unbroken, counted⟩ := Text.lineAndColumn_eq before
    have valid := Text.isValid_byteLength whole
    have marked : (⟨Construct.expectation constructs, some ⟨Text.byteLength before,
        Text.byteLength before + 1, (Text.lineAndColumn before).1, (Text.lineAndColumn before).2⟩⟩ :
          Diagnostic) = ⟨detail, some place⟩ := told
    rw [counted] at marked
    cases marked
    obtain ⟨name, member⟩ := List.exists_mem_of_ne_nil _ some'
    refine ⟨before, after, Construct.inOrder constructs, whole, rfl, rfl, valid.le_utf8ByteSize, valid,
      ⟨earlier, current, parts, ended, unbroken, rfl, rfl⟩, rfl,
      List.ne_nil_of_mem (Construct.mem_inOrder.mpr member),
      fun name listed => all name (Construct.mem_inOrder.mp listed), ?_⟩
    obtain ⟨more, -, grammatical⟩ := all name member
    exact ⟨more, grammatical⟩

/-- In a union that is not closed, behind a letter of two bytes and a line feed, the message names what
may follow the only member. -/
theorem unclosed_union_is_explained :
    let place : Place := ⟨13, 14, 2, 6⟩
    let error := ParseError.unexpected "a('é')\n > [b".toList
      [.store, .negation, .negation, .store, .hop]
    parseEvents "a('é')\n > [b" = .error error ∧
      error.diagnostic = ⟨"expected `>`, `*`, or `!`", some place⟩ ∧
      ∃ (before after : List Char) (expected : List Construct),
        "a('é')\n > [b".toList = before ++ after ∧ 13 = Text.byteLength before ∧
        (∀ name ∈ expected, ∃ more, name.Continues more ∧ Grammatical (before ++ more)) ∧
        ∃ more, Grammatical (before ++ more) := by
  intro place error
  have failed : parseEvents "a('é')\n > [b" = .error error := by cbv
  have listed : Construct.expectation [.store, .negation, .negation, .store, .hop] =
      "expected `>`, `*`, or `!`" := by cbv
  have told : error.diagnostic = ⟨"expected `>`, `*`, or `!`", some place⟩ :=
    congrArg (Diagnostic.mk · (some place)) listed
  obtain ⟨before, after, expected, whole, start, -, -, -, -, -, -, all, continued⟩ :=
    syntax_errors_are_explained _ error _ place failed told
  exact ⟨failed, told, before, after, expected, whole, start, all, continued⟩

end Traversal
