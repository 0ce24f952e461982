import Mathlib
import Traversal.Proofs.Soundness

/-! Well-formed trees: those that can be written. Their texts are restricted where the language has
no quotes around them, and the limit fits a count. Unions have a first member and edge filters a
first label by construction. -/
namespace Traversal

/-- Numbers and truth values are kept as written, so they must be what is written for such. -/
def Literal.WellFormed : Literal → Prop
  | .text _ => True
  | .number digits => NumberText digits.toList
  | .boolean word => BooleanText word.toList

mutual

/-- The values of filters are well-formed, wherever the filters stand. -/
def Clause.WellFormed : Clause → Prop
  | .filter test => ∀ value ∈ test.values, value.WellFormed
  | .block _ inner => inner.WellFormed

/-- All clauses are well-formed. -/
def Clause.WellFormedList : List Clause → Prop
  | [] => True
  | clause :: rest => clause.WellFormed ∧ Clause.WellFormedList rest

/-- The type of every vertex is the text of a node type. -/
def Vertex.WellFormed : Vertex → Prop
  | .mk label clauses _ => LabelText label.toList ∧ Clause.WellFormedList clauses

/-- The vertex or the members are well-formed. -/
def Target.WellFormed : Target → Prop
  | .vertex vertex => vertex.WellFormed
  | .union first others _ => first.WellFormed ∧ Nested.WellFormedList others

/-- The labels of an edge may be any texts. -/
def Hop.WellFormed : Hop → Prop
  | .mk _ target => target.WellFormed

/-- All hops are well-formed. -/
def Hop.WellFormedList : List Hop → Prop
  | [] => True
  | hop :: rest => hop.WellFormed ∧ Hop.WellFormedList rest

/-- The vertex and the hops are well-formed. -/
def Nested.WellFormed : Nested → Prop
  | .mk _ head hops => head.WellFormed ∧ Hop.WellFormedList hops

/-- All statements are well-formed. -/
def Nested.WellFormedList : List Nested → Prop
  | [] => True
  | statement :: rest => statement.WellFormed ∧ Nested.WellFormedList rest

end

/-- The parts of the query are well-formed and its limit fits a count. -/
def Query.WellFormed (query : Query) : Prop :=
  query.root.WellFormed ∧ Hop.WellFormedList query.hops ∧
    ∀ count ∈ query.limit, count < Text.countBound

/-! ## Rows -/

section

variable {α : Type} {item : α → List Char → Prop} {value : α} {values : List α}

theorem exists_each_cons :
    (∃ text, Each item (value :: values) text) ↔
      (∃ text, item value text) ∧ ∃ text, Each item values text := by
  constructor
  · rintro ⟨_, each⟩
    cases each with
    | cons layout first others => exact ⟨⟨_, first⟩, _, others⟩
  · rintro ⟨⟨_, first⟩, _, others⟩
    exact ⟨_, .cons Grammar.layout_nil first others⟩

theorem exists_commaEach_cons :
    (∃ text, CommaEach item (value :: values) text) ↔
      (∃ text, item value text) ∧ ∃ text, CommaEach item values text := by
  constructor
  · rintro ⟨_, each⟩
    cases each with
    | cons layout layout' first others => exact ⟨⟨_, first⟩, _, others⟩
  · rintro ⟨⟨_, first⟩, _, others⟩
    exact ⟨_, .cons Grammar.layout_nil Grammar.layout_nil first others⟩

theorem exists_commaEach :
    (∃ text, CommaEach item values text) ↔ ∀ value ∈ values, ∃ text, item value text := by
  induction values with
  | nil =>
    refine ⟨fun _ value member => ?_, fun _ => ⟨[], .nil⟩⟩
    cases member
  | cons value values ih => rw [exists_commaEach_cons, ih, List.forall_mem_cons]

end

/-! ## Spellings of the parts -/

theorem escaped_encode (text : List Char) : Escaped text (Text.Quoted.encode text) := by
  induction text with
  | nil => exact .nil
  | cons c rest ih =>
    rw [Text.Quoted.encode]
    split
    · exact .escaped ih
    · rename_i plain
      simp only [Text.Quoted.isSpecial, Bool.or_eq_true, beq_iff_eq, not_or] at plain
      exact .plain plain.1 plain.2 ih

theorem exists_quoted (text : String) : ∃ written, QuotedSpelled text written :=
  ⟨_, .mk (escaped_encode text.toList)⟩

theorem exists_sign (negated : Bool) : ∃ sign, SignSpelled negated sign := by
  cases negated with
  | false => exact ⟨_, .plain⟩
  | true => exact ⟨_, .negated Grammar.layout_nil⟩

theorem exists_star (stored : Bool) : ∃ star, StarSpelled stored star := by
  cases stored with
  | false => exact ⟨_, .absent⟩
  | true => exact ⟨_, .present Grammar.layout_nil⟩

theorem exists_labels (labels : List String) : ∃ lead, LabelsSpelled labels lead := by
  cases labels with
  | nil => exact ⟨_, .any⟩
  | cons label rest =>
    obtain ⟨_, first⟩ := exists_quoted label
    obtain ⟨_, others⟩ := exists_commaEach.mpr fun label (_ : label ∈ rest) => exists_quoted label
    exact ⟨_, .some (.mk Grammar.layout_nil first others Grammar.layout_nil) Grammar.layout_nil⟩

theorem Literal.exists_spelling (literal : Literal) :
    literal.WellFormed ↔ ∃ text, literal.Spelled text := by
  cases literal with
  | text value =>
    obtain ⟨written, quoted⟩ := exists_quoted value
    exact ⟨fun _ => ⟨written, .text quoted⟩, fun _ => trivial⟩
  | number digits =>
    refine ⟨fun formed => ⟨_, .number formed⟩, ?_⟩
    rintro ⟨_, spelled⟩
    cases spelled with
    | number formed => exact formed
  | boolean word =>
    refine ⟨fun formed => ⟨_, .boolean formed⟩, ?_⟩
    rintro ⟨_, spelled⟩
    cases spelled with
    | boolean formed => exact formed

mutual

theorem Clause.exists_spelling : ∀ clause : Clause,
    clause.WellFormed ↔ ∃ text, clause.Spelled text
  | .filter test => by
    obtain ⟨key, negated, values⟩ := test
    have literals : (∀ value ∈ values, value.WellFormed) ↔
        ∃ text, CommaEach Literal.Spelled values text := by
      simp only [exists_commaEach, Literal.exists_spelling]
    constructor
    · intro formed
      obtain ⟨_, negation⟩ := exists_sign negated
      obtain ⟨_, name⟩ := exists_quoted key
      obtain ⟨_, list⟩ := literals.mp formed
      exact ⟨_, .filter (.mk negation Grammar.layout_nil name list Grammar.layout_nil)⟩
    · rintro ⟨_, spelled⟩
      cases spelled with
      | filter spelled =>
        cases spelled with
        | mk negation layout name list layout' => exact literals.mpr ⟨_, list⟩
  | .block negated inner => by
    constructor
    · intro formed
      obtain ⟨_, negation⟩ := exists_sign negated
      obtain ⟨_, statement⟩ := inner.exists_spelling.mp formed
      exact ⟨_, .block negation Grammar.layout_nil Grammar.layout_nil statement
        Grammar.layout_nil⟩
    · rintro ⟨_, spelled⟩
      cases spelled with
      | block negation layout layout' statement layout'' =>
        exact inner.exists_spelling.mpr ⟨_, statement⟩

theorem Clause.exists_spellings : ∀ clauses : List Clause,
    Clause.WellFormedList clauses ↔ ∃ text, Each Clause.Spelled clauses text
  | [] => ⟨fun _ => ⟨[], .nil⟩, fun _ => trivial⟩
  | clause :: rest => by
    rw [Clause.WellFormedList, exists_each_cons, clause.exists_spelling,
      Clause.exists_spellings rest]

theorem Vertex.exists_spelling : ∀ vertex : Vertex,
    vertex.WellFormed ↔ ∃ text, vertex.Spelled text
  | .mk label clauses stored => by
    constructor
    · rintro ⟨name, formed⟩
      obtain ⟨_, body⟩ := (Clause.exists_spellings clauses).mp formed
      obtain ⟨_, mark⟩ := exists_star stored
      exact ⟨_, .mk name .absent body mark⟩
    · rintro ⟨_, spelled⟩
      cases spelled with
      | mk name mark body mark' => exact ⟨name, (Clause.exists_spellings clauses).mpr ⟨_, body⟩⟩

theorem Target.exists_spelling : ∀ target : Target,
    target.WellFormed ↔ ∃ text, target.Spelled text
  | .vertex vertex => by
    rw [Target.WellFormed, vertex.exists_spelling]
    constructor
    · rintro ⟨_, spelled⟩
      exact ⟨_, .vertex spelled⟩
    · rintro ⟨_, spelled⟩
      cases spelled with
      | vertex spelled => exact ⟨_, spelled⟩
  | .union first others stored => by
    rw [Target.WellFormed, first.exists_spelling, Nested.exists_spellings others]
    constructor
    · rintro ⟨⟨_, head⟩, _, tail⟩
      obtain ⟨_, mark⟩ := exists_star stored
      exact ⟨_, .union Grammar.layout_nil head tail Grammar.layout_nil mark⟩
    · rintro ⟨_, spelled⟩
      cases spelled with
      | union layout head tail layout' mark => exact ⟨⟨_, head⟩, _, tail⟩

theorem Hop.exists_spelling : ∀ hop : Hop, hop.WellFormed ↔ ∃ text, hop.Spelled text
  | .mk labels target => by
    rw [Hop.WellFormed, target.exists_spelling]
    constructor
    · rintro ⟨_, spelled⟩
      obtain ⟨_, constraint⟩ := exists_labels labels
      exact ⟨_, .mk Grammar.layout_nil constraint spelled⟩
    · rintro ⟨_, spelled⟩
      cases spelled with
      | mk layout constraint spelled => exact ⟨_, spelled⟩

theorem Hop.exists_spellings : ∀ hops : List Hop,
    Hop.WellFormedList hops ↔ ∃ text, Each Hop.Spelled hops text
  | [] => ⟨fun _ => ⟨[], .nil⟩, fun _ => trivial⟩
  | hop :: rest => by
    rw [Hop.WellFormedList, exists_each_cons, hop.exists_spelling, Hop.exists_spellings rest]

theorem Nested.exists_spelling : ∀ statement : Nested,
    statement.WellFormed ↔ ∃ text, statement.Spelled text
  | .mk labels head hops => by
    rw [Nested.WellFormed, head.exists_spelling, Hop.exists_spellings hops]
    constructor
    · rintro ⟨⟨_, first⟩, _, steps⟩
      obtain ⟨_, constraint⟩ := exists_labels labels
      exact ⟨_, .mk constraint first steps⟩
    · rintro ⟨_, spelled⟩
      cases spelled with
      | mk constraint first steps => exact ⟨⟨_, first⟩, _, steps⟩

theorem Nested.exists_spellings : ∀ statements : List Nested,
    Nested.WellFormedList statements ↔ ∃ text, CommaEach Nested.Spelled statements text
  | [] => ⟨fun _ => ⟨[], .nil⟩, fun _ => trivial⟩
  | statement :: rest => by
    rw [Nested.WellFormedList, exists_commaEach_cons, statement.exists_spelling,
      Nested.exists_spellings rest]

end

/-! ## Queries -/

theorem toList_toString (count : Nat) : (toString count).toList = Nat.toDigits 10 count :=
  Nat.toList_repr

theorem digits_toString (count : Nat) : Digits (toString count).toList := by
  rw [toList_toString]
  exact ⟨Nat.toDigits_ne_nil, fun c member =>
    Nat.isDigit_of_mem_toDigits (by decide) (by decide) member⟩

/-- A limit may be written with any number of zeros in front of its decimal digits. -/
theorem naturalOfDigits_zeros (zeros count : Nat) :
    Text.naturalOfDigits (List.replicate zeros '0' ++ (toString count).toList) = count := by
  have value : Nat.ofDigitChars 10 (List.replicate zeros '0' ++ Nat.toDigits 10 count) 0 = count := by
    rw [Nat.ofDigitChars_append, Nat.ofDigitChars_replicate_zero, Nat.mul_zero,
      Nat.ofDigitChars_ten_toDigits]
  rw [toList_toString]
  exact value

theorem exists_limit (before : List Char) (limit : Option Nat) :
    ∃ digits text, LimitSpelled before digits text ∧ digits.map Text.naturalOfDigits = limit := by
  cases limit with
  | none => exact ⟨none, [], .none, rfl⟩
  | some count =>
    have blank : Layout [' '] := by
      intro c member
      simp_all
    have keyword : AnyCase "limit".toList "limit".toList := by decide
    exact ⟨some _, _, .some blank (fun empty => by cases empty) keyword Grammar.layout_nil
      (digits_toString count), congrArg some (naturalOfDigits_zeros 0 count)⟩

/-- The queries that can be written are the well-formed ones. -/
theorem Query.exists_spelling (query : Query) :
    query.WellFormed ↔ ∃ text, query.Spelled text := by
  constructor
  · rintro ⟨root, hops, fits⟩
    obtain ⟨text, first⟩ := query.root.exists_spelling.mp root
    obtain ⟨list, steps⟩ := (Hop.exists_spellings query.hops).mp hops
    obtain ⟨digits, _, bound, value⟩ := exists_limit (text ++ list) query.limit
    exact ⟨_, digits, .mk Grammar.layout_nil first steps bound Grammar.layout_nil, value, fits⟩
  · rintro ⟨_, digits, statement, value, fits⟩
    cases statement with
    | mk layout first steps bound layout' =>
      exact ⟨query.root.exists_spelling.mpr ⟨_, first⟩,
        (Hop.exists_spellings query.hops).mpr ⟨_, steps⟩, fits⟩

/-- Accepted streams are those of well-formed trees. -/
theorem wellFormed_of_parseEvents {text : String} {events : List Event}
    (accepted : parseEvents text = .ok events) :
    ∃ query : Query, query.WellFormed ∧ query.events = events := by
  obtain ⟨query, parsed, stream⟩ := parse_of_parseEvents accepted
  exact ⟨query, query.exists_spelling.mpr ⟨_, Grammar.spelled_of_parse parsed⟩, stream⟩

/-- Parsing undoes printing. The well-formed trees are those that have a spelling, and every spelling
of a tree is parsed to the stream of that tree. -/
theorem parsing_undoes_printing (query : Query) :
    (query.WellFormed ↔ ∃ text, query.Spelled text) ∧
      ∀ text : String, query.Spelled text.toList → parseEvents text = .ok query.events := by
  refine ⟨query.exists_spelling, fun text spelled => ?_⟩
  rw [parseEvents, Grammar.parse_spelled spelled]
  rfl

/-- A node type may be a keyword, a mark may stand in both places, and any character may be escaped.
-/
theorem spelling_with_every_freedom_is_parsed :
    let query : Query := ⟨.mk "limit" [.filter ⟨"k'", true, [.boolean "True", .number "-1.50"]⟩] true,
      [.mk ["x"] (.union (.mk [] (.mk "b" [] false) []) [] true)], some 7⟩
    query.WellFormed ∧
      parseEvents "limit*! ( '\\k\\'' ,True,-1.50)*\n>('x') [ b ]*LIMIT007 " =
        .ok query.events := by
  intro query
  have spelled : query.Spelled
      "limit*! ( '\\k\\'' ,True,-1.50)*\n>('x') [ b ]*LIMIT007 ".toList :=
    Grammar.spelled_of_parse (by cbv)
  exact ⟨(parsing_undoes_printing query).1.mpr ⟨_, spelled⟩,
    (parsing_undoes_printing query).2 _ spelled⟩

end Traversal
