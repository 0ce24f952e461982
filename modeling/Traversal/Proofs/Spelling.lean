import Traversal.Query.Parse

/-! The spellings of a query tree: all the texts that print it. A tree leaves open the layout, the
escapes inside quotes, the case of words, the zeros in front of a limit and the place of the mark
for output. Nothing here mentions the readers: the relation is what they are judged by. -/
namespace Traversal

/-! ## Layout and tokens -/

/-- Layout: any amount of space, tab, carriage return and line feed. -/
def Layout (text : List Char) : Prop := ∀ c ∈ text, c ∈ [' ', '\t', '\r', '\n']

/-- The characters of a node type: ASCII letters, digits and three signs. -/
def LabelChar (c : Char) : Prop := c.isAlphanum = true ∨ c ∈ ['-', '_', '.']

instance (c : Char) : Decidable (LabelChar c) := inferInstanceAs (Decidable (_ ∨ _))

/-- The text of a node type. Words such as `limit` and `true` are node types too. -/
def LabelText (text : List Char) : Prop := text ≠ [] ∧ ∀ c ∈ text, LabelChar c

/-- One digit or more. -/
def Digits (text : List Char) : Prop := text ≠ [] ∧ ∀ c ∈ text, c.isDigit = true

/-- The text of a number: an optional minus sign, digits, and perhaps a point and more digits. -/
def NumberText (text : List Char) : Prop :=
  ∃ sign whole fraction, text = sign ++ (whole ++ fraction) ∧ (sign = [] ∨ sign = ['-']) ∧
    Digits whole ∧ (fraction = [] ∨ ∃ more, fraction = '.' :: more ∧ Digits more)

/-- A word in letters of either case. The word is given in small letters. -/
def AnyCase (word text : List Char) : Prop := text.map Char.toLower = word

instance (word text : List Char) : Decidable (AnyCase word text) :=
  inferInstanceAs (Decidable (_ = _))

/-- The text of a truth value. -/
def BooleanText (text : List Char) : Prop :=
  AnyCase "true".toList text ∨ AnyCase "false".toList text

/-- What stands between the quote marks for a text. Quote marks and backslashes need a backslash in
front of them, and every other character may have one. -/
inductive Escaped : List Char → List Char → Prop
  | nil : Escaped [] []
  | plain {c : Char} {text written : List Char} (mark : c ≠ '\x27') (escape : c ≠ '\x5c')
      (rest : Escaped text written) : Escaped (c :: text) (c :: written)
  | escaped {c : Char} {text written : List Char} (rest : Escaped text written) :
      Escaped (c :: text) ('\x5c' :: c :: written)

/-- A text between quote marks. -/
inductive QuotedSpelled : String → List Char → Prop
  | mk {text : String} {written : List Char} (inner : Escaped text.toList written) :
      QuotedSpelled text ('\x27' :: (written ++ ['\x27']))

/-- A value of a filter. Numbers and truth values are kept as they are written. -/
inductive Literal.Spelled : Literal → List Char → Prop
  | text {value : String} {written : List Char} (quoted : QuotedSpelled value written) :
      Literal.Spelled (.text value) written
  | number {digits : String} (number : NumberText digits.toList) :
      Literal.Spelled (.number digits) digits.toList
  | boolean {word : String} (truth : BooleanText word.toList) :
      Literal.Spelled (.boolean word) word.toList

/-! ## Parts that occur in several places -/

/-- Items one after the other, with layout in front of each. -/
inductive Each {α : Type} (item : α → List Char → Prop) : List α → List Char → Prop
  | nil : Each item [] []
  | cons {x : α} {xs : List α} {space text rest : List Char} (layout : Layout space)
      (first : item x text) (others : Each item xs rest) :
      Each item (x :: xs) (space ++ (text ++ rest))

/-- Items each behind a comma, with layout in front of the comma and behind it. -/
inductive CommaEach {α : Type} (item : α → List Char → Prop) : List α → List Char → Prop
  | nil : CommaEach item [] []
  | cons {x : α} {xs : List α} {front space text rest : List Char} (layout : Layout front)
      (layout' : Layout space) (first : item x text) (others : CommaEach item xs rest) :
      CommaEach item (x :: xs) (front ++ ((',' :: (space ++ text)) ++ rest))

/-- The sign of a negated clause with the layout behind it, and nothing for any other clause. -/
inductive SignSpelled : Bool → List Char → Prop
  | plain : SignSpelled false []
  | negated {space : List Char} (layout : Layout space) : SignSpelled true ('!' :: space)

/-- The mark for output with the layout in front of it, or nothing. -/
inductive StarSpelled : Bool → List Char → Prop
  | absent : StarSpelled false []
  | present {space : List Char} (layout : Layout space) : StarSpelled true (space ++ ['*'])

/-- The labels that an edge may have, in parentheses. There is at least one. -/
inductive EdgeFilterSpelled : List String → List Char → Prop
  | mk {label : String} {labels : List String} {front first others back : List Char}
      (layout : Layout front) (head : QuotedSpelled label first)
      (tail : CommaEach QuotedSpelled labels others) (layout' : Layout back) :
      EdgeFilterSpelled (label :: labels) ('(' :: (front ++ (first ++ (others ++ (back ++ [')'])))))

/-- The labels in front of a vertex or a union with the layout behind them, and nothing for an edge
that may have any label. -/
inductive LabelsSpelled : List String → List Char → Prop
  | any : LabelsSpelled [] []
  | some {labels : List String} {text space : List Char} (filter : EdgeFilterSpelled labels text)
      (layout : Layout space) : LabelsSpelled labels (text ++ space)

/-- A property filter. -/
inductive Filter.Spelled : Filter → List Char → Prop
  | mk {key : String} {negated : Bool} {values : List Literal}
      {sign front first others back : List Char} (negation : SignSpelled negated sign)
      (layout : Layout front) (name : QuotedSpelled key first)
      (list : CommaEach Literal.Spelled values others) (layout' : Layout back) :
      Filter.Spelled ⟨key, negated, values⟩
        (sign ++ ('(' :: (front ++ (first ++ (others ++ (back ++ [')']))))))

/-! ## Trees -/

mutual

/-- A clause of a vertex. -/
inductive Clause.Spelled : Clause → List Char → Prop
  | filter {test : Filter} {text : List Char} (spelled : test.Spelled text) :
      Clause.Spelled (.filter test) text
  | block {negated : Bool} {inner : Nested} {sign front lead text back : List Char}
      (negation : SignSpelled negated sign) (layout : Layout front) (layout' : Layout lead)
      (statement : Nested.Spelled inner text) (layout'' : Layout back) :
      Clause.Spelled (.block negated inner)
        (sign ++ ('(' :: (front ++ ('>' :: (lead ++ (text ++ (back ++ [')'])))))))

/-- A vertex. It is marked for output by a star behind its label, behind its clauses, or in both
places. -/
inductive Vertex.Spelled : Vertex → List Char → Prop
  | mk {label : String} {clauses : List Clause} {early late : Bool} {star list star' : List Char}
      (name : LabelText label.toList) (mark : StarSpelled early star)
      (body : Each Clause.Spelled clauses list) (mark' : StarSpelled late star') :
      Vertex.Spelled (.mk label clauses (early || late)) (label.toList ++ (star ++ (list ++ star')))

/-- The place where a hop leads. -/
inductive Target.Spelled : Target → List Char → Prop
  | vertex {vertex : Vertex} {text : List Char} (spelled : vertex.Spelled text) :
      Target.Spelled (.vertex vertex) text
  | union {first : Nested} {others : List Nested} {stored : Bool}
      {front text list back star : List Char} (layout : Layout front)
      (head : Nested.Spelled first text) (tail : CommaEach Nested.Spelled others list)
      (layout' : Layout back) (mark : StarSpelled stored star) :
      Target.Spelled (.union first others stored)
        ('[' :: (front ++ (text ++ (list ++ (back ++ (']' :: star))))))

/-- A hop to a vertex or into a union. -/
inductive Hop.Spelled : Hop → List Char → Prop
  | mk {labels : List String} {target : Target} {space lead text : List Char}
      (layout : Layout space) (constraint : LabelsSpelled labels lead)
      (spelled : target.Spelled text) : Hop.Spelled (.mk labels target) ('>' :: (space ++ (lead ++ text)))

/-- A nested statement. -/
inductive Nested.Spelled : Nested → List Char → Prop
  | mk {labels : List String} {head : Vertex} {hops : List Hop} {lead text list : List Char}
      (constraint : LabelsSpelled labels lead) (first : head.Spelled text)
      (steps : Each Hop.Spelled hops list) :
      Nested.Spelled (.mk labels head hops) (lead ++ (text ++ list))

end

/-- The limit behind a statement's text with the layout in front of it, or nothing. The keyword must
not run on from a node type. -/
inductive LimitSpelled (before : List Char) : Option (List Char) → List Char → Prop
  | none : LimitSpelled before none []
  | some {front word space digits : List Char} (layout : Layout front)
      (apart : front = [] → ∀ c ∈ before.getLast?, ¬ LabelChar c)
      (keyword : AnyCase "limit".toList word) (layout' : Layout space) (number : Digits digits) :
      LimitSpelled before (some digits) (front ++ (word ++ (space ++ digits)))

/-- A whole text: a root vertex, hops and perhaps the digits of a limit, with layout around them. -/
inductive StatementSpelled : Vertex → List Hop → Option (List Char) → List Char → Prop
  | mk {root : Vertex} {hops : List Hop} {digits : Option (List Char)}
      {front text list limit back : List Char} (layout : Layout front) (first : root.Spelled text)
      (steps : Each Hop.Spelled hops list) (bound : LimitSpelled (text ++ list) digits limit)
      (layout' : Layout back) :
      StatementSpelled root hops digits (front ++ (text ++ (list ++ (limit ++ back))))

/-- A text of the grammar. The number that its limit denotes may be of any size. -/
def Grammatical (text : List Char) : Prop := ∃ root hops digits, StatementSpelled root hops digits text

/-- The texts that print a query. The digits of the limit denote it, with any number of zeros in
front, and it fits a count. -/
def Query.Spelled (query : Query) (text : List Char) : Prop :=
  ∃ digits, StatementSpelled query.root query.hops digits text ∧
    digits.map Text.naturalOfDigits = query.limit ∧ ∀ count ∈ query.limit, count < Text.countBound

end Traversal
