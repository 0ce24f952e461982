import Traversal.Query.Walk
import Traversal.Proofs.InStep
import Traversal.Proofs.Soundness

/-! The shape of the pieces of a text, and the walk over them. The readers of pieces are in step with
the readers of trees, and every piece is walked over without a misfit: the walk makes the stream of the
tree from it. Only the digits of a limit can be too many. -/
namespace Traversal

variable {α β : Type}

/-! ## Readers of pieces in step with readers of trees -/

/-- One piece, which is a given construct. -/
def Single (name : Construct) (holds : Piece → Prop) (pieces : List Piece) : Prop :=
  ∃ piece, pieces = [piece] ∧ piece.kind = .construct name ∧ holds piece

namespace Reader
open Grammar (spaced)

variable {left : Reader α} {right : Reader (List Piece)} {fits : α → List Piece → Prop}

/-- A construct is one piece around what is found inside it. -/
theorem InStep.whole (name : Construct) (fits : α → List Piece → Prop) {holds : α → Piece → Prop}
    (step : InStep left right fits)
    (around : ∀ value text parts, fits value parts → holds value (.mk (.construct name) text parts)) :
    InStep (Reader.construct name left) (Pieces.whole name right) fun value =>
      Single name (holds value) := by
  refine InStep.construct name fun here => ?_
  rcases step here with ⟨failed, failed'⟩ | ⟨value, parts, there, found, found', fit⟩
  · exact Or.inl ⟨failed, by simp only [Pieces.enclose, failed', Option.map_none]⟩
  · let piece := Piece.mk (.construct name) (here.rest.take (there.index - here.index)) parts
    refine Or.inr ⟨value, [piece], there, found, ?_, piece, rfl, rfl, around value _ parts fit⟩
    simp only [Pieces.enclose, found', Option.map_some, piece]

/-- What a reader takes becomes the text of a piece. -/
theorem InStep.leaf (kind : PieceKind) {property : α → List Char → List Char → Prop}
    (sound : left.Sound property) : InStep left (Pieces.leaf kind left) fun value pieces =>
      ∃ text after, pieces = [.mk kind text []] ∧ property value text after := by
  intro here
  cases found : (left here).found with
  | none => exact Or.inl ⟨rfl, by rw [Pieces.leaf, Pieces.enclose, found_bind_none found]; rfl⟩
  | some found' =>
    obtain ⟨value, there⟩ := found'
    obtain ⟨text, passed, index, holds⟩ := sound _ _ _ found
    refine Or.inr ⟨value, _, there, rfl, ?_, text, there.rest, rfl, holds⟩
    rw [Pieces.leaf, Pieces.enclose, found_bind found]
    have taken : here.rest.take (there.index - here.index) = text := by
      rw [index, Nat.add_sub_cancel_left, passed, List.take_left]
    exact congrArg (fun text => some ([Piece.mk kind text []], there)) taken

/-- What may be missing leaves no pieces where it is. -/
private theorem InStep.either {change : α → β} {absent : β} (step : InStep left right fits) :
    InStep (Reader.orElse (andThen left fun value => give (change value)) (give absent))
      (Pieces.perhaps right) fun found pieces =>
        (∃ value, found = change value ∧ fits value pieces) ∨ found = absent ∧ pieces = [] := by
  intro here
  rcases step here with ⟨failed, failed'⟩ | ⟨value, pieces, there, found, found', fit⟩
  · have skipped : (optional right here).found = some (none, here) := by
      simp only [optional, Reader.orElse, andThen, failed', give]
    refine Or.inr ⟨absent, [], here, ?_, found_bind skipped, Or.inr ⟨rfl, rfl⟩⟩
    simp only [Reader.orElse, andThen, failed, give]
  · have taken : (optional right here).found = some (some pieces, there) := by
      simp only [optional, Reader.orElse, andThen, found', give]
    refine Or.inr ⟨change value, pieces, there, ?_, found_bind taken, Or.inl ⟨value, rfl, fit⟩⟩
    simp only [Reader.orElse, andThen, found, give]

theorem InStep.perhaps (step : InStep left right fits) :
    InStep (optional left) (Pieces.perhaps right) fun found pieces =>
      (∃ value, found = some value ∧ fits value pieces) ∨ found = none ∧ pieces = [] :=
  step.either

theorem InStep.mark (step : InStep left right fits) :
    InStep (present left) (Pieces.perhaps right) fun found pieces =>
      (∃ value, found = true ∧ fits value pieces) ∨ found = false ∧ pieces = [] :=
  step.either

theorem InStep.row (step : InStep left right fits) :
    InStep (Reader.many (spaced left)) (Pieces.row right) fun values pieces =>
      ∃ parts, pieces = parts.flatten ∧ List.Forall₂ fits values parts := by
  have rows := (InStep.behind (run Grammar.isBlank) step).many
  intro here
  rcases rows here with ⟨failed, failed'⟩ | ⟨values, parts, there, found, found', fit⟩
  · exact Or.inl ⟨failed, found_bind_none failed'⟩
  · exact Or.inr ⟨values, _, there, found, found_bind found', parts, rfl, fit⟩

end Reader

namespace Walk
open Reader
open Grammar (spaced afterComma)

/-! ## What pieces add to a walk -/

section

variable {walk : List Piece → Except Misfit β}

/-- A walk passes some pieces without a misfit and changes what it makes of the pieces behind them. -/
def Adds (walk : List Piece → Except Misfit β) (change : β → β) (pieces : List Piece) : Prop :=
  ∀ rest, walk (pieces ++ rest) = change <$> walk rest

theorem Adds.nil : Adds walk id [] := fun rest => (id_map (walk rest)).symm

theorem Adds.append {change change' : β → β} {front back : List Piece} (first : Adds walk change front)
    (second : Adds walk change' back) : Adds walk (change ∘ change') (front ++ back) := by
  intro rest
  rw [List.append_assoc, first, second, comp_map]

theorem Adds.flatten {change : α → β → β} {values : List α} {parts : List (List Piece)}
    (each : List.Forall₂ (fun value => Adds walk (change value)) values parts) :
    Adds walk (fun out => values.foldr change out) parts.flatten := by
  induction each with
  | nil => exact Adds.nil
  | cons first others ih => exact first.append ih

/-- The pieces of a walk that begins with nothing behind them. -/
theorem Adds.alone (nothing : β) {change : β → β} {pieces : List Piece} (adds : Adds walk change pieces)
    (empty : walk [] = .ok nothing) : walk pieces = .ok (change nothing) := by
  have whole := adds []
  rw [List.append_nil, empty] at whole
  exact whole

end

/-! ## Tokens -/

theorem label_in_step : InStep Grammar.label Pieces.label fun label pieces =>
    ∃ text, pieces = [.mk (.construct .label) text []] ∧ String.ofList text = label := by
  refine (InStep.leaf _ Grammar.sound_label).mono ?_
  rintro label _ ⟨text, after, rfl, rfl, -⟩
  exact ⟨_, rfl, String.ofList_toList⟩

theorem mark_in_step (name : Construct) {c : Char} :
    InStep (construct name (symbol c)) (Pieces.leaf (.construct name) (construct name (symbol c)))
      fun _ => Single name fun _ => True := by
  refine (InStep.leaf _ (Sound.construct name (Sound.symbol c))).mono ?_
  rintro _ _ ⟨text, -, rfl, -⟩
  exact ⟨_, rfl, rfl, trivial⟩

theorem quoted_in_step : InStep Grammar.quoted Pieces.quoted fun label =>
    Single .quoted fun piece => quotedText piece = .ok label := by
  have content := InStep.leaf .content Grammar.sound_quotedContent
  refine InStep.whole .quoted (fun label parts => ∃ content,
    String.ofList (Text.Quoted.decode content) = label ∧ parts = [.mk .content content []]) ?_ ?_
  · refine InStep.behind _ (InStep.bind content fun written parts same => InStep.behind _ ?_)
    obtain ⟨text, -, rfl, rfl, -⟩ := same
    exact InStep.pure ⟨written, rfl, rfl⟩
  · rintro label text _ ⟨content, rfl, rfl⟩
    rfl

/-- A value of a filter is sorted by its kind, and the key has been seen before it. -/
def addLiteral (literal : Literal) (draft : FilterDraft) : FilterDraft :=
  { draft with
    strings := draft.strings ++ literal.text?.toList
    numbers := draft.numbers ++ literal.number?.toList
    booleans := draft.booleans ++ literal.boolean?.toList }

theorem literal_in_step : InStep Grammar.literal Pieces.literal fun literal pieces =>
    ∃ piece, pieces = [piece] ∧ ∀ draft : FilterDraft, draft.key.isSome →
      draft.add piece = .ok (addLiteral literal draft) := by
  refine InStep.orElse (quoted_in_step.map ?_) (InStep.orElse
    ((InStep.leaf _ Grammar.sound_boolean).map ?_) ((InStep.leaf _ Grammar.sound_number).map ?_))
  · rintro label _ ⟨piece, rfl, kind, text⟩
    refine ⟨piece, rfl, fun draft keyed => ?_⟩
    obtain ⟨key, same⟩ := Option.isSome_iff_exists.mp keyed
    simp [FilterDraft.add, kind, same, text, addLiteral, Literal.text?, Literal.number?,
      Literal.boolean?]
  · rintro word _ ⟨text, -, rfl, rfl, -⟩
    refine ⟨_, rfl, fun draft keyed => ?_⟩
    simp [FilterDraft.add, Piece.kind, Piece.text, addLiteral, Literal.text?, Literal.number?,
      Literal.boolean?]
  · rintro digits _ ⟨text, -, rfl, rfl, -⟩
    refine ⟨_, rfl, fun draft keyed => ?_⟩
    simp [FilterDraft.add, Piece.kind, Piece.text, addLiteral, Literal.text?, Literal.number?,
      Literal.boolean?]

theorem opening_in_step : InStep Grammar.opening Pieces.opening fun negated pieces =>
    negated = true ∧ Single .negation (fun _ => True) pieces ∨ negated = false ∧ pieces = [] := by
  refine InStep.bind (mark_in_step .negation).mark fun negated pieces either => InStep.behind _ ?_
  refine InStep.pure ?_
  rcases either with ⟨_, rfl, single⟩ | bare
  · exact Or.inl ⟨rfl, single⟩
  · exact Or.inr bare

/-- The values of a filter are sorted one after the other. -/
theorem foldlM_literals {values : List Literal} {parts : List (List Piece)}
    (each : List.Forall₂ (fun literal pieces => ∃ piece, pieces = [piece] ∧
      ∀ draft : FilterDraft, draft.key.isSome → draft.add piece = .ok (addLiteral literal draft))
        values parts) (draft : FilterDraft) (keyed : draft.key.isSome) :
    parts.flatten.foldlM FilterDraft.add draft = .ok { draft with
      strings := draft.strings ++ values.filterMap Literal.text?
      numbers := draft.numbers ++ values.filterMap Literal.number?
      booleans := draft.booleans ++ values.filterMap Literal.boolean? } := by
  induction each generalizing draft with
  | nil => simp [Pure.pure, Except.pure]
  | @cons literal pieces values parts first others ih =>
    obtain ⟨piece, rfl, added⟩ := first
    rw [List.flatten_cons, List.singleton_append, List.foldlM_cons, added draft keyed]
    refine (ih (addLiteral literal draft) keyed).trans ?_
    cases literal <;>
      simp [addLiteral, List.filterMap_cons, Literal.text?, Literal.number?, Literal.boolean?]

theorem filter_in_step : InStep Grammar.filter Pieces.filter fun test =>
    Single .filter fun piece => Walk.filter piece = .ok test.event := by
  refine InStep.whole .filter (fun test parts => ∀ text,
    Walk.filter (.mk (.construct .filter) text parts) = .ok test.event) ?_
    fun test text parts walks => walks text
  refine InStep.bind opening_in_step fun negated sign signed =>
    InStep.bind (InStep.behind _ quoted_in_step) fun key name keyed =>
      InStep.bind (InStep.row (InStep.behind _ (InStep.behind _ literal_in_step)))
        fun values rest valued => InStep.behind _ (InStep.pure fun text => ?_)
  obtain ⟨piece, rfl, kind, decoded⟩ := keyed
  obtain ⟨parts, rfl, each⟩ := valued
  -- The sign comes before the key, and the key before all values: it decides what a quoted text is.
  have begun : sign.foldlM FilterDraft.add {} = .ok { negated := negated } := by
    rcases signed with ⟨rfl, mark, rfl, kind, -⟩ | ⟨rfl, rfl⟩
    · rw [List.foldlM_cons, FilterDraft.add, kind]
      rfl
    · rfl
  have named : FilterDraft.add { negated := negated } piece =
      .ok { negated := negated, key := some key } := by
    simp [FilterDraft.add, kind, decoded]
  have all : (sign ++ ([piece] ++ parts.flatten)).foldlM FilterDraft.add {} =
      .ok ⟨negated, some key, values.filterMap Literal.text?, values.filterMap Literal.number?,
        values.filterMap Literal.boolean?⟩ := by
    rw [List.foldlM_append, begun]
    change ([piece] ++ parts.flatten).foldlM FilterDraft.add { negated := negated } = _
    rw [List.singleton_append, List.foldlM_cons, named]
    exact foldlM_literals each { negated := negated, key := some key } rfl
  rw [Walk.filter, Piece.parts, all]
  rfl

theorem edgeFilter_in_step : InStep Grammar.edgeFilter Pieces.edgeFilter fun labels =>
    Single .edgeFilter fun piece => Walk.edgeFilter piece = .ok (labelEvents labels) := by
  refine InStep.whole .edgeFilter (fun labels parts => ∀ text,
    Walk.edgeFilter (.mk (.construct .edgeFilter) text parts) = .ok (labelEvents labels)) ?_
    fun labels text parts walks => walks text
  refine InStep.behind _ (InStep.bind (InStep.behind _ quoted_in_step) fun label first head =>
    InStep.bind (InStep.row (InStep.behind _ (InStep.behind _ quoted_in_step)))
      fun labels others tail => InStep.behind _ (InStep.pure fun text => ?_))
  obtain ⟨piece, rfl, -, decoded⟩ := head
  obtain ⟨parts, rfl, each⟩ := tail
  have all : parts.flatten.mapM quotedText = .ok labels := by
    induction each with
    | nil => rfl
    | cons first others ih =>
      obtain ⟨piece, rfl, -, decoded⟩ := first
      rw [List.flatten_cons, List.singleton_append, List.mapM_cons, decoded, ih]
      rfl
  rw [Walk.edgeFilter, Piece.parts, List.singleton_append, List.mapM_cons, decoded, all]
  rfl

/-! ## The parts of a statement -/

section

variable {inner : Reader Nested} {inner' : Reader (List Piece)}

/-- What a nested statement has to be walked to. -/
def Statement (statement : Nested) : List Piece → Prop :=
  Single .nestedStatement fun piece => Walk.statement piece = .ok statement.events

variable (deep : InStep inner inner' Statement)

/-- What a clause adds to its vertex. -/
def addClause (clause : Clause) (draft : VertexDraft) : VertexDraft :=
  { draft with
    keys := clause.key?.toList ++ draft.keys
    events := clause.events ++ draft.events }

include deep

theorem block_in_step : InStep (Grammar.block inner) (Pieces.block inner') fun clause =>
    Single .block fun piece => clause.key? = none ∧ Walk.block piece = .ok clause.events := by
  refine InStep.whole .block (fun clause parts => clause.key? = none ∧ ∀ text,
    Walk.block (.mk (.construct .block) text parts) = .ok clause.events) ?_
    fun clause text parts walks => ⟨walks.1, walks.2 text⟩
  refine InStep.bind opening_in_step fun negated sign signed => InStep.behind _ <|
    InStep.bind (InStep.behind _ deep) fun statement nested walked => InStep.behind _ <|
      InStep.pure ⟨rfl, fun text => ?_⟩
  obtain ⟨piece, rfl, kind, walked⟩ := walked
  have parts : blockParts (sign ++ [piece]) = .ok (negated, some (Walk.statement piece)) := by
    rcases signed with ⟨rfl, mark, rfl, marked, -⟩ | ⟨rfl, rfl⟩
    · simp only [List.singleton_append, blockParts, marked, kind]
      rfl
    · simp only [List.nil_append, blockParts, kind]
      rfl
  simp only [Walk.block, parts, Clause.events]
  change (do let events ← Walk.statement piece; _) = _
  rw [walked]
  rfl

theorem clause_in_step : InStep (Grammar.clause inner) (Pieces.clause inner') fun clause =>
    Adds vertexParts (addClause clause) := by
  refine InStep.orElse ((block_in_step deep).mono ?_) (filter_in_step.map ?_)
  · rintro clause _ ⟨piece, rfl, kind, keyless, walked⟩ rest
    simp only [List.singleton_append, vertexParts, kind, walked]
    cases vertexParts rest with
    | error misfit => rfl
    | ok draft =>
      change _ = Except.ok (addClause clause draft)
      rw [addClause, keyless]
      rfl
  · rintro test _ ⟨piece, rfl, kind, walked⟩ rest
    simp only [List.singleton_append, vertexParts, kind, walked]
    cases vertexParts rest with
    | error misfit => rfl
    | ok draft => rfl

omit deep in
theorem star_in_step : InStep (present (spaced Grammar.store)) (Pieces.perhaps (spaced Pieces.store))
    fun stored pieces =>
      stored = true ∧ Single .store (fun _ => True) pieces ∨ stored = false ∧ pieces = [] := by
  refine (InStep.behind _ (mark_in_step .store)).mark.mono ?_
  rintro stored pieces (⟨_, rfl, single⟩ | bare)
  · exact Or.inl ⟨rfl, single⟩
  · exact Or.inr bare

omit deep in
theorem adds_mark {stored : Bool} {pieces : List Piece}
    (marked : stored = true ∧ Single .store (fun _ => True) pieces ∨ stored = false ∧ pieces = []) :
    Adds vertexParts (fun draft => { draft with stored := stored || draft.stored }) pieces := by
  intro rest
  rcases marked with ⟨rfl, mark, rfl, kind, -⟩ | ⟨rfl, rfl⟩
  · simp only [List.singleton_append, vertexParts, kind]
    rfl
  · exact Adds.nil rest

omit deep in
/-- The clauses of a vertex add their keys and their streams in written order. -/
theorem foldr_addClause (clauses : List Clause) (draft : VertexDraft) :
    clauses.foldr addClause draft = { draft with
      keys := clauses.filterMap Clause.key? ++ draft.keys
      events := Clause.eventsOfList clauses ++ draft.events } := by
  induction clauses with
  | nil => rfl
  | cons clause rest ih =>
    rw [List.foldr_cons, ih]
    cases clause <;> simp [addClause, Clause.key?, Clause.eventsOfList, List.filterMap_cons]

/-- What a vertex has to be walked to, as a root and elsewhere. -/
def VertexPiece (vertex : Vertex) : List Piece → Prop :=
  Single .vertex fun piece => ∀ root,
    Walk.vertex root piece = .ok (vertex.events (if root then some vertex.filterKeys else none))

theorem vertex_in_step : InStep (Grammar.vertex inner) (Pieces.vertex inner') VertexPiece := by
  refine InStep.whole .vertex (fun vertex parts => ∀ text root,
    Walk.vertex root (.mk (.construct .vertex) text parts) =
      .ok (vertex.events (if root then some vertex.filterKeys else none))) ?_
    fun vertex text parts walks => walks text
  refine InStep.bind label_in_step fun label name named =>
    InStep.bind star_in_step fun early star marked =>
      InStep.bind (InStep.row (clause_in_step deep)) fun clauses list listed =>
        InStep.bind star_in_step fun late star' marked' => InStep.pure fun text root => ?_
  obtain ⟨letters, rfl, rfl⟩ := named
  obtain ⟨parts, rfl, each⟩ := listed
  have inside := Adds.alone {} ((adds_mark marked).append ((Adds.flatten each).append
    (adds_mark marked'))) rfl
  simp only [Function.comp_apply, foldr_addClause] at inside
  simp only [List.singleton_append, Walk.vertex]
  rw [inside]
  cases root <;> simp [Vertex.events, Vertex.filterKeys, Vertex.clauses, Piece.text]

/-- The members of a union behind the first add a comma and their stream each. -/
def addMember (member : Nested) (out : List Event × Bool) : List Event × Bool :=
  (.comma :: (member.events ++ out.1), out.2)

omit deep in
theorem adds_member {member : Nested} {pieces : List Piece} (walked : Statement member pieces) :
    Adds (unionParts true) (addMember member) pieces := by
  obtain ⟨piece, rfl, kind, walked⟩ := walked
  intro rest
  simp only [List.singleton_append, unionParts, kind, walked]
  cases unionParts true rest with
  | error misfit => rfl
  | ok out => rfl

omit deep in
theorem foldr_addMember (members : List Nested) (out : List Event × Bool) :
    members.foldr addMember out = (Nested.eventsOfOthers members ++ out.1, out.2) := by
  induction members with
  | nil => rfl
  | cons member rest ih => simp [List.foldr_cons, ih, addMember, Nested.eventsOfOthers]

omit deep in
theorem adds_mark_of_union {stored : Bool} {pieces : List Piece}
    (marked : stored = true ∧ Single .store (fun _ => True) pieces ∨ stored = false ∧ pieces = []) :
    Adds (unionParts true) (fun out => (out.1, stored || out.2)) pieces := by
  intro rest
  rcases marked with ⟨rfl, mark, rfl, kind, -⟩ | ⟨rfl, rfl⟩
  · simp only [List.singleton_append, unionParts, kind]
    rfl
  · exact Adds.nil rest

theorem union_in_step : InStep (Grammar.union inner) (Pieces.union inner') fun target =>
    Single .union fun piece => Walk.union piece = .ok target.events := by
  refine InStep.whole .union (fun target parts => ∀ text,
    Walk.union (.mk (.construct .union) text parts) = .ok target.events) ?_
    fun target text parts walks => walks text
  refine InStep.behind _ <| InStep.bind (InStep.behind _ deep) fun first head begun =>
    InStep.bind (InStep.row (InStep.behind _ (InStep.behind _ deep))) fun others tail listed =>
      InStep.behind _ <| InStep.bind star_in_step fun stored star marked =>
        InStep.pure fun text => ?_
  obtain ⟨piece, rfl, kind, walked⟩ := begun
  obtain ⟨parts, rfl, each⟩ := listed
  have members : List.Forall₂ (fun member => Adds (unionParts true) (addMember member)) others parts :=
    each.imp fun _ _ => adds_member
  have inside := Adds.alone ([], false)
    ((Adds.flatten members).append (adds_mark_of_union marked)) rfl
  simp only [Function.comp_apply, foldr_addMember] at inside
  simp only [List.singleton_append, Walk.union, unionParts, kind, walked]
  rw [inside, Target.events, Bool.or_false, List.append_nil, List.append_assoc]
  change Except.ok (_ :: (first.events ++ Nested.eventsOfOthers others ++ _)) = _
  rw [List.append_assoc]

/-- What a hop has to be walked to. -/
def HopPiece (hop : Hop) : List Piece → Prop :=
  Single .hop fun piece => Walk.hop piece = .ok hop.events

omit deep in
/-- Labels that may be missing add their event in front, or nothing. -/
theorem adds_labels {walk : List Piece → Except Misfit β} (change : List Event → β → β)
    (passes : ∀ piece events, piece.kind = .construct .edgeFilter → Walk.edgeFilter piece = .ok events →
      Adds walk (change events) [piece]) (unchanged : ∀ out, change [] out = out)
    {labels : Option (List String)} {pieces : List Piece}
    (found : (∃ some', labels = some some' ∧ Single .edgeFilter
      (fun piece => Walk.edgeFilter piece = .ok (labelEvents some')) pieces) ∨
        labels = none ∧ pieces = []) :
    Adds walk (change (labelEvents (labels.getD []))) pieces := by
  rcases found with ⟨labels, rfl, piece, rfl, kind, walked⟩ | ⟨rfl, rfl⟩
  · exact passes piece _ kind walked
  · intro rest
    exact (Adds.nil rest).trans (congrArg (· <$> walk rest) (funext fun out => (unchanged out).symm))

theorem hop_in_step : InStep (Grammar.hop inner) (Pieces.hop inner') HopPiece := by
  refine InStep.whole .hop (fun hop parts => ∀ text,
    Walk.hop (.mk (.construct .hop) text parts) = .ok hop.events) ?_
    fun hop text parts walks => walks text
  have target : InStep (orElse (Grammar.union inner) (Target.vertex <$> Grammar.vertex inner))
      (orElse (Pieces.union inner') (Pieces.vertex inner')) fun target =>
        Adds hopParts (target.events ++ ·) := by
    refine InStep.orElse ((union_in_step deep).mono ?_) ((vertex_in_step deep).map ?_)
    · rintro target _ ⟨piece, rfl, kind, walked⟩ rest
      simp only [List.singleton_append, hopParts, kind, walked]
      cases hopParts rest <;> rfl
    · rintro vertex _ ⟨piece, rfl, kind, walked⟩ rest
      simp only [List.singleton_append, hopParts, kind, walked false]
      cases hopParts rest <;> rfl
  refine InStep.behind _ <| InStep.bind (InStep.behind _ edgeFilter_in_step).perhaps
    fun labels lead labelled => InStep.bind (InStep.behind _ target) fun target parts reached =>
      InStep.pure fun text => ?_
  have constraint : Adds hopParts (labelEvents (labels.getD []) ++ ·) lead := by
    refine adds_labels (· ++ ·) (fun piece events kind walked rest => ?_)
      List.nil_append labelled
    simp only [List.singleton_append, hopParts, kind, walked]
    cases hopParts rest <;> rfl
  have inside := Adds.alone [] (constraint.append reached) rfl
  simp only [Walk.hop, inside, Function.comp_apply, List.append_nil, Hop.events]

theorem hops_in_step : InStep (Reader.many (spaced (Grammar.hop inner)))
    (Pieces.row (Pieces.hop inner')) fun hops pieces =>
      ∃ parts, pieces = parts.flatten ∧ List.Forall₂ HopPiece hops parts :=
  InStep.row (hop_in_step deep)

/-- What a hop adds to a nested statement. -/
def addHop (hop : Hop) (out : List Event × Nat) : List Event × Nat :=
  (hop.events ++ out.1, out.2 + 1)

omit deep in
theorem foldr_addHop (hops : List Hop) (out : List Event × Nat) :
    hops.foldr addHop out = (Hop.eventsOfList hops ++ out.1, out.2 + hops.length) := by
  induction hops with
  | nil => rfl
  | cons hop rest ih => simp [List.foldr_cons, ih, addHop, Hop.eventsOfList, Nat.add_assoc]

theorem statement_in_step : InStep (Grammar.statement inner) (Pieces.statement inner') Statement := by
  refine InStep.whole .nestedStatement (fun statement parts => ∀ text,
    Walk.statement (.mk (.construct .nestedStatement) text parts) = .ok statement.events) ?_
    fun statement text parts walks => walks text
  refine InStep.bind edgeFilter_in_step.perhaps fun labels lead labelled =>
    InStep.bind (InStep.behind _ (vertex_in_step deep)) fun head first begun =>
      InStep.bind (hops_in_step deep) fun hops list listed => InStep.pure fun text => ?_
  obtain ⟨piece, rfl, kind, walked⟩ := begun
  obtain ⟨parts, rfl, each⟩ := listed
  have constraint : Adds statementParts (fun out => (labelEvents (labels.getD []) ++ out.1, out.2))
      lead := by
    refine adds_labels (fun events (out : List Event × Nat) => (events ++ out.1, out.2))
      (fun piece events kind walked rest => ?_) (fun _ => rfl) labelled
    simp only [List.singleton_append, statementParts, kind, walked]
    cases statementParts rest <;> rfl
  have root : Adds statementParts (fun out => (head.events none ++ out.1, out.2)) [piece] := by
    intro rest
    simp only [List.singleton_append, statementParts, kind, walked false]
    cases statementParts rest <;> rfl
  have steps : List.Forall₂ (fun hop => Adds statementParts (addHop hop)) hops parts := by
    refine each.imp fun hop pieces single rest => ?_
    obtain ⟨piece, rfl, kind, walked⟩ := single
    simp only [List.singleton_append, statementParts, kind, walked]
    cases statementParts rest <;> rfl
  have inside := Adds.alone ([], 0) (constraint.append (root.append (Adds.flatten steps))) rfl
  simp only [Function.comp_apply, foldr_addHop, List.append_nil, Nat.zero_add] at inside
  simp only [Walk.statement, inside, Nested.events]
  change Except.ok (_ :: (_ ++ (_ ++ _) ++ _)) = _
  simp only [List.append_assoc]

end

/-- Nested statements are walked over at every depth. -/
theorem nested_in_step (depth : Nat) :
    InStep (Grammar.nested depth) (Pieces.nested depth) Statement := by
  induction depth with
  | zero => exact InStep.never
  | succ depth ih => exact statement_in_step ih

end Walk

end Traversal
