import Traversal.Proofs.Completeness

/-! Whatever the readers find is a spelling of what they find. With a sound inner reader of nested
statements, the readers of all parts of a statement are sound; so the readers of every depth are.
-/
namespace Traversal.Grammar
open Reader

variable {text after space more : List Char}

/-! ## How parts of a statement end -/

section

variable {property : Char → Prop} {front part : List Char}

theorem forall_last_nil : ∀ c ∈ ([] : List Char).getLast?, property c := by
  intro c last
  cases last

theorem forall_last_concat (text : List Char) {c : Char} (holds : property c) :
    ∀ d ∈ (text ++ [c]).getLast?, property d := by
  intro d last
  rw [List.getLast?_concat] at last
  cases last
  exact holds

theorem forall_last_behind (front : List Char) (nonempty : part ≠ [])
    (second : ∀ c ∈ part.getLast?, property c) : ∀ c ∈ (front ++ part).getLast?, property c := by
  intro c last
  rw [List.getLast?_append, List.getLast?_eq_some_getLast nonempty] at last
  exact second c ((List.getLast?_eq_some_getLast nonempty).trans last)

/-- The last character of two parts is that of the second, or that of the first if the second is empty.
-/
theorem forall_last_append (first : ∀ c ∈ front.getLast?, property c)
    (second : ∀ c ∈ part.getLast?, property c) : ∀ c ∈ (front ++ part).getLast?, property c := by
  by_cases empty : part = []
  · rwa [empty, List.append_nil]
  · exact forall_last_behind front empty second

/-- Layout stands in front of the items of a row, not behind them. -/
theorem forall_last_each {α : Type} {item : α → List Char → Prop} {values : List α}
    (ends : ∀ value text, item value text → (∀ c ∈ text.getLast?, property c) ∧ text ≠ [])
    (each : Each item values text) : ∀ c ∈ text.getLast?, property c := by
  induction each with
  | nil => exact forall_last_nil
  | @cons value values space text rest layout first others ih =>
    obtain ⟨last, nonempty⟩ := ends value text first
    exact forall_last_behind space (List.append_ne_nil_of_left_ne_nil nonempty rest)
      (forall_last_append last ih)

theorem forall_last_star {stored : Bool} {star : List Char} (mark : StarSpelled stored star)
    (holds : property '*') : ∀ c ∈ star.getLast?, property c := by
  cases mark with
  | absent => exact forall_last_nil
  | present layout => exact forall_last_concat _ holds

theorem forall_last_clause {clause : Clause} (spelled : clause.Spelled text) (holds : property ')') :
    ∀ c ∈ text.getLast?, property c := by
  cases spelled with
  | filter spelled =>
    cases spelled with
    | @mk key negated values sign front first others back =>
      have ended := forall_last_concat (sign ++ ('(' :: (front ++ (first ++ (others ++ back))))) holds
      simpa using ended
  | @block negated inner sign front lead text back =>
    have ended := forall_last_concat (sign ++ ('(' :: (front ++ ('>' :: (lead ++ (text ++ back))))))
      holds
    simpa using ended

theorem forall_last_clauses {clauses : List Clause} (each : Each Clause.Spelled clauses text)
    (holds : property ')') : ∀ c ∈ text.getLast?, property c :=
  forall_last_each (fun _ _ first => ⟨forall_last_clause first holds, (solid_clause first).ne_nil⟩) each

end

/-- The text does not end inside a node type. -/
def Closed (text : List Char) : Prop := ∀ c ∈ text.getLast?, ¬ LabelChar c

theorem closed_concat (text : List Char) {c : Char} (outside : ¬ LabelChar c) : Closed (text ++ [c]) :=
  forall_last_concat text outside

theorem Closed.append {front part : List Char} (closed : Closed front) (closed' : Closed part) :
    Closed (front ++ part) := forall_last_append closed closed'

theorem Closed.apart (closed : Closed text) : Apart text after :=
  fun c last inside => absurd inside (closed c last)

/-- What stands at the end of a text decides what may follow it. -/
theorem Apart.behind {front part : List Char} (apart : Apart part after) (nonempty : part ≠ []) :
    Apart (front ++ part) after := forall_last_behind front nonempty apart

theorem closed_star {stored : Bool} {star : List Char} (mark : StarSpelled stored star) :
    Closed star := forall_last_star mark (by decide)

theorem closed_clauses {clauses : List Clause} (each : Each Clause.Spelled clauses text) :
    Closed text := forall_last_clauses each (by decide)

/-! ## The parts of a statement -/

section

variable {inner : Reader Nested} (deep : inner.Sound fun statement text after =>
  Unblank (text ++ after) → statement.Spelled text)

include deep

theorem sound_clause : (clause inner).Sound fun clause text after =>
    Unblank (text ++ after) → clause.Spelled text := by
  refine (Sound.orElse (Sound.construct .block (Sound.bind sound_opening fun negated =>
    Sound.bind (Sound.spaced (Sound.symbol '>')) fun _ => Sound.bind (Sound.spaced deep)
      fun nested => Sound.bind (Sound.spaced (Sound.symbol ')')) fun _ =>
        Sound.pure (Clause.block negated nested))) (sound_filter.map Clause.filter)).mono ?_
  rintro _ _ after (⟨negated, _, _, rfl, signed, _, _, _, rfl, ⟨front, _, rfl, layout, -, rfl⟩,
    nested, _, _, rfl, ⟨lead, _, rfl, layout', unblank', spelled⟩, _, _, _, rfl,
    ⟨back, _, rfl, layout'', -, rfl⟩, rfl, rfl⟩ | ⟨test, rfl, spelled⟩) unblank
  · rw [List.append_assoc] at unblank
    obtain ⟨sign, rfl, negation⟩ := signed unblank
    simpa using Clause.Spelled.block negation layout layout' (spelled unblank') layout''
  · exact .filter (spelled unblank)

theorem sound_vertex : (vertex inner).Sound fun vertex text after =>
    vertex.Spelled text ∧ Apart text after := by
  refine (Sound.construct .vertex (Sound.bind sound_label fun name => Sound.bind sound_star
    fun early => Sound.bind (Sound.many (Sound.spaced (sound_clause deep))) fun clauses =>
      Sound.bind sound_star fun late => Sound.pure (Vertex.mk name clauses (early || late)))).mono ?_
  rintro _ _ after ⟨name, _, _, rfl, ⟨rfl, letters, ended⟩, early, star, _, rfl, mark, clauses, list,
    _, rfl, series, late, star', _, rfl, mark', rfl, rfl⟩
  have body : Each Clause.Spelled clauses list :=
    Series.each series fun _ _ _ unblank spells => spells unblank
  rw [List.append_nil] at ended ⊢
  refine ⟨.mk letters mark body mark', ?_⟩
  have closed : Closed (star ++ (list ++ star')) :=
    (closed_star mark).append ((closed_clauses body).append (closed_star mark'))
  by_cases bare : star ++ (list ++ star') = []
  · rw [bare] at ended ⊢
    exact fun _ _ _ => ended
  · exact Apart.behind closed.apart bare

theorem sound_union : (Grammar.union inner).Sound fun target text _ =>
    target.Spelled text ∧ Closed text := by
  refine (Sound.construct .union (Sound.bind (Sound.symbol '[') fun _ => Sound.bind
    (Sound.spaced deep) fun first => Sound.bind (sound_commas deep) fun others => Sound.bind
      (Sound.spaced (Sound.symbol ']')) fun _ => Sound.bind sound_star fun stored =>
        Sound.pure (Target.union first others stored))).mono ?_
  rintro _ _ after ⟨_, _, _, rfl, rfl, first, _, _, rfl, ⟨front, text, rfl, layout, unblank, head⟩,
    others, list, _, rfl, tail, _, _, _, rfl, ⟨back, _, rfl, layout', -, rfl⟩, stored, star, _, rfl,
    mark, rfl, rfl⟩
  have spelled := Target.Spelled.union layout (head unblank) tail layout' mark
  have closed : Closed (('[' :: (front ++ (text ++ (list ++ back)))) ++ [']'] ++ star) :=
    (closed_concat _ (by decide)).append (closed_star mark)
  exact ⟨by simpa using spelled, by simpa using closed⟩

theorem sound_hop : (hop inner).Sound fun hop text after =>
    hop.Spelled text ∧ Apart text after ∧ text ≠ [] := by
  refine (Sound.construct .hop (Sound.bind (Sound.symbol '>') fun _ => Sound.bind
    (Sound.optional (Sound.spaced sound_edgeFilter)) fun labels => Sound.bind (Sound.spaced
      (Sound.orElse (sound_union deep) ((sound_vertex deep).map Target.vertex))) fun target =>
        Sound.pure (Hop.mk (labels.getD []) target))).mono ?_
  rintro _ _ after ⟨_, _, _, rfl, rfl, labels, lead, _, rfl, labelled, target, _, _, rfl,
    ⟨space, text, rfl, layout, -, reached⟩, rfl, rfl⟩
  have spelled : target.Spelled text ∧ Apart text after := by
    rcases reached with ⟨spelled, closed⟩ | ⟨vertex, rfl, spelled, apart⟩
    · exact ⟨spelled, closed.apart⟩
    · exact ⟨.vertex spelled, apart⟩
  have apart : Apart (('>' :: (lead ++ space)) ++ text) after :=
    spelled.2.behind (solid_target spelled.1).ne_nil
  refine ⟨?_, by simpa using apart, by simp⟩
  rcases labelled with ⟨labels, rfl, front, filter, rfl, layout', -, constraint⟩ | ⟨rfl, rfl⟩
  · simpa using Hop.Spelled.mk layout' (.some constraint layout) spelled.1
  · simpa using Hop.Spelled.mk layout .any spelled.1

theorem sound_hops : Sound (many (spaced (hop inner))) fun hops text after =>
    Each Hop.Spelled hops text ∧ (text = [] ∨ Apart text after) := by
  refine (Sound.many (Sound.spaced (sound_hop deep))).mono ?_
  intro hops text after series
  refine ⟨Series.each series fun _ _ _ _ holds => holds.1, ?_⟩
  rcases Series.last series with empty | ⟨hop, front, _, rfl, space, body, rfl, -, -, -, apart,
    nonempty⟩
  · exact Or.inl empty
  · rw [← List.append_assoc]
    exact Or.inr (apart.behind nonempty)

theorem sound_statement : (statement inner).Sound fun statement text after =>
    Unblank (text ++ after) → statement.Spelled text := by
  refine (Sound.construct .nestedStatement (Sound.bind (Sound.optional sound_edgeFilter)
    fun labels => Sound.bind (Sound.spaced (sound_vertex deep)) fun head => Sound.bind
      (sound_hops deep) fun hops => Sound.pure (Nested.mk (labels.getD []) head hops))).mono ?_
  rintro _ _ after ⟨labels, lead, _, rfl, labelled, head, _, _, rfl, ⟨space, text, rfl, layout, -,
    first, -⟩, hops, list, _, rfl, ⟨steps, -⟩, rfl, rfl⟩ unblank
  rcases labelled with ⟨labels, rfl, constraint⟩ | ⟨rfl, rfl⟩
  · simpa using Nested.Spelled.mk (.some constraint layout) first steps
  · have empty : space = [] := eq_nil_of_unblank layout (by simpa using unblank)
    simpa [empty] using Nested.Spelled.mk .any first steps

end

/-! ## Whole texts -/

theorem sound_nested (depth : Nat) : (nested depth).Sound fun statement text after =>
    Unblank (text ++ after) → statement.Spelled text := by
  induction depth with
  | zero => exact Sound.never
  | succ depth ih => exact sound_statement ih

theorem sound_startStatement (depth : Nat) : (startStatement (nested depth)).Sound
    fun found text _ => ∃ front list limit, text = front ++ (list ++ limit) ∧
      found.1.Spelled front ∧ Each Hop.Spelled found.2.1 list ∧
        LimitSpelled (front ++ list) found.2.2 limit := by
  refine (Sound.construct .startStatement (Sound.bind (sound_vertex (sound_nested depth))
    fun root => Sound.bind (sound_hops (sound_nested depth)) fun hops => Sound.bind sound_limit
      fun digits => Sound.pure (root, hops, digits))).mono ?_
  rintro _ _ after ⟨root, front, _, rfl, ⟨first, apart⟩, hops, list, _, rfl, ⟨steps, apart'⟩, digits,
    limit, _, rfl, bound, rfl, rfl⟩
  refine ⟨front, list, limit, by simp, first, steps, bound _ ?_⟩
  rw [List.append_nil] at apart'
  by_cases alone : list = []
  · simpa [alone] using apart
  · exact (apart'.resolve_left alone).behind alone

theorem sound_query (depth : Nat) : (query depth).Sound fun found text after =>
    after = [] ∧ StatementSpelled found.1 found.2.1 found.2.2 text := by
  refine (Sound.construct .query (Sound.bind (Sound.spaced (sound_startStatement depth))
    fun found => Sound.bind (Sound.spaced (Sound.construct .endOfQuery (Sound.notAhead _)))
      fun _ => Sound.pure found)).mono ?_
  rintro _ _ after ⟨found, _, _, rfl, ⟨front, _, rfl, layout, -, text, list, limit, rfl, first, steps,
    bound⟩, _, _, _, rfl, ⟨back, _, rfl, layout', -, rfl, ended⟩, rfl, rfl⟩
  refine ⟨?_, by simpa using StatementSpelled.mk layout first steps bound layout'⟩
  cases after with
  | nil => rfl
  | cons c rest => cases ended c rfl

/-- A text is parsed only as a query that it spells. -/
theorem spelled_of_parse {query : Query} (parsed : Query.parse text = .ok query) :
    query.Spelled text := by
  simp only [Query.parse] at parsed
  split at parsed
  · rename_i root hops digits there found
    obtain ⟨passed, whole, -, rest, statement⟩ := sound_query _ _ _ _ found
    rw [rest, List.append_nil] at whole
    cases whole
    cases digits with
    | none =>
      cases parsed
      exact ⟨none, statement, rfl, by intro count member; cases member⟩
    | some digits =>
      simp only [Query.limitOfDigits] at parsed
      split at parsed
      · rename_i fits
        cases parsed
        exact ⟨some digits, statement, rfl, by intro count member; cases member; exact fits⟩
      · cases parsed
  · cases parsed

/-- Parsing and printing agree: a text is parsed as a query if and only if it is a spelling of it. -/
theorem parse_eq_ok_iff (query : Query) (text : List Char) :
    Query.parse text = .ok query ↔ query.Spelled text :=
  ⟨spelled_of_parse, parse_spelled⟩

end Traversal.Grammar
