import Traversal.Proofs.Items

/-! Every spelling of a tree is read as that tree. The induction is on the depth to which statements
may be nested: with one nesting more than the inner reader, the readers of all parts of a statement
find every spelling that is short enough, in front of anything that may follow it. -/
namespace Traversal.Grammar
open Reader

variable {text after space more : List Char} {openers : List Char}

/-! ## What may follow -/

/-- A text may end here: what follows does not continue its last node type, nor does it go on with
one of the given characters. -/
structure Ends (openers text after : List Char) : Prop where
  apart : Apart text after
  stops : Stops openers after

theorem Ends.mono {fewer : List Char} (ends : Ends openers text after)
    (less : fewer ⊆ openers) : Ends fewer text after :=
  ⟨ends.apart, ends.stops.mono less⟩

theorem Ends.last {front part : List Char} (ends : Ends openers (front ++ part) after) :
    Ends openers part after := by
  refine ⟨fun c last => ends.apart c ?_, ends.stops⟩
  rw [List.getLast?_append, Option.mem_def.mp last]
  rfl

/-- Behind layout, a character that belongs to no node type and opens nothing ends every text. -/
theorem ends_layout {c : Char} (layout : Layout space) (solid : isBlank c = false)
    (outside : ¬ LabelChar c) (other : c ∉ openers) : Ends openers text (space ++ c :: more) := by
  refine ⟨fun _ _ _ => ?_, stops_layout layout (stops_cons solid other)⟩
  refine head_layout layout not_labelChar_of_blank fun d head => ?_
  cases head
  exact outside

theorem trailing_ends {c : Char} (solid : isBlank c = false) (outside : ¬ LabelChar c)
    (other : c ∉ openers) : Trailing (Ends openers) c :=
  ⟨fun _ _ _ _ ends => ends.last, fun _ _ _ layout => ends_layout layout solid outside other⟩

/-- A row behind commas ends with layout and a closing character, and so does what stands in front
of it. -/
theorem ends_commas {α : Type} {item : α → List Char → Prop} {values : List α} {list back : List Char}
    {c : Char} (each : CommaEach item values list) (layout : Layout back)
    (solid : isBlank c = false) (outside : ¬ LabelChar c) (other : c ∉ openers)
    (comma : ',' ∉ openers) : Ends openers text (list ++ (back ++ c :: more)) := by
  cases each with
  | nil => exact ends_layout layout solid outside other
  | cons layout' _ _ _ =>
    rw [List.append_assoc]
    exact ends_layout layout' rfl (by decide) comma

theorem ends_hops {hops : List Hop} {list : List Char} (each : Each Hop.Spelled hops list)
    (arrow : '>' ∉ openers) (ends : Ends openers (text ++ list) after) :
    Ends openers text (list ++ after) := by
  cases each with
  | nil =>
    rw [List.append_nil] at ends
    exact ends
  | cons layout first others =>
    cases first
    rw [List.append_assoc]
    exact ends_layout layout rfl (by decide) arrow

/-- A limit ends the hops in front of it, and so does the end of the query. -/
theorem ends_limit {digits : Option (List Char)} {limit back : List Char}
    (bound : LimitSpelled text digits limit) (layout : Layout back) (small : 'l' ∉ openers)
    (capital : 'L' ∉ openers) : Ends openers text (limit ++ back) := by
  cases bound with
  | none =>
    have nothing : ∀ c ∈ (back ++ []).head?, ¬ LabelChar c :=
      head_layout layout not_labelChar_of_blank (by intro c head; cases head)
    have stops := stops_layout layout (stops_nil openers)
    rw [List.append_nil] at nothing stops
    exact ⟨fun _ _ _ => nothing, stops⟩
  | @some front word space digits layout' apart keyword layout'' number =>
    obtain ⟨c, rest, rfl, letter⟩ := limit_head keyword
    have opens : isBlank c = false ∧ c ∉ openers := by
      rcases letter with rfl | rfl
      · exact ⟨rfl, small⟩
      · exact ⟨rfl, capital⟩
    rw [List.append_assoc]
    refine ⟨fun d last inside => ?_, stops_layout layout' (stops_cons opens.1 opens.2)⟩
    cases front with
    | nil => exact absurd inside (apart rfl d last)
    | cons blank front =>
      intro d head
      cases head
      exact not_labelChar_of_blank _ (layout' _ List.mem_cons_self)

/-! ## How parts of a statement begin -/

theorem vertex_head {vertex : Vertex} (spelled : vertex.Spelled text) :
    ∃ c rest, text = c :: rest ∧ LabelChar c := by
  cases spelled with
  | @mk label clauses early late star list star' name mark body mark' =>
    obtain ⟨c, rest, same⟩ := List.exists_cons_of_ne_nil name.1
    rw [same]
    exact ⟨c, _, rfl, name.2 c (by rw [same]; exact List.mem_cons_self)⟩

theorem target_head {target : Target} (spelled : target.Spelled text) :
    ∃ c rest, text = c :: rest ∧ (LabelChar c ∨ c = '[') := by
  cases spelled with
  | vertex spelled =>
    obtain ⟨c, rest, same, inside⟩ := vertex_head spelled
    exact ⟨c, rest, same, Or.inl inside⟩
  | union => exact ⟨'[', _, rfl, Or.inr rfl⟩

/-- A character of a node type is no layout and opens neither labels nor a union. -/
theorem free_of_labelChar {c : Char} (inside : LabelChar c) :
    isBlank c = false ∧ c ≠ '(' ∧ c ≠ '[' := by
  refine ⟨Bool.eq_false_iff.mpr fun blank => ?_, ?_, ?_⟩
  · exact not_labelChar_of_blank _ ((isBlank_iff c).mp blank) inside
  · rintro rfl
    exact absurd inside (by decide)
  · rintro rfl
    exact absurd inside (by decide)

theorem solid_target {target : Target} (spelled : target.Spelled text) : Solid text := by
  obtain ⟨c, rest, rfl, inside | rfl⟩ := target_head spelled
  · exact ⟨c, rest, rfl, (free_of_labelChar inside).1⟩
  · exact ⟨'[', rest, rfl, rfl⟩

/-- No labels are read where a target begins. -/
theorem stops_target {target : Target} (spelled : target.Spelled text) (after : List Char) :
    Stops ['('] (text ++ after) := by
  obtain ⟨c, rest, rfl, inside | rfl⟩ := target_head spelled
  · obtain ⟨solid, other, -⟩ := free_of_labelChar inside
    exact stops_cons solid (by simpa using other)
  · exact stops_cons rfl (by decide)

theorem solid_vertex {vertex : Vertex} (spelled : vertex.Spelled text) : Solid text :=
  solid_target (.vertex spelled)

theorem solid_nested {statement : Nested} (spelled : statement.Spelled text) : Solid text := by
  cases spelled with
  | mk constraint first steps =>
    cases constraint with
    | any => exact (solid_vertex first).append
    | some filter layout =>
      rw [List.append_assoc]
      exact (solid_edgeFilter filter).append

theorem clause_head {clause : Clause} (spelled : clause.Spelled text) :
    ∃ c rest, text = c :: rest ∧ (c = '!' ∨ c = '(') := by
  have signed {negated : Bool} {sign rest : List Char} (negation : SignSpelled negated sign) :
      ∃ c more, sign ++ '(' :: rest = c :: more ∧ (c = '!' ∨ c = '(') := by
    cases negation
    · exact ⟨'(', rest, rfl, Or.inr rfl⟩
    · exact ⟨'!', _, rfl, Or.inl rfl⟩
  cases spelled with
  | filter spelled => cases spelled with | mk negation => exact signed negation
  | block negation => exact signed negation

theorem solid_clause {clause : Clause} (spelled : clause.Spelled text) : Solid text := by
  obtain ⟨c, rest, same, rfl | rfl⟩ := clause_head spelled
  · exact ⟨'!', rest, same, rfl⟩
  · exact ⟨'(', rest, same, rfl⟩

/-- Where a row of clauses ends, a node type may not go on; if it has any clause, it also begins with
its sign or parenthesis. -/
theorem clauses_open {clauses : List Clause} {list : List Char}
    (each : Each Clause.Spelled clauses list) :
    list = [] ∨ (∀ c ∈ (list ++ more).head?, ¬ LabelChar c) ∧ Stops ['*'] (list ++ more) := by
  cases each with
  | nil => exact Or.inl rfl
  | @cons clause clauses space text rest layout first others =>
    right
    obtain ⟨c, rest', same, sign⟩ := clause_head first
    have outside : ¬ LabelChar c ∧ isBlank c = false ∧ c ∉ ['*'] := by
      rcases sign with rfl | rfl <;> exact ⟨by decide, rfl, by decide⟩
    rw [same, List.append_assoc, List.append_assoc, List.cons_append]
    refine ⟨head_layout layout not_labelChar_of_blank ?_,
      stops_layout layout (stops_cons outside.2.1 outside.2.2)⟩
    intro d head
    cases head
    exact outside.1

theorem star_open {stored : Bool} {star : List Char} (mark : StarSpelled stored star) :
    star = [] ∨ ∀ c ∈ (star ++ more).head?, ¬ LabelChar c := by
  cases mark with
  | absent => exact Or.inl rfl
  | present layout =>
    right
    rw [List.append_assoc]
    refine head_layout layout not_labelChar_of_blank fun d head => ?_
    cases head
    decide

/-- A mark behind a vertex without clauses stands right behind its label, so it can be read there. -/
theorem vertex_marks {vertex : Vertex} (spelled : vertex.Spelled text) :
    ∃ label clauses early late star list star', vertex = .mk label clauses (early || late) ∧
      text = label.toList ++ (star ++ (list ++ star')) ∧ LabelText label.toList ∧
      StarSpelled early star ∧ Each Clause.Spelled clauses list ∧ StarSpelled late star' ∧
      (early = false → list = [] → star' = []) := by
  cases spelled with
  | @mk label clauses early late star list star' name mark body mark' =>
    by_cases moved : early = false ∧ list = []
    · obtain ⟨rfl, rfl⟩ := moved
      cases mark
      exact ⟨label, clauses, late, false, star', [], [], by simp, by simp, name, mark', body,
        .absent, fun _ _ => rfl⟩
    · exact ⟨label, clauses, early, late, star, list, star', rfl, rfl, name, mark, body, mark',
        fun unmarked empty => absurd ⟨unmarked, empty⟩ moved⟩

/-! ## The parts of a statement -/

section

variable {inner : Reader Nested} {bound : Nat}
  (deep : ∀ (statement : Nested) (text after : List Char), statement.Spelled text →
    text.length ≤ bound → Ends ['*', '(', '!', '>'] text after → inner.Finds text statement after)

theorem opens_clause : Opens (Grammar.clause inner) ['!', '('] := by
  intro text other
  exact Fails.orElse (Fails.construct .block (Fails.bind_left (opens_opening text other)))
    ((opens_filter text other).map Clause.filter)

/-- A property filter is not taken for a block: no arrow stands behind its parenthesis. -/
theorem fails_block_of_filter {test : Filter} (spelled : test.Spelled text) :
    (block inner).Fails (text ++ after) := by
  cases spelled with
  | @mk key negated values sign front first others back negation layout name list layout' =>
    cases name with
    | @mk written _ =>
      rw [List.append_cons, List.append_assoc]
      refine Fails.construct .block (Fails.bind_right (finds_opening negation) (Fails.bind_left ?_))
      rw [List.append_assoc]
      exact Fails.spaced (opens_symbol '>') (stops_layout layout (stops_cons rfl (by decide)))

theorem opens_hop : Opens (hop inner) ['>'] := (opens_symbol '>').bind.construct .hop

include deep

theorem finds_clause {clause : Clause} (spelled : clause.Spelled text)
    (short : text.length ≤ bound + 1) : (Grammar.clause inner).Finds text clause after := by
  cases spelled with
  | filter spelled =>
    exact Finds.orElse_right (fails_block_of_filter spelled)
      ((finds_filter spelled).map Clause.filter)
  | @block negated statement sign front lead text back negation layout layout' spelled layout'' =>
    simp only [List.length_append, List.length_cons] at short
    have arrow : Solid ['>'] := ⟨'>', [], rfl, rfl⟩
    rw [List.append_cons]
    refine Finds.orElse_left (Finds.construct .block (Finds.bind (finds_opening negation) ?_))
    refine Finds.bind_spaced layout arrow (Finds.symbol '>' _) ?_
    refine Finds.bind_spaced layout' (solid_nested spelled) (deep _ _ _ spelled (by omega) ?_)
      (finds_closing layout'' rfl)
    rw [List.append_assoc]
    exact ends_layout layout'' rfl (by decide) (by decide)

theorem finds_clauses {clauses : List Clause} (each : Each Clause.Spelled clauses text)
    (short : text.length ≤ bound + 1) (stops : Stops ['!', '('] after) :
    Finds (many (spaced (Grammar.clause inner))) text clauses after := by
  refine Finds.many_spaced (fun _ _ => True) opens_clause stops ?_ ?_ ?_ ?_ (each.bounded short)
    trivial
  · exact fun _ _ spelled => solid_clause spelled.1
  · exact fun _ _ _ _ _ => trivial
  · exact fun _ _ _ _ _ _ _ => trivial
  · exact fun _ _ _ spelled _ => finds_clause deep spelled.1 spelled.2

theorem finds_vertex {vertex : Vertex} (spelled : vertex.Spelled text)
    (short : text.length ≤ bound + 1) (ends : Ends ['*', '(', '!'] text after) :
    (Grammar.vertex inner).Finds text vertex after := by
  obtain ⟨label, clauses, early, late, star, list, star', rfl, rfl, name, mark, body, mark',
    behind⟩ := vertex_marks spelled
  simp only [List.length_append] at short
  have closed : Stops ['!', '('] (star' ++ after) := by
    cases mark' with
    | absent => exact ends.stops.mono (by decide)
    | present layout =>
      rw [List.append_assoc]
      exact stops_layout layout (stops_cons rfl (by decide))
  refine Finds.construct .vertex (Finds.bind (finds_label name ?_) (Finds.bind (finds_star mark ?_)
    (Finds.bind (finds_clauses deep body (by omega) closed) (Finds.bind_last (finds_star mark' ?_)
      (Finds.pure _ after)))))
  · simp only [List.append_assoc] at ends ⊢
    rcases star_open mark with rfl | outside
    · rcases clauses_open body with rfl | outside
      · rcases star_open mark' with rfl | outside
        · simp only [List.append_nil, List.nil_append] at ends ⊢
          exact ends.apart _ (List.getLast?_eq_some_getLast name.1)
            (name.2 _ (List.getLast_mem name.1))
        · exact outside
      · exact outside.1
    · exact outside
  · rintro rfl
    rcases clauses_open body with rfl | outside
    · rw [behind rfl rfl]
      exact ends.stops.mono (by decide)
    · rw [List.append_assoc]
      exact outside.2
  · rintro rfl
    exact ends.stops.mono (by decide)

theorem finds_target {target : Target} (spelled : target.Spelled text)
    (short : text.length ≤ bound + 1) (ends : Ends ['*', '(', '!'] text after) :
    (orElse (Grammar.union inner) (Target.vertex <$> Grammar.vertex inner)).Finds text target
      after := by
  cases spelled with
  | vertex spelled =>
    obtain ⟨c, rest, same, inside⟩ := vertex_head spelled
    refine Finds.orElse_right (Fails.construct .union (Fails.bind_left (Fails.symbol ?_)))
      ((finds_vertex deep spelled short ends).map Target.vertex)
    rw [same]
    intro d head
    cases head
    exact (free_of_labelChar inside).2.2
  | @union first others stored front text list back star layout head tail layout' mark =>
    simp only [List.length_append, List.length_cons] at short
    have opened : (symbol '[').Finds ['['] ()
      ((front ++ (text ++ (list ++ (back ++ (']' :: star))))) ++ after) := Finds.symbol '[' _
    have closing : Solid [']'] := ⟨']', [], rfl, rfl⟩
    refine Finds.orElse_left (Finds.construct .union (Finds.bind opened ?_))
    refine Finds.bind_spaced layout (solid_nested head) (deep _ _ _ head (by omega) ?_) ?_
    · rw [List.append_assoc, List.append_assoc]
      exact ends_commas tail layout' rfl (by decide) (by decide) (by decide)
    have trailing : Trailing (Ends ['*', '(', '!', '>']) ',' :=
      trailing_ends rfl (by decide) (by decide)
    have stops : Stops [','] ((back ++ (']' :: star)) ++ after) := by
      rw [List.append_assoc]
      exact stops_layout layout' (stops_cons rfl (by decide))
    refine Finds.bind (finds_commas trailing (fun _ _ spelled => solid_nested spelled.1)
      (fun _ _ _ spelled => deep _ _ _ spelled.1 spelled.2) (tail.bounded (by omega)) ?_ stops) ?_
    · rw [List.append_assoc]
      exact ends_layout layout' rfl (by decide) (by decide)
    refine Finds.bind_spaced layout' closing (Finds.symbol ']' _) ?_
    exact Finds.bind_last (finds_star mark fun _ => ends.stops.mono (by decide)) (Finds.pure _ after)

theorem finds_hop {hop : Hop} (spelled : hop.Spelled text) (short : text.length ≤ bound + 2)
    (ends : Ends ['*', '(', '!'] text after) : (Grammar.hop inner).Finds text hop after := by
  cases spelled with
  | @mk labels target space lead text layout constraint spelled =>
    simp only [List.length_append, List.length_cons] at short
    have arrow : (symbol '>').Finds ['>'] () ((space ++ (lead ++ text)) ++ after) :=
      Finds.symbol '>' _
    have last : Ends ['*', '(', '!'] text after := by
      have whole : '>' :: (space ++ (lead ++ text)) = ('>' :: (space ++ lead)) ++ text := by simp
      rw [whole] at ends
      exact ends.last
    have reached := finds_target deep spelled (by omega) last
    have solid := solid_target spelled
    refine Finds.construct .hop (Finds.bind arrow ?_)
    cases constraint with
    | any =>
      have unlabelled : (optional (spaced edgeFilter)).Finds [] none ((space ++ text) ++ after) := by
        rw [List.append_assoc]
        exact Finds.optional_none (Fails.spaced opens_edgeFilter (stops_layout layout (stops_target spelled after)))
      exact Finds.bind_empty unlabelled (Finds.bind_last (Finds.spaced layout solid.unblank reached)
        (Finds.pure _ after))
    | @some labels filter gap constraint layout' =>
      have labelled : (spaced edgeFilter).Finds (space ++ filter) labels ((gap ++ text) ++ after) :=
        Finds.spaced layout (solid_edgeFilter constraint).unblank (finds_edgeFilter constraint)
      rw [List.append_assoc, ← List.append_assoc space]
      exact Finds.bind (Finds.optional_some labelled) (Finds.bind_last
        (Finds.spaced layout' solid.unblank reached) (Finds.pure _ after))

theorem finds_hops {hops : List Hop} (each : Each Hop.Spelled hops text)
    (short : text.length ≤ bound + 2) (ends : Ends ['*', '(', '!', '>'] text after) :
    Finds (many (spaced (hop inner))) text hops after := by
  refine Finds.many_spaced (Ends ['*', '(', '!']) opens_hop (ends.stops.mono (by decide)) ?_ ?_ ?_ ?_
    (each.bounded short) (ends.mono (by decide))
  · rintro _ _ ⟨spelled, -⟩
    cases spelled
    exact ⟨'>', _, rfl, rfl⟩
  · exact fun _ _ _ _ ends => ends.last
  · rintro part _ _ space more ⟨spelled, -⟩ layout
    cases spelled
    exact ends_layout layout rfl (by decide) (by decide)
  · exact fun _ _ _ spelled => finds_hop deep spelled.1 spelled.2

theorem finds_statement {statement : Nested} (spelled : statement.Spelled text)
    (short : text.length ≤ bound + 1) (ends : Ends ['*', '(', '!', '>'] text after) :
    (Grammar.statement inner).Finds text statement after := by
  cases spelled with
  | @mk labels head hops lead text list constraint first steps =>
    simp only [List.length_append] at short
    have last : Ends ['*', '(', '!', '>'] (text ++ list) after := ends.last
    have reached : (Grammar.vertex inner).Finds text head (list ++ after) :=
      finds_vertex deep first (by omega) (ends_hops steps (by decide) (last.mono (by decide)))
    have followed := finds_hops deep steps (by omega) last.last
    have solid := solid_vertex first
    refine Finds.construct .nestedStatement ?_
    cases constraint with
    | any =>
      have unlabelled : (optional edgeFilter).Finds [] none ((text ++ list) ++ after) := by
        refine Finds.optional_none (opens_edgeFilter _ ?_)
        obtain ⟨c, rest, rfl, inside⟩ := vertex_head first
        intro d head
        cases head
        exact ⟨(free_of_labelChar inside).1, by simpa using (free_of_labelChar inside).2.1⟩
      refine Finds.bind_empty unlabelled (?_ : Finds _ ([] ++ (text ++ list)) _ after)
      exact Finds.bind_spaced layout_nil solid reached
        (Finds.bind_last followed (Finds.pure _ after))
    | @some labels filter gap constraint layout' =>
      have labelled : edgeFilter.Finds filter labels ((gap ++ (text ++ list)) ++ after) :=
        finds_edgeFilter constraint
      rw [List.append_assoc]
      exact Finds.bind (Finds.optional_some labelled) (Finds.bind_spaced layout' solid reached
        (Finds.bind_last followed (Finds.pure _ after)))

end

/-! ## Whole texts -/

/-- A reader of nested statements finds every spelling that is no longer than its depth. -/
theorem finds_nested (depth : Nat) : ∀ (statement : Nested) (text after : List Char),
    statement.Spelled text → text.length ≤ depth → Ends ['*', '(', '!', '>'] text after →
    (nested depth).Finds text statement after := by
  induction depth with
  | zero =>
    intro statement text after spelled short ends
    exact absurd (List.length_eq_zero_iff.mp (Nat.le_zero.mp short)) (solid_nested spelled).ne_nil
  | succ depth ih =>
    intro statement text after spelled short ends
    exact finds_statement ih spelled short ends

theorem finds_startStatement {depth : Nat} {root : Vertex} {hops : List Hop}
    {digits : Option (List Char)} {list limit : List Char} (first : root.Spelled text)
    (steps : Each Hop.Spelled hops list) (bound : LimitSpelled (text ++ list) digits limit)
    (layout : Layout after) (short : (text ++ list).length ≤ depth) :
    (startStatement (nested depth)).Finds (text ++ (list ++ limit)) (root, hops, digits) after := by
  simp only [List.length_append] at short
  have last : Ends ['*', '(', '!', '>'] (text ++ list) (limit ++ after) :=
    ends_limit bound layout (by decide) (by decide)
  have reached : (Grammar.vertex (nested depth)).Finds text root ((list ++ limit) ++ after) := by
    rw [List.append_assoc]
    exact finds_vertex (finds_nested depth) first (by omega)
      (ends_hops steps (by decide) (last.mono (by decide)))
  have followed := finds_hops (finds_nested depth) steps (by omega) last.last
  exact Finds.construct .startStatement (Finds.bind reached (Finds.bind followed
    (Finds.bind_last (finds_limit bound layout) (Finds.pure _ after))))

theorem finds_query {root : Vertex} {hops : List Hop} {digits : Option (List Char)}
    (spelled : StatementSpelled root hops digits text) :
    (Grammar.query (text.length + 1)).Finds text (root, hops, digits) [] := by
  cases spelled with
  | @mk front text list limit back layout first steps bound layout' =>
    have short : (text ++ list).length ≤
        (front ++ (text ++ (list ++ (limit ++ back)))).length + 1 := by
      simp only [List.length_append]
      omega
    have statement := finds_startStatement first steps bound layout' short
    have ended : endOfQuery.Finds [] () [] :=
      Finds.construct .endOfQuery (Finds.notAhead (by intro c head; cases head))
    have finished : (spaced endOfQuery).Finds back () [] := by
      have blank := Finds.spaced layout' (by intro c head; cases head) ended
      rwa [List.append_nil] at blank
    have solid : Solid (text ++ (list ++ limit)) := (solid_vertex first).append
    have parts : front ++ (text ++ (list ++ (limit ++ back))) =
        front ++ ((text ++ (list ++ limit)) ++ back) := by simp only [List.append_assoc]
    generalize (front ++ (text ++ (list ++ (limit ++ back)))).length + 1 = depth at statement ⊢
    rw [parts]
    refine Finds.construct .query (Finds.bind_spaced layout solid ?_
      (Finds.bind_last finished (Finds.pure _ [])))
    rw [List.append_nil]
    exact statement

/-- Every spelling of a query is parsed as that query. -/
theorem parse_spelled {query : Query} (spelled : query.Spelled text) :
    Query.parse text = .ok query := by
  obtain ⟨root, hops, limit⟩ := query
  obtain ⟨digits, statement, value, fits⟩ := spelled
  have found := finds_query statement 0
  rw [List.append_nil] at found
  have bounded : Query.limitOfDigits digits = .ok limit := by
    cases digits with
    | none =>
      cases value
      rfl
    | some digits =>
      cases value
      exact if_pos (fits _ rfl)
  simp only [Query.parse, found, bounded]
  rfl

end Traversal.Grammar
