import Mathlib
import Traversal.Proofs.Pieces

/-! Limits: the digits of a limit are all that can be wrong with a text of the grammar. The walk over
the pieces of such a text comes to the stream of its tree, unless the number that the digits denote does
not fit a count. -/
namespace Traversal
open Reader
open Grammar (spaced)

namespace Text

/-- The number whose decimal digits, from the last to the first, are given as a text. -/
def decimalValue (digits : List Char) : Nat :=
  Nat.ofDigits 10 (digits.reverse.map fun d => d.toNat - '0'.toNat)

theorem naturalOfDigits_eq (digits : List Char) : naturalOfDigits digits = decimalValue digits := by
  rw [decimalValue, Nat.ofDigits_eq_foldr, List.foldr_map, List.foldr_reverse]
  exact congrArg (digits.foldl · 0) (funext fun value => funext fun d => Nat.add_comm _ _)

/-- Zeros in front of digits do not count. -/
theorem decimalValue_zeros (count : Nat) (digits : List Char) :
    decimalValue (List.replicate count '0' ++ digits) = decimalValue digits := by
  rw [decimalValue, List.reverse_append, List.map_append, List.reverse_replicate, List.map_replicate]
  exact Nat.ofDigits_append_replicate_zero _

theorem boundedNatural_digits {text : List Char} (digits : Digits text) (bound : Nat) :
    boundedNatural bound text =
      if naturalOfDigits text < bound then some (naturalOfDigits text) else none := by
  obtain ⟨c, rest, rfl⟩ := List.exists_cons_of_ne_nil digits.1
  have unsigned : c ≠ '+' := by
    rintro rfl
    exact absurd (digits.2 '+' List.mem_cons_self) (by decide)
  have all : (c :: rest).all Char.isDigit = true := List.all_eq_true.mpr digits.2
  unfold boundedNatural
  split
  · rename_i same
    exact absurd (List.cons.inj same).1 unsigned
  · simp only [List.isEmpty_cons, all]
    rfl

end Text

namespace Walk

/-- The events of the digits of a limit, which have to fit a count, and nothing without a limit. -/
def boundEvents : Option (List Char) → Except Misfit (List Event)
  | none => .ok []
  | some digits =>
    if Text.naturalOfDigits digits < Text.countBound then .ok [.limit (Text.naturalOfDigits digits)]
    else .error (.limitTooLarge (String.ofList digits))

theorem limit_in_step : InStep Grammar.limit Pieces.limit fun digits =>
    Single .limit fun piece => Walk.limit piece = boundEvents (some digits) := by
  refine InStep.whole .limit (fun digits parts =>
    Digits digits ∧ parts = [.mk (.construct .integer) digits []]) ?_ ?_
  · refine InStep.behind _ (InStep.behind _ ((InStep.leaf _ (Sound.construct .integer
      Grammar.sound_digits)).mono ?_))
    rintro digits _ ⟨text, -, rfl, rfl, number⟩
    exact ⟨number, rfl⟩
  · rintro digits text _ ⟨number, rfl⟩
    simp only [Walk.limit, Piece.parts, Piece.text, Text.boundedNatural_digits number, boundEvents]
    by_cases fits : Text.naturalOfDigits digits < Text.countBound
    · simp only [fits, ↓reduceIte]
    · simp only [fits, ↓reduceIte]

/-- The stream of a start statement whose limit has been walked over. -/
def startEvents (root : Vertex) (hops : List Hop) (limit : List Event) : List Event :=
  .startEnter :: (root.events (some root.filterKeys) ++ Hop.eventsOfList hops ++ limit ++ [.startExit])

theorem foldr_events (hops : List Hop) (out : List Event) :
    hops.foldr (fun hop out => hop.events ++ out) out = Hop.eventsOfList hops ++ out := by
  induction hops with
  | nil => rfl
  | cons hop rest ih => rw [List.foldr_cons, ih, Hop.eventsOfList, List.append_assoc]

theorem startStatement_in_step (depth : Nat) :
    InStep (Grammar.startStatement (Grammar.nested depth))
      (Pieces.startStatement (Pieces.nested depth)) fun found => Single .startStatement fun piece =>
        Walk.startStatement piece = startEvents found.1 found.2.1 <$> boundEvents found.2.2 := by
  refine InStep.whole .startStatement (fun found parts => ∀ text,
    Walk.startStatement (.mk (.construct .startStatement) text parts) =
      startEvents found.1 found.2.1 <$> boundEvents found.2.2) ?_ fun found text parts walks => walks text
  have deep := nested_in_step depth
  refine InStep.bind (vertex_in_step deep) fun root first begun =>
    InStep.bind (hops_in_step deep) fun hops list listed =>
      InStep.bind (InStep.behind _ limit_in_step).perhaps fun digits last limited =>
        InStep.pure fun text => ?_
  obtain ⟨piece, rfl, kind, walked⟩ := begun
  obtain ⟨parts, rfl, each⟩ := listed
  have steps : List.Forall₂ (fun hop => Adds startParts (hop.events ++ ·)) hops parts := by
    refine each.imp fun hop pieces single rest => ?_
    obtain ⟨piece, rfl, kind, walked⟩ := single
    simp only [List.singleton_append, startParts, kind, walked]
    cases startParts rest <;> rfl
  have bound : startParts last = boundEvents digits := by
    rcases limited with ⟨digits, rfl, piece, rfl, kind, walked⟩ | ⟨rfl, rfl⟩
    · simp only [startParts, kind, walked]
      cases boundEvents (some digits) with
      | error misfit => rfl
      | ok events => exact congrArg Except.ok (List.append_nil events)
    · rfl
  have others : startParts (parts.flatten ++ last) =
      (Hop.eventsOfList hops ++ ·) <$> boundEvents digits := by
    rw [Adds.flatten steps last, bound]
    simp only [foldr_events]
  simp only [Walk.startStatement, Piece.parts, List.singleton_append, walked true, others]
  cases boundEvents digits with
  | error misfit => rfl
  | ok limit =>
    change Except.ok (_ :: (_ ++ (_ ++ limit) ++ _)) = Except.ok (startEvents root hops limit)
    rw [startEvents, ← List.append_assoc]
    rfl

/-- The stream of a query is that of its start statement. -/
theorem events_eq (root : Vertex) (hops : List Hop) (limit : Option Nat) :
    Query.events ⟨root, hops, limit⟩ =
      .queryEnter :: (startEvents root hops (limitEvents limit) ++ [.queryExit]) := by
  simp [Query.events, startEvents]

theorem query_in_step (depth : Nat) :
    InStep (Grammar.query depth) (Pieces.query depth) fun found pieces =>
      Walk.query pieces = (fun limit => .queryEnter :: (startEvents found.1 found.2.1 limit ++
        [.queryExit])) <$> boundEvents found.2.2 := by
  have ended : InStep Grammar.endOfQuery Pieces.endOfQuery fun _ => Single .endOfQuery fun _ => True := by
    refine (InStep.leaf _ (Sound.construct .endOfQuery (Sound.notAhead _))).mono ?_
    rintro _ _ ⟨text, -, rfl, -⟩
    exact ⟨_, rfl, rfl, trivial⟩
  have whole : InStep (Grammar.query depth) (Pieces.query depth) fun found => Single .query fun piece =>
      Walk.queryParts piece.parts = startEvents found.1 found.2.1 <$> boundEvents found.2.2 := by
    refine InStep.whole .query (fun (found : Vertex × List Hop × Option (List Char)) parts =>
      Walk.queryParts parts = startEvents found.1 found.2.1 <$> boundEvents found.2.2) ?_
      fun _ _ _ walks => walks
    refine InStep.bind (InStep.behind _ (startStatement_in_step depth)) fun found statement begun =>
      InStep.bind (InStep.behind _ ended) fun _ last finished => InStep.pure ?_
    obtain ⟨piece, rfl, kind, walked⟩ := begun
    obtain ⟨mark, rfl, kind', -⟩ := finished
    simp only [List.singleton_append, queryParts, kind, kind', walked]
    cases boundEvents found.2.2 with
    | error misfit => rfl
    | ok limit => exact congrArg Except.ok (List.append_nil _)
  refine whole.mono ?_
  rintro found _ ⟨piece, rfl, -, walked⟩
  simp only [Walk.query, walked]
  cases boundEvents found.2.2 <;> rfl

end Walk

/-- What the walk over the pieces of a text comes to, as the text is parsed: there are no pieces where
the syntax is wrong. -/
def walkOutcome : Except ParseError (List Event) → Option (Except Misfit (List Event))
  | .ok events => some (.ok events)
  | .error (.limitTooLarge digits) => some (.error (.limitTooLarge digits))
  | .error (.unexpected _ _) => none

/-- The walk over the pieces of a text and the tree of the text come to the same. -/
theorem walkEvents_eq (text : String) : walkEvents text = walkOutcome (parseEvents text) := by
  unfold walkEvents piecesOf parseEvents Query.parse
  rcases Walk.query_in_step (text.toList.length + 1) ⟨0, text.toList⟩ with
    ⟨failed, failed'⟩ | ⟨⟨root, hops, digits⟩, pieces, there, found, found', walked⟩
  · simp only [failed, failed']
    rfl
  · simp only [found, found', Option.map_some, walked]
    cases digits with
    | none => exact congrArg (some ∘ Except.ok) (Walk.events_eq root hops none).symm
    | some digits =>
      by_cases fits : Text.naturalOfDigits digits < Text.countBound
      · simp only [Walk.boundEvents, Query.limitOfDigits, fits, ↓reduceIte]
        exact congrArg (some ∘ Except.ok) (Walk.events_eq root hops (some _)).symm
      · simp only [Walk.boundEvents, Query.limitOfDigits, fits, ↓reduceIte]
        rfl

/-- A text of the grammar is parsed to its tree, unless its limit does not fit a count. -/
theorem parse_statement {root : Vertex} {hops : List Hop} {digits : Option (List Char)}
    {text : List Char} (spelled : StatementSpelled root hops digits text) :
    Query.parse text = (Query.limitOfDigits digits).map fun limit => ⟨root, hops, limit⟩ := by
  have found := Grammar.finds_query spelled 0
  rw [List.append_nil] at found
  simp only [Query.parse, found]
  cases Query.limitOfDigits digits <;> rfl

/-- A text is one of the grammar, or its syntax is wrong. -/
theorem statement_or_unexpected (text : List Char) :
    Grammatical text ∨ ∃ before expected, Query.parse text = .error (.unexpected before expected) := by
  cases found : (Grammar.query (text.length + 1) ⟨0, text⟩).found with
  | none =>
    let attempts := (Grammar.query (text.length + 1) ⟨0, text⟩).tried Attempts.none
    refine Or.inr ⟨text.take attempts.index, attempts.constructs, ?_⟩
    simp only [Query.parse, found, attempts]
  | some stopped =>
    obtain ⟨⟨root, hops, digits⟩, there⟩ := stopped
    obtain ⟨passed, whole, -, rest, statement⟩ := Grammar.sound_query _ _ _ _ found
    rw [rest, List.append_nil] at whole
    cases whole
    exact Or.inl ⟨root, hops, digits, statement⟩

/-- The text is one of the grammar, it has a limit with the given digits, and the number that they
denote needs more than 64 bits. -/
def Oversized (text digits : List Char) : Prop :=
  (∃ root hops, StatementSpelled root hops (some digits) text) ∧ 2 ^ 64 ≤ Text.decimalValue digits

theorem limitOfDigits_small {digits : List Char} (small : Text.decimalValue digits < 2 ^ 64) :
    Query.limitOfDigits (some digits) = .ok (some (Text.decimalValue digits)) := by
  rw [← Text.naturalOfDigits_eq] at small ⊢
  exact if_pos small

theorem limitOfDigits_large {digits : List Char} (large : 2 ^ 64 ≤ Text.decimalValue digits) :
    Query.limitOfDigits (some digits) = .error (.limitTooLarge (String.ofList digits)) := by
  rw [← Text.naturalOfDigits_eq] at large
  exact if_neg (Nat.not_lt.mpr large)

theorem parseEvents_eq_limitTooLarge_iff (text digits : String) :
    parseEvents text = .error (.limitTooLarge digits) ↔ Oversized text.toList digits.toList := by
  rw [parseEvents_eq_error_iff]
  constructor
  · intro failed
    rcases statement_or_unexpected text.toList with ⟨root, hops, written, spelled⟩ | ⟨_, _, other⟩
    · rw [parse_statement spelled] at failed
      cases written with
      | none => cases failed
      | some written =>
        rcases Nat.lt_or_ge (Text.decimalValue written) (2 ^ 64) with small | large
        · rw [limitOfDigits_small small] at failed
          cases failed
        · rw [limitOfDigits_large large] at failed
          cases failed
          rw [Oversized, String.toList_ofList]
          exact ⟨⟨root, hops, spelled⟩, large⟩
    · rw [other] at failed
      cases failed
  · rintro ⟨⟨root, hops, spelled⟩, large⟩
    rw [parse_statement spelled, limitOfDigits_large large, String.ofList_toList]
    rfl

theorem walkEvents_eq_none_iff (text : String) :
    walkEvents text = none ↔ ¬ Grammatical text.toList := by
  rw [walkEvents_eq]
  constructor
  · rintro nothing ⟨root, hops, digits, spelled⟩
    rw [parseEvents, parse_statement spelled] at nothing
    cases digits with
    | none => cases nothing
    | some digits =>
      rcases Nat.lt_or_ge (Text.decimalValue digits) (2 ^ 64) with small | large
      · rw [limitOfDigits_small small] at nothing
        cases nothing
      · rw [limitOfDigits_large large] at nothing
        cases nothing
  · intro outside
    rcases statement_or_unexpected text.toList with inside | ⟨before, expected, failed⟩
    · exact absurd inside outside
    · rw [(parseEvents_eq_error_iff text _).mpr failed]
      rfl

theorem walkEvents_eq_error_iff (text : String) (misfit : Misfit) :
    walkEvents text = some (.error misfit) ↔
      ∃ digits : String, Oversized text.toList digits.toList ∧ misfit = .limitTooLarge digits ∧
        misfit.message = "Invalid limit `" ++ digits ++ "`" := by
  rw [walkEvents_eq]
  constructor
  · intro ended
    cases parsed : parseEvents text with
    | ok events =>
      rw [parsed] at ended
      cases ended
    | error error =>
      rw [parsed] at ended
      cases error with
      | unexpected => cases ended
      | limitTooLarge digits =>
        cases ended
        exact ⟨digits, (parseEvents_eq_limitTooLarge_iff text digits).mp parsed, rfl, rfl⟩
  · rintro ⟨digits, large, rfl, -⟩
    rw [(parseEvents_eq_limitTooLarge_iff text digits).mpr large]
    rfl

/-- An error has no place if and only if a limit does not fit a count. -/
theorem placeless_error_iff (text detail : String) :
    (∃ error, parseEvents text = .error error ∧ error.diagnostic = ⟨detail, none⟩) ↔
      ∃ digits : String, Oversized text.toList digits.toList ∧
        detail = "Invalid limit `" ++ digits ++ "`" := by
  constructor
  · rintro ⟨error, failed, told⟩
    cases error with
    | unexpected => cases congrArg Diagnostic.place told
    | limitTooLarge digits =>
      have large := (parseEvents_eq_limitTooLarge_iff text digits).mp failed
      exact ⟨digits, large, (congrArg Diagnostic.detail told).symm⟩
  · rintro ⟨digits, large, rfl⟩
    exact ⟨_, (parseEvents_eq_limitTooLarge_iff text digits).mpr large, rfl⟩

/-- The digits of a limit stand at the end of the text, but for layout, and other digits may stand in
their place. -/
theorem exchange_digits {root : Vertex} {hops : List Hop} {digits text : List Char}
    (spelled : StatementSpelled root hops (some digits) text) :
    ∃ front back, text = front ++ (digits ++ back) ∧ Layout back ∧ ∀ others, Digits others →
      StatementSpelled root hops (some others) (front ++ (others ++ back)) := by
  cases spelled with
  | @mk front text list _ back layout first steps bound layout' =>
    cases bound with
    | @some gap word space _ layout'' apart keyword layout''' number =>
      refine ⟨front ++ (text ++ (list ++ (gap ++ (word ++ space)))), back, by simp, layout',
        fun others number' => ?_⟩
      simpa using StatementSpelled.mk layout first steps
        (LimitSpelled.some layout'' apart keyword layout''' number') layout'

/-- The only failure of a parse behind a text of the grammar is a limit that needs more than 64 bits.
The walk over the pieces of the text comes to what parsing comes to: there are no pieces if and only if
the text is not one of the grammar, and no misfit but that one ever ends a walk, where zeros in front of
the digits do not count. An error has no place if and only if it is that one, and then it quotes the
digits as they are written. With digits in their place that denote less, the text is accepted. -/
theorem oversized_limit_is_the_only_other_failure (text : String) :
    walkEvents text = walkOutcome (parseEvents text) ∧
    (walkEvents text = none ↔ ¬ Grammatical text.toList) ∧
    (∀ count digits, Text.decimalValue (List.replicate count '0' ++ digits) =
      Text.decimalValue digits) ∧
    (∀ misfit, walkEvents text = some (.error misfit) ↔
      ∃ digits : String, Oversized text.toList digits.toList ∧ misfit = .limitTooLarge digits ∧
        misfit.message = "Invalid limit `" ++ digits ++ "`") ∧
    (∀ detail, (∃ error, parseEvents text = .error error ∧ error.diagnostic = ⟨detail, none⟩) ↔
      ∃ digits : String, Oversized text.toList digits.toList ∧
        detail = "Invalid limit `" ++ digits ++ "`") ∧
    ∀ root hops digits, StatementSpelled root hops (some digits) text.toList →
      ∃ front back, text.toList = front ++ (digits ++ back) ∧ Layout back ∧
        ∀ others, Digits others → Text.decimalValue others < 2 ^ 64 →
          parseEvents (String.ofList (front ++ (others ++ back))) =
            .ok (Query.events ⟨root, hops, some (Text.decimalValue others)⟩) := by
  refine ⟨walkEvents_eq text, walkEvents_eq_none_iff text, Text.decimalValue_zeros,
    walkEvents_eq_error_iff text, placeless_error_iff text, fun root hops digits spelled => ?_⟩
  obtain ⟨front, back, same, layout, exchanged⟩ := exchange_digits spelled
  refine ⟨front, back, same, layout, fun others number small => ?_⟩
  rw [parseEvents, String.toList_ofList, parse_statement (exchanged others number),
    limitOfDigits_small small]
  rfl

/-- Zeros in front of the digits do not help. -/
example : walkEvents "a LIMIT 018446744073709551616 " =
    some (.error (.limitTooLarge "018446744073709551616")) := by cbv

end Traversal
