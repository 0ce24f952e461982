import Mathlib
import Traversal.Proofs.Arrangement
import Traversal.Proofs.Delimiters
import Traversal.Proofs.Verdict

/-! Generated text is balanced. Only four events open or close what reaches beyond the text of their
own steps: those at the ends of unions and blocks. So the brackets that are open along the text of a
stream are those of the unions and blocks that are open along the stream, whatever else stands in it
and whatever its texts hold. -/
namespace Traversal
open Compiler Compiler.State Delimiters

/-- Whether an event stands neither at the end of a union nor at that of a block. -/
def Event.isFlat : Event → Bool
  | .unionEnter | .unionExit _ | .whereEnter _ | .whereExit _ => false
  | _ => true

/-- How an event changes which unions and blocks are open, the innermost first. Only what was opened
last is closed, and a block is closed with the sign with which it was opened. -/
inductive Nests : List Opener → Event → List Opener → Prop
  | unionEnter {opened : List Opener} : Nests opened .unionEnter (.union :: opened)
  | unionExit {opened : List Opener} {stored : Bool} :
      Nests (.union :: opened) (.unionExit stored) opened
  | whereEnter {opened : List Opener} {negated : Bool} :
      Nests opened (.whereEnter negated) (.block negated :: opened)
  | whereExit {opened : List Opener} {negated : Bool} :
      Nests (.block negated :: opened) (.whereExit negated) opened
  | flat {opened : List Opener} {event : Event} (flat : event.isFlat = true) :
      Nests opened event opened

/-- The unions and blocks of a stream are closed in the reverse of the order in which they are
opened, and all of them are. -/
def Matched (events : List Event) : Prop := Path Nests [] events []

/-- The numbers with which an event compares a property. -/
def Event.numbers : Event → List String
  | .propertyFilter filter => filter.numbers
  | _ => []

/-- The numbers of an event are free of delimiters. -/
def Event.PlainNumbers (event : Event) : Prop :=
  ∀ digits ∈ event.numbers, isPlain digits.toList = true

/-- The brackets that stay open behind the step that opens a union or a block. -/
def Opener.brackets : Opener → List Bracket
  | .union | .block false => [.round]
  | .block true => [.round, .round]

/-- The brackets that are open in the text where some unions and blocks are. -/
def bracketsOf (opened : List Opener) : List Bracket := opened.flatMap Opener.brackets

/-! ## The text of steps -/

/-- A number is neutral if it is free of delimiters, and every other value is. -/
def Value.Plain : Value → Prop
  | .number digits => isPlain digits.toList = true
  | _ => True

theorem Value.neutral_text {value : Value} (plain : value.Plain) : Neutral value.text := by
  cases value with
  | literal text => exact neutral_quoteText text
  | number digits => exact neutral_of_plain plain
  | boolean b => cases b <;> exact neutral_of_plain (by decide)

theorem isPlain_of_digits {text : List Char} (digits : ∀ c ∈ text, c.isDigit = true) :
    isPlain text = true := by
  refine List.all_eq_true.mpr fun c member => ?_
  have digit := digits c member
  simp only [delimiters, List.contains_eq_mem, Bool.not_eq_true', decide_eq_false_iff_not,
    List.mem_cons, List.not_mem_nil, or_false]
  rintro (rfl | rfl | rfl | rfl | rfl | rfl) <;> exact absurd digit (by decide)

theorem neutral_filterText (key : String) (negated : Bool) {values : List Value}
    (plain : ∀ value ∈ values, value.Plain) :
    Neutral (Step.filterText key negated values) := by
  have name := neutral_quoteText key
  have listed : Neutral (listText (values.map Value.text)) :=
    neutral_listText fun item member => by
      obtain ⟨value, found, rfl⟩ := List.mem_map.mp member
      exact Value.neutral_text (plain value found)
  unfold Step.filterText
  split
  · exact neutral_callText (by decide) (by simpa using name)
  · exact neutral_callText (by decide) (by simpa using name)
  · exact neutral_callText (by decide)
      (by simpa using ⟨name, Value.neutral_text (plain _ List.mem_cons_self)⟩)
  · exact neutral_callText (by decide)
      (by simpa using ⟨name, Value.neutral_text (plain _ List.mem_cons_self)⟩)
  · exact neutral_callText (by decide)
      (by simpa using ⟨name, Value.neutral_text (plain _ List.mem_cons_self)⟩)
  · exact neutral_callText (by decide)
      (by simpa using ⟨name, Value.neutral_text (plain _ List.mem_cons_self)⟩)
  · exact neutral_callText (by decide) (by simpa using ⟨name, listed⟩)
  · exact neutral_callText (by decide) (by simpa using ⟨name, listed⟩)

theorem neutral_edgeText (source target : String) (labels : List String) :
    Neutral (Step.edgeText source target labels) := by
  have quoted := neutral_quoteText
  have listed : Neutral (listText (labels.map quoteText)) :=
    neutral_listText fun item member => by
      obtain ⟨label, -, rfl⟩ := List.mem_map.mp member
      exact quoted label
  unfold Step.edgeText
  split
  · exact neutral_callText (by decide) (by simpa using ⟨quoted source, quoted target⟩)
  · exact neutral_callText (by decide) (by simpa using ⟨quoted source, quoted target, listed⟩)

theorem neutral_limitText (count : Nat) : Neutral (Step.limit count).text := by
  refine neutral_callText (by decide) fun item member => ?_
  cases List.mem_singleton.mp member
  exact neutral_of_plain (isPlain_of_digits (digits_toString count).2)

/-! ## The text of an event's steps -/

/-- Every value of a filter is plain if its numbers are. -/
theorem FilterEvent.plain_values {filter : FilterEvent}
    (plain : ∀ digits ∈ filter.numbers, isPlain digits.toList = true) :
    ∀ value ∈ filter.values, value.Plain := by
  intro value member
  obtain ⟨listed, -⟩ := List.mem_filter.mp member
  rcases List.mem_append.mp listed with listed | boolean
  · rcases List.mem_append.mp listed with string | number
    · obtain ⟨text, -, rfl⟩ := List.mem_map.mp string
      trivial
    · obtain ⟨digits, found, rfl⟩ := List.mem_map.mp number
      exact plain digits found
  · obtain ⟨word, -, rfl⟩ := List.mem_map.mp boolean
    unfold booleanValue
    split <;> trivial

theorem neutral_storeSteps (stored : Bool) : Neutral ((storeSteps stored).flatMap Step.text) := by
  cases stored with
  | false => exact neutral_nil
  | true =>
    have store : Neutral Step.store.text :=
      neutral_callText (by decide) (by simpa using neutral_quoteText Step.storeKey)
    exact store.append neutral_nil

theorem neutral_collectText (aggregate : Bool) : Neutral (Step.collect aggregate).text := by
  have cap : Neutral (callText "cap" [quoteText Step.storeKey]) :=
    neutral_callText (by decide) (by simpa using neutral_quoteText Step.storeKey)
  cases aggregate with
  | true => exact cap
  | false => exact cap.append fun opened => rfl

variable (context : Context)

/-- The steps of an event that stands at neither end of a union or block are neutral. -/
theorem neutral_emitted (state : State) {event : Event} (flat : event.isFlat = true)
    (plain : event.PlainNumbers) :
    Neutral ((emitted context state event).flatMap Step.text) := by
  cases event with
  | unionEnter | unionExit stored | whereEnter negated | whereExit negated => cases flat
  | vertexEnter label =>
    cases current : state.current with
    | some source =>
      simp only [emitted, current]
      exact (neutral_edgeText source label state.pendingLabels).append neutral_nil
    | none =>
      simp only [emitted, current]
      refine Neutral.append (neutral_callText (by decide) ?_) neutral_nil
      simpa using ⟨neutral_quoteText Step.nodeTypeKey, neutral_quoteText label⟩
  | propertyFilter filter =>
    cases current : state.current with
    | some node =>
      simp only [emitted, current]
      exact (neutral_filterText filter.key filter.negated
        (FilterEvent.plain_values plain)).append neutral_nil
    | none =>
      simp only [emitted, current]
      exact neutral_nil
  | vertexExit stored keys => exact neutral_storeSteps stored
  | startExit => exact (neutral_collectText context.settings.aggregate).append neutral_nil
  | limit count => exact (neutral_limitText count).append neutral_nil
  | queryEnter | queryExit | nestedExit _ | edgeFilter _ => exact neutral_nil
  | startEnter | nestedEnter | comma => exact fun opened => rfl

/-- The text of an event's steps opens and closes the brackets of the union or block that the event
opens or closes. -/
theorem readAll_emitted (state : State) {opened opened' : List Opener} {event : Event}
    (nests : Nests opened event opened') (plain : event.PlainNumbers) :
    Scan.readAll ⟨.plain, bracketsOf opened⟩ ((emitted context state event).flatMap Step.text) =
      some ⟨.plain, bracketsOf opened'⟩ := by
  cases nests with
  | flat flat => exact neutral_emitted context state flat plain _
  | unionEnter => rfl
  | @whereEnter _ negated => cases negated <;> rfl
  | @whereExit _ negated => cases negated <;> rfl
  | @unionExit _ stored => exact neutral_storeSteps stored (bracketsOf opened')

/-- Along a stream the text goes from the brackets of what is open in front to those of what is open
behind. -/
theorem readAll_trace (state : State) {opened opened' : List Opener} {events : List Event}
    (path : Path Nests opened events opened') (plain : ∀ event ∈ events, event.PlainNumbers) :
    Scan.readAll ⟨.plain, bracketsOf opened⟩ ((trace emitted context state events).flatMap Step.text) =
      some ⟨.plain, bracketsOf opened'⟩ := by
  induction events generalizing state opened with
  | nil =>
    cases path
    rfl
  | cons event rest ih =>
    obtain ⟨middle, nests, path⟩ := path
    obtain ⟨first, others⟩ := List.forall_mem_cons.mp plain
    rw [trace, List.flatMap_append, readAll_append, readAll_emitted context state nests first]
    exact ih _ path others

/-! ## Accepted streams -/

/-- The union or block that an open part is. -/
def Frame.opener? : Frame → Option Opener
  | .union _ => some .union
  | .block negated _ => some (.block negated)
  | _ => none

theorem nests_of_advance {frames frames' : List Frame} {event : Event}
    (advance : Advance frames event frames') :
    Nests (frames.filterMap Frame.opener?) event (frames'.filterMap Frame.opener?) := by
  cases advance with
  | unionEnter => exact .unionEnter
  | unionExit => exact .unionExit
  | whereEnter => exact .whereEnter
  | whereExit => exact .whereExit
  | _ => exact .flat rfl

theorem isPlain_append (front back : List Char) :
    isPlain (front ++ back) = (isPlain front && isPlain back) := List.all_append

theorem isPlain_of_numberText {text : List Char} (number : NumberText text) :
    isPlain text = true := by
  obtain ⟨sign, whole, fraction, rfl, minus, digits, point⟩ := number
  have signed : isPlain sign = true := by rcases minus with rfl | rfl <;> rfl
  have parted : isPlain fraction = true := by
    rcases point with rfl | ⟨more, rfl, digits⟩
    · rfl
    · exact Bool.and_eq_true_iff.mpr ⟨rfl, isPlain_of_digits digits.2⟩
  rw [isPlain_append, isPlain_append, signed, isPlain_of_digits digits.2, parted]
  rfl

theorem plainNumbers_of_advance {frames frames' : List Frame} {event : Event}
    (advance : Advance frames event frames') : event.PlainNumbers := by
  cases advance with
  | propertyFilter formed =>
    exact fun digits member => isPlain_of_numberText (formed.1 digits member)
  | _ => exact fun digits member => nomatch member

/-- A stream that keeps the rules is matched, and its numbers are free of delimiters. -/
theorem matched_of_advances {frames frames' : List Frame} {events : List Event}
    (path : Path Advance frames events frames') :
    Path Nests (frames.filterMap Frame.opener?) events (frames'.filterMap Frame.opener?) ∧
      ∀ event ∈ events, event.PlainNumbers := by
  induction events generalizing frames with
  | nil =>
    cases path
    exact ⟨rfl, fun event member => nomatch member⟩
  | cons event rest ih =>
    obtain ⟨middle, advance, path⟩ := path
    obtain ⟨nested, plain⟩ := ih path
    exact ⟨Path.cons (nests_of_advance advance) nested,
      List.forall_mem_cons.mpr ⟨plainNumbers_of_advance advance, plain⟩⟩

/-! ## Generated text -/

/-- The steps that a stream leaves in the scopes have a balanced text. -/
theorem balanced_textOfList {events : List Event} (matched : Matched events)
    (plain : ∀ event ∈ events, event.PlainNumbers) :
    Balanced (Step.textOfList (processAll context {} events).steps).toList := by
  rw [steps_processAll, Step.textOfList, String.toList_ofList]
  exact balanced_of_readAll (readAll_trace context {} matched plain)

/-- Generated text is closed and balanced: for every stream whose unions and blocks are matched and
whose numbers are free of delimiters, whatever else stands in it. This holds of the text in the
scopes, whether or not the stream compiles, and so of every query that is compiled. The stream of
every accepted text is such a stream. -/
theorem generated_text_is_balanced :
    (∀ (context : Context) (events : List Event), Matched events →
      (∀ event ∈ events, event.PlainNumbers) →
      Balanced (String.join
        ((processAll context {} events).scopes.reverse.map Scope.text)).toList ∧
        ∀ result, compileEvents context.settings context.view events = .ok result →
          Balanced result.query.toList) ∧
      ∀ (text : String) (events : List Event), parseEvents text = .ok events →
        Matched events ∧ ∀ event ∈ events, event.PlainNumbers := by
  constructor
  · intro context events matched plain
    have balanced := balanced_textOfList context matched plain
    constructor
    · rw [join_text, ← State.steps]
      exact balanced
    · intro result compiled
      rw [compileEvents_eq, verdictOf_eq_ok_iff] at compiled
      obtain ⟨-, -, -, rfl⟩ := compiled
      exact balanced
  · intro text events accepted
    obtain ⟨query, formed, rfl⟩ := wellFormed_of_parseEvents accepted
    exact matched_of_advances (orderly_events formed)

/-- The texts hold delimiters that nothing matches, and apart from its unions and blocks the stream
is malformed. -/
theorem unruly_stream_has_balanced_text :
    let events : List Event := [.vertexEnter "'a\\", .whereEnter true, .nestedExit 4, .unionEnter,
      .edgeFilter [")", "]'"], .vertexEnter "((", .comma,
      .propertyFilter ⟨"k[", true, ["\\'(", "]"], ["-1.5"], ["T)rue"]⟩, .unionExit true, .startExit,
      .whereExit true, .limit 7]
    Balanced (String.join ((processAll ⟨{}, none⟩ {} events).scopes.reverse.map Scope.text)).toList := by
  intro events
  refine (generated_text_is_balanced.1 ⟨{}, none⟩ events ?_
    (by unfold Event.PlainNumbers; decide)).1
  exact Path.cons (.flat rfl) (Path.cons .whereEnter (Path.cons (.flat rfl) (Path.cons .unionEnter
    (Path.cons (.flat rfl) (Path.cons (.flat rfl) (Path.cons (.flat rfl) (Path.cons (.flat rfl)
      (Path.cons .unionExit (Path.cons (.flat rfl) (Path.cons .whereExit
        (path_single (.flat rfl))))))))))))

end Traversal
