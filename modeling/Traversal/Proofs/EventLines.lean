import Mathlib
import Traversal.Main
import Traversal.Proofs.Stream

/-! Lines of events. The list of a stream puts line feeds between the texts of events, but the texts may
hold line feeds of their own: what a query writes in quotes stands in them as it is. Nothing else in the
events of an accepted query can hold one, so the events of a query have a line each if and only if there
is no line feed between its quotes. -/
namespace Traversal

namespace Text

variable {text : String}

/-! ## Lines between line feeds -/

/-- The lines of a text if only line feeds end them. -/
def feedLines (text : String) : List String := (text.toList.splitOn '\n').map String.ofList

/-- The number of line feeds in a text. -/
def feeds (text : String) : Nat := text.toList.count '\n'

theorem feeds_eq_zero_iff : feeds text = 0 ↔ '\n' ∉ text.toList := List.count_eq_zero

theorem feeds_append (front back : String) : feeds (front ++ back) = feeds front + feeds back := by
  simp [feeds]

theorem length_splitOn (text : List Char) : (text.splitOn '\n').length = text.count '\n' + 1 := by
  induction text with
  | nil => rfl
  | cons c rest ih =>
    rw [List.splitOn_cons_eq_if_modifyHead]
    by_cases feed : c = '\n'
    · simp [feed, ih]
    · simp [feed, ih]

theorem length_feedLines (text : String) : (feedLines text).length = feeds text + 1 := by
  rw [feedLines, List.length_map, length_splitOn, feeds]

theorem feedLines_of_feeds (none : feeds text = 0) : feedLines text = [text] := by
  rw [feedLines, List.splitOn_eq_singleton (feeds_eq_zero_iff.mp none)]
  simp

/-- Texts with line feeds between them have the lines of each, one text after the other. -/
theorem feedLines_intercalate {texts : List String} (filled : texts ≠ []) :
    feedLines ("\n".intercalate texts) = texts.flatMap feedLines := by
  induction texts with
  | nil => exact absurd rfl filled
  | cons text rest ih =>
    cases rest with
    | nil => simp
    | cons next rest =>
      have feed : "\n".toList = ['\n'] := by decide
      have behind := ih (List.cons_ne_nil next rest)
      rw [String.intercalate_cons_cons, List.flatMap_cons, ← behind]
      simp only [feedLines, String.toList_append, feed, List.append_assoc, List.singleton_append,
        List.splitOn_append_cons_self, List.map_append]

theorem length_flatMap_feedLines (texts : List String) :
    (texts.flatMap feedLines).length = texts.length + (texts.map feeds).sum := by
  induction texts with
  | nil => rfl
  | cons text rest ih =>
    simp only [List.flatMap_cons, List.length_append, length_feedLines, ih, List.length_cons,
      List.map_cons, List.sum_cons]
    omega

/-- Texts have a line each if and only if none of them holds a line feed. -/
theorem flatMap_feedLines_eq_iff (texts : List String) :
    texts.flatMap feedLines = texts ↔ (texts.map feeds).sum = 0 := by
  constructor
  · intro alone
    have lengths := length_flatMap_feedLines texts
    rw [alone] at lengths
    omega
  · intro none
    induction texts with
    | nil => rfl
    | cons text rest ih =>
      rw [List.map_cons, List.sum_cons] at none
      have first : feeds text = 0 := by omega
      rw [List.flatMap_cons, feedLines_of_feeds first, ih (by omega)]
      rfl

end Text

open Text

/-! ## Line feeds in the text of an event -/

/-- What an event holds that a query writes in quotes. -/
def Event.quoted : Event → List String
  | .vertexExit _ (some keys) => keys
  | .edgeFilter labels => labels
  | .propertyFilter filter => filter.key :: filter.strings
  | _ => []

/-- What an event holds that a query writes without quotes. -/
def Event.unquoted : Event → List String
  | .vertexEnter label => [label]
  | .propertyFilter filter => filter.numbers ++ filter.booleans
  | _ => []

theorem feeds_intercalate (texts : List String) :
    feeds (", ".intercalate texts) = (texts.map feeds).sum := by
  induction texts with
  | nil => rfl
  | cons text rest ih =>
    cases rest with
    | nil => simp
    | cons next rest =>
      have comma : feeds ", " = 0 := by decide
      rw [String.intercalate_cons_cons, feeds_append, feeds_append, ih, comma]
      rfl

theorem feeds_listText (texts : List String) :
    feeds (Event.listText texts) = (texts.map feeds).sum := by
  have opening : feeds "[" = 0 := by decide
  have closing : feeds "]" = 0 := by decide
  rw [Event.listText, feeds_append, feeds_append, feeds_intercalate, opening, closing, Nat.zero_add,
    Nat.add_zero]

theorem feeds_boolText (b : Bool) : feeds (Event.boolText b) = 0 := by
  cases b <;> decide

theorem feeds_toString (count : Nat) : feeds (toString count) = 0 := by
  apply feeds_eq_zero_iff.mpr
  intro feed
  exact absurd ((digits_toString count).2 _ feed) (by decide)

/-- Signs around a text add no line feeds if they hold none. -/
theorem feeds_enclosed {front back : String} (free : feeds front = 0 ∧ feeds back = 0)
    (inner : String) : feeds (front ++ inner ++ back) = feeds inner := by
  rw [feeds_append, feeds_append, free.1, free.2, Nat.zero_add, Nat.add_zero]

theorem feeds_filterText (filter : FilterEvent) : feeds (Event.propertyFilter filter).text =
    feeds filter.key + (filter.strings.map feeds).sum +
      ((filter.numbers.map feeds).sum + (filter.booleans.map feeds).sum) := by
  have plain (text : String) : feeds (toString text) = feeds text := rfl
  have signs : (feeds "property-filter(" = 0 ∧ feeds ", negated=" = 0 ∧ feeds ", strings=" = 0) ∧
      (feeds ", " = 0 ∧ feeds "numbers=" = 0 ∧ feeds ", booleans=" = 0) ∧ feeds ")" = 0 := by decide
  obtain ⟨⟨name, negated, strings⟩, ⟨comma, numbers, booleans⟩, closing⟩ := signs
  unfold Event.text
  simp only [feeds_append, plain, feeds_boolText, feeds_listText, name, negated, strings, comma,
    numbers, booleans, closing, Nat.zero_add, Nat.add_zero]

/-- The text of an event has no line feeds but those of what the event holds. -/
theorem feeds_text (event : Event) :
    feeds event.text = (event.quoted.map feeds).sum + (event.unquoted.map feeds).sum := by
  cases event with
  | nestedExit count | limit count =>
    exact (feeds_enclosed (by decide) (toString count)).trans (feeds_toString count)
  | unionExit b | whereEnter b | whereExit b =>
    exact (feeds_enclosed (by decide) (Event.boolText b)).trans (feeds_boolText b)
  | vertexEnter label =>
    refine (feeds_enclosed (by decide) label).trans ?_
    simp [Event.quoted, Event.unquoted]
  | edgeFilter labels =>
    exact (feeds_enclosed (by decide) (Event.listText labels)).trans (feeds_listText labels)
  | vertexExit stored keys =>
    cases keys with
    | none => exact (feeds_enclosed (by decide) (Event.boolText stored)).trans (feeds_boolText stored)
    | some keys =>
      have free : feeds ("vertex-exit(store=" ++ Event.boolText stored ++ ", keys=") = 0 := by
        cases stored <;> decide
      exact (feeds_enclosed ⟨free, by decide⟩ (Event.listText keys)).trans (feeds_listText keys)
  | propertyFilter filter =>
    rw [feeds_filterText, Event.quoted, Event.unquoted, List.map_append, List.sum_append,
      List.map_cons, List.sum_cons]
  | _ => decide

/-! ## Accepted streams -/

theorem feeds_of_labelText {text : String} (name : LabelText text.toList) : feeds text = 0 := by
  apply feeds_eq_zero_iff.mpr
  intro feed
  exact absurd (name.2 _ feed) (by decide)

theorem feeds_of_numberText {text : String} (number : NumberText text.toList) : feeds text = 0 := by
  apply feeds_eq_zero_iff.mpr
  have free {digits : List Char} (number : Digits digits) : '\n' ∉ digits :=
    fun feed => absurd (number.2 _ feed) (by decide)
  obtain ⟨sign, whole, fraction, same, minus, digits, point⟩ := number
  rw [same]
  simp only [List.mem_append, not_or]
  refine ⟨?_, free digits, ?_⟩
  · rcases minus with rfl | rfl <;> decide
  · rcases point with rfl | ⟨more, rfl, digits'⟩
    · exact List.not_mem_nil
    · simp [free digits']

theorem feeds_of_booleanText {text : String} (truth : BooleanText text.toList) : feeds text = 0 := by
  apply feeds_eq_zero_iff.mpr
  intro feed
  have small : '\n' ∈ text.toList.map Char.toLower := List.mem_map_of_mem feed
  rcases truth with yes | no
  · rw [yes] at small
    exact absurd small (by decide)
  · rw [no] at small
    exact absurd small (by decide)

/-- The rules of streams leave no room for line feeds outside quotes. -/
theorem unquoted_of_advance {before after : List Frame} {event : Event}
    (advance : Advance before event after) : (event.unquoted.map feeds).sum = 0 := by
  apply List.sum_eq_zero
  intro count member
  obtain ⟨text, held, rfl⟩ := List.mem_map.mp member
  cases advance with
  | firstVertex name =>
    cases List.mem_singleton.mp held
    exact feeds_of_labelText name
  | nextVertex name =>
    cases List.mem_singleton.mp held
    exact feeds_of_labelText name
  | propertyFilter formed =>
    rcases List.mem_append.mp held with number | word
    · exact feeds_of_numberText (formed.1 text number)
    · exact feeds_of_booleanText (formed.2 text word)
  | _ => cases held

theorem Path.exists_move {σ ε : Type} {moves : σ → ε → σ → Prop} {state last : σ} {labels : List ε}
    (path : Path moves state labels last) : ∀ label ∈ labels, ∃ before after, moves before label after := by
  induction labels generalizing state with
  | nil => exact fun label member => nomatch member
  | cons first rest ih =>
    obtain ⟨next, move, path⟩ := path
    intro label member
    rcases List.mem_cons.mp member with rfl | later
    · exact ⟨state, next, move⟩
    · exact ih path label later

/-- The texts of the events of an accepted query hold the line feeds of its quoted texts. -/
theorem feeds_of_accepted {text : String} {events : List Event} (accepted : parseEvents text = .ok events) :
    ((events.map Event.text).map feeds).sum = ((events.flatMap Event.quoted).map feeds).sum := by
  obtain ⟨query, formed, rfl⟩ := wellFormed_of_parseEvents accepted
  have moved := (orderly_events formed).exists_move
  generalize query.events = events at moved ⊢
  induction events with
  | nil => rfl
  | cons event rest ih =>
    obtain ⟨before, after, advance⟩ := moved event List.mem_cons_self
    simp only [List.map_cons, List.sum_cons, List.flatMap_cons, List.map_append, List.sum_append,
      feeds_text, unquoted_of_advance advance, Nat.add_zero]
    rw [ih fun event member => moved event (List.mem_cons_of_mem _ member)]

namespace Cli
open Layers

theorem runEvents_of_accepted {files : Files} {source : QuerySource} {query : NamedQuery}
    {events : List Event} (read : readQuery files source = .ok query)
    (accepted : parseEvents query.text = .ok events) :
    (runEvents files source).result = .ok ("\n".intercalate (events.map Event.text)) := by
  unfold runEvents
  simp only [read, accepted]

/-- The list of an accepted query's events has the lines of each event's text, one event after the other.
It has a line for each event and one more for each line feed that is written in quotes. So the events
have a line each if and only if no filter key, text value or edge label holds a line feed. -/
theorem events_have_the_lines_of_their_texts {files : Files} {source : QuerySource} {query : NamedQuery}
    {events : List Event} (read : readQuery files source = .ok query)
    (accepted : parseEvents query.text = .ok events) :
    ∃ output, (runEvents files source).result = .ok output ∧
      feedLines output = (events.map Event.text).flatMap feedLines ∧
      (feedLines output).length = events.length + ((events.flatMap Event.quoted).map feeds).sum ∧
      (feedLines output = events.map Event.text ↔
        ∀ text ∈ events.flatMap Event.quoted, '\n' ∉ text.toList) := by
  have filled : events.map Event.text ≠ [] := by
    obtain ⟨tree, -, rfl⟩ := wellFormed_of_parseEvents accepted
    exact List.cons_ne_nil _ _
  have lines := feedLines_intercalate filled
  have feeds := feeds_of_accepted accepted
  refine ⟨_, runEvents_of_accepted read accepted, lines, ?_, ?_⟩
  · rw [lines, length_flatMap_feedLines, feeds, List.length_map]
  · rw [lines, flatMap_feedLines_eq_iff, feeds]
    constructor
    · intro none text member
      apply feeds_eq_zero_iff.mp
      exact List.sum_eq_zero_iff.mp none _ (List.mem_map_of_mem member)
    · intro none
      apply List.sum_eq_zero
      intro count member
      obtain ⟨text, held, rfl⟩ := List.mem_map.mp member
      exact feeds_eq_zero_iff.mpr (none text held)

/-- A text value that holds a line feed takes two lines. -/
theorem line_feed_in_quotes_takes_a_line :
    let source : QuerySource := ⟨some "a*('k', 's\nt')", none⟩
    ∃ output, (runEvents (fun _ => .error .missing) source).result = .ok output ∧
      feedLines output = ["query-enter", "start-enter", "vertex-enter(a)",
        "property-filter(k, negated=false, strings=[s", "t], numbers=[], booleans=[])",
        "vertex-exit(store=true, keys=[k])", "start-exit", "query-exit"] := by
  intro source
  let query : NamedQuery := ⟨"a*('k', 's\nt')", "<query>"⟩
  have accepted : parseEvents query.text = .ok [.queryEnter, .startEnter, .vertexEnter "a",
      .propertyFilter ⟨"k", false, ["s\nt"], [], []⟩, .vertexExit true (some ["k"]), .startExit,
      .queryExit] := by cbv
  obtain ⟨output, result, lines, -⟩ := events_have_the_lines_of_their_texts
    (show readQuery (fun _ => .error .missing) source = .ok query from rfl) accepted
  refine ⟨output, result, ?_⟩
  rw [lines]
  decide

/-- The events of an accepted query do not always have a line each. -/
theorem events_do_not_always_have_a_line_each :
    ¬ ∀ (files : Files) (source : QuerySource) (query : NamedQuery) (events : List Event)
      (output : String), readQuery files source = .ok query → parseEvents query.text = .ok events →
      (runEvents files source).result = .ok output → feedLines output = events.map Event.text := by
  intro right
  let source : QuerySource := ⟨some "a*('x\ny')", none⟩
  let query : NamedQuery := ⟨"a*('x\ny')", "<query>"⟩
  let events : List Event := [.queryEnter, .startEnter, .vertexEnter "a",
    .propertyFilter ⟨"x\ny", false, [], [], []⟩, .vertexExit true (some ["x\ny"]), .startExit, .queryExit]
  have read : readQuery (fun _ => .error .missing) source = .ok query := rfl
  have accepted : parseEvents query.text = .ok events := by cbv
  have alone := right _ source query events _ read accepted (runEvents_of_accepted read accepted)
  have filled : events.map Event.text ≠ [] := List.cons_ne_nil _ _
  rw [feedLines_intercalate filled, flatMap_feedLines_eq_iff] at alone
  exact absurd alone (by decide)

end Cli

end Traversal
