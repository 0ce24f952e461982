import Traversal.Proofs.Spelling
import Traversal.Step

/-! Delimiters in generated text. A scan from the left reads a quoted text, with its escapes, as one
piece and keeps a stack of the brackets that are open outside quoted texts. Every argument of a call
leaves the stack as it was, whatever characters its texts hold, because they are escaped. -/
namespace Traversal.Delimiters
open Text (Quoted.mark Quoted.escape Quoted.encode)

/-- A bracket that is open. -/
inductive Bracket
  | round
  | square
  deriving Repr, DecidableEq

/-- Whether a scan stands outside quoted texts, inside one, or behind an escape inside one. -/
inductive Mode
  | plain
  | quoted
  | escaped
  deriving Repr, DecidableEq

/-- How far a scan has come: its mode and the brackets that are open, the innermost first. -/
structure Scan where
  mode : Mode
  opened : List Bracket
  deriving Repr, DecidableEq

/-- The mode behind one more character. -/
def Mode.next : Mode → Char → Mode
  | .plain, c => if c = Quoted.mark then .quoted else .plain
  | .quoted, c =>
    if c = Quoted.mark then .plain else if c = Quoted.escape then .escaped else .quoted
  | .escaped, _ => .quoted

/-- The bracket that a character opens. -/
def opening? (c : Char) : Option Bracket :=
  if c = '(' then some .round else if c = '[' then some .square else none

/-- The bracket that a character closes. -/
def closing? (c : Char) : Option Bracket :=
  if c = ')' then some .round else if c = ']' then some .square else none

/-- The brackets that are open behind one more character outside quoted texts. A character can close
only the bracket that was opened last. -/
def nest (opened : List Bracket) (c : Char) : Option (List Bracket) :=
  match opening? c, closing? c with
  | some bracket, _ => some (bracket :: opened)
  | none, some bracket => if opened.head? = some bracket then some opened.tail else none
  | none, none => some opened

/-- The scan behind one more character. -/
def Scan.read (scan : Scan) (c : Char) : Option Scan :=
  match scan.mode with
  | .plain => (nest scan.opened c).map fun opened => ⟨scan.mode.next c, opened⟩
  | mode => some ⟨mode.next c, scan.opened⟩

/-- The scan behind a text. -/
def Scan.readAll : Scan → List Char → Option Scan
  | scan, [] => some scan
  | scan, c :: rest => (scan.read c).bind (Scan.readAll · rest)

/-- In front of all text nothing is open. -/
def Scan.start : Scan := ⟨.plain, []⟩

/-- The characters of a text that stand outside quoted texts. -/
def unquoted : Mode → List Char → List Char
  | _, [] => []
  | .plain, c :: rest => c :: unquoted (Mode.plain.next c) rest
  | mode, c :: rest => unquoted (mode.next c) rest

/-- The number of brackets that a text opens outside quoted texts. -/
def openers (mode : Mode) (text : List Char) : Nat :=
  (unquoted mode text).countP fun c => (opening? c).isSome

/-- The number of brackets that a text closes outside quoted texts. -/
def closers (mode : Mode) (text : List Char) : Nat :=
  (unquoted mode text).countP fun c => (closing? c).isSome

/-- A text is balanced if the scan of it finds every closing bracket to match the bracket opened last,
and if at its end no quoted text and no bracket is open; in every part from the left, no more brackets
are closed than opened. -/
structure Balanced (text : List Char) : Prop where
  closed : Scan.start.readAll text = some Scan.start
  upright : ∀ front back, text = front ++ back →
    (∃ scan, Scan.start.readAll front = some scan) ∧ closers .plain front ≤ openers .plain front

/-! ## Scans -/

section

variable {scan scan' : Scan} {c : Char}

theorem readAll_append (scan : Scan) (front back : List Char) :
    scan.readAll (front ++ back) = (scan.readAll front).bind (Scan.readAll · back) := by
  induction front generalizing scan with
  | nil => rfl
  | cons c rest ih =>
    rw [List.cons_append, Scan.readAll, Scan.readAll]
    cases scan.read c with
    | none => rfl
    | some next => exact ih next

/-- A scan behind a text has read each part of it from the left. -/
theorem readAll_front {front back : List Char} (read : scan.readAll (front ++ back) = some scan') :
    ∃ middle, scan.readAll front = some middle := by
  rw [readAll_append] at read
  obtain ⟨middle, found, -⟩ := Option.bind_eq_some_iff.mp read
  exact ⟨middle, found⟩

/-- One character outside quoted texts opens or closes at most one bracket. -/
theorem length_nest {opened opened' : List Bracket} (nested : nest opened c = some opened') :
    opened.length + (opening? c).toList.length = opened'.length + (closing? c).toList.length := by
  unfold nest at nested
  cases first : opening? c with
  | some bracket =>
    have last : closing? c = none := by
      unfold opening? at first
      unfold closing?
      split at first
      · simp_all
      · split at first <;> simp_all
    rw [first, last] at nested
    cases nested
    simp [last]
  | none =>
    rw [first] at nested
    cases last : closing? c with
    | none =>
      rw [last] at nested
      cases nested
      rfl
    | some bracket =>
      rw [last] at nested
      cases opened with
      | nil => cases nested
      | cons top rest =>
        dsimp only at nested
        split at nested
        · cases nested
          rfl
        · cases nested

/-- Along a scan, what is open is what was opened and not closed. -/
theorem length_opened {text : List Char} (read : scan.readAll text = some scan') :
    scan.opened.length + openers scan.mode text =
      scan'.opened.length + closers scan.mode text := by
  induction text generalizing scan with
  | nil =>
    cases read
    rfl
  | cons c rest ih =>
    obtain ⟨next, step, others⟩ := Option.bind_eq_some_iff.mp read
    have behind := ih others
    obtain ⟨mode, opened⟩ := scan
    cases mode with
    | plain =>
      obtain ⟨opened', nested, rfl⟩ := Option.map_eq_some_iff.mp step
      have counted := length_nest nested
      have first : openers .plain (c :: rest) =
          openers (Mode.plain.next c) rest + (opening? c).toList.length := by
        cases bracket : opening? c <;> simp [openers, unquoted, bracket]
      have last : closers .plain (c :: rest) =
          closers (Mode.plain.next c) rest + (closing? c).toList.length := by
        cases bracket : closing? c <;> simp [closers, unquoted, bracket]
      rw [first, last]
      dsimp only at behind counted ⊢
      omega
    | quoted | escaped =>
      cases step
      exact behind

theorem balanced_of_readAll {text : List Char}
    (read : Scan.start.readAll text = some Scan.start) : Balanced text where
  closed := read
  upright := by
    rintro front back rfl
    obtain ⟨scan, found⟩ := readAll_front read
    have counted := length_opened found
    refine ⟨⟨scan, found⟩, ?_⟩
    change 0 + openers .plain front = scan.opened.length + closers .plain front at counted
    omega

end

/-! ## Neutral text -/

/-- Text behind which the same brackets are open as in front of it, and no quoted text. -/
def Neutral (text : List Char) : Prop :=
  ∀ opened, Scan.readAll ⟨.plain, opened⟩ text = some ⟨.plain, opened⟩

/-- The characters that a scan looks at: quote marks, escapes and brackets. -/
def delimiters : List Char := [Quoted.mark, Quoted.escape, '(', ')', '[', ']']

/-- Whether a text is free of delimiters. -/
def isPlain (text : List Char) : Bool := text.all fun c => !delimiters.contains c

section

variable {first second text : List Char} {items : List (List Char)}

theorem neutral_nil : Neutral [] := fun _ => rfl

theorem Neutral.append (left : Neutral first) (right : Neutral second) :
    Neutral (first ++ second) := by
  intro opened
  rw [readAll_append, left opened]
  exact right opened

/-- Text without delimiters is neutral. -/
theorem neutral_of_plain (plain : isPlain text = true) : Neutral text := by
  induction text with
  | nil => exact neutral_nil
  | cons c rest ih =>
    intro opened
    obtain ⟨free, plain⟩ := Bool.and_eq_true_iff.mp plain
    simp only [delimiters, List.contains_eq_mem, Bool.not_eq_true', decide_eq_false_iff_not,
      List.mem_cons, List.not_mem_nil, or_false, not_or] at free
    obtain ⟨unmarked, -, round, round', square, square'⟩ := free
    have first : opening? c = none := by rw [opening?, if_neg round, if_neg square]
    have last : closing? c = none := by rw [closing?, if_neg round', if_neg square']
    have step : Scan.read ⟨.plain, opened⟩ c = some ⟨.plain, opened⟩ := by
      simp only [Scan.read, nest, first, last, Mode.next, if_neg unmarked, Option.map_some]
    rw [Scan.readAll, step]
    exact ih plain opened

/-- Behind its encoded characters a quoted text is still open. -/
theorem readAll_encode (text : List Char) (opened : List Bracket) :
    Scan.readAll ⟨.quoted, opened⟩ (Quoted.encode text) = some ⟨.quoted, opened⟩ := by
  induction text with
  | nil => rfl
  | cons c rest ih =>
    rw [Quoted.encode]
    split
    · exact ih
    · rename_i ordinary
      simp only [Text.Quoted.isSpecial, Bool.or_eq_true, beq_iff_eq, not_or] at ordinary
      have step : Scan.read ⟨.quoted, opened⟩ c = some ⟨.quoted, opened⟩ := by
        simp only [Scan.read, Mode.next, if_neg ordinary.1, if_neg ordinary.2]
      rw [Scan.readAll, step]
      exact ih

/-- A quoted text is neutral whatever it holds. -/
theorem neutral_quoteText (text : String) : Neutral (quoteText text) := by
  intro opened
  have inside : Scan.readAll ⟨.quoted, opened⟩ (Quoted.encode text.toList ++ [Quoted.mark]) =
      some ⟨.plain, opened⟩ := by
    rw [readAll_append, readAll_encode]
    rfl
  exact inside

/-- Neutral text between brackets of one kind is neutral. -/
theorem Neutral.enclosed (neutral : Neutral text) :
    Neutral ('(' :: (text ++ [')'])) ∧ Neutral ('[' :: (text ++ [']'])) := by
  constructor
  · intro opened
    have inside : Scan.readAll ⟨.plain, .round :: opened⟩ (text ++ [')']) =
        some ⟨.plain, opened⟩ := by
      rw [readAll_append, neutral]
      rfl
    exact inside
  · intro opened
    have inside : Scan.readAll ⟨.plain, .square :: opened⟩ (text ++ [']']) =
        some ⟨.plain, opened⟩ := by
      rw [readAll_append, neutral]
      rfl
    exact inside

theorem neutral_intercalate (neutral : ∀ item ∈ items, Neutral item) :
    Neutral (", ".toList.intercalate items) := by
  induction items with
  | nil => exact neutral_nil
  | cons item rest ih =>
    have first := neutral item List.mem_cons_self
    have others := ih fun item member => neutral item (List.mem_cons_of_mem _ member)
    cases rest with
    | nil => simpa using first
    | cons second rest =>
      rw [List.intercalate_cons_cons]
      exact (first.append (neutral_of_plain (by decide))).append others

theorem neutral_listText (neutral : ∀ item ∈ items, Neutral item) : Neutral (listText items) :=
  (neutral_intercalate neutral).enclosed.2

/-- A call is neutral if its arguments are. -/
theorem neutral_callText {function : String}
    (plain : isPlain ('.' :: function.toList) = true)
    (neutral : ∀ item ∈ items, Neutral item) : Neutral (callText function items) :=
  (neutral_of_plain plain).append (neutral_intercalate neutral).enclosed.1

end

end Traversal.Delimiters
