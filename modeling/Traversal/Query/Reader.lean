import Traversal.Query.Construct

/-! Readers: functions that recognise a piece of text and remember, for error messages, which
constructs they tried in vain and where. What a reader recognises never depends on that memory. -/
namespace Traversal

/-- A place in a text: the number of characters passed and the text still ahead. -/
structure Cursor where
  index : Nat
  rest : List Char
  deriving Repr, DecidableEq

/-- The place after a number of further characters. -/
def Cursor.advance (here : Cursor) (count : Nat) : Cursor :=
  ⟨here.index + count, here.rest.drop count⟩

/-- The constructs tried in vain at the furthest place where anything was tried in vain. -/
structure Attempts where
  index : Nat
  constructs : List Construct
  deriving Repr, DecidableEq

namespace Attempts

/-- Nothing has been tried. -/
def none : Attempts := ⟨0, []⟩

/-- The number of constructs recorded at a place. -/
def countAt (attempts : Attempts) (index : Nat) : Nat :=
  if index = attempts.index then attempts.constructs.length else 0

/-- Records that a construct failed at a place where `known` constructs had been recorded when it
was begun. If exactly one part of it was recorded there since, that part tells more and stays. If
several were, the construct as a whole replaces them. Places before the furthest are forgotten. -/
def fail (construct : Construct) (index known : Nat) (attempts : Attempts) : Attempts :=
  if attempts.countAt index = known + 1 then attempts
  else if index = attempts.index then ⟨index, attempts.constructs.take known ++ [construct]⟩
  else if attempts.index < index then ⟨index, [construct]⟩
  else attempts

end Attempts

/-- What a reader finds: a value and the place after it, or nothing; and how it changes the record
of vain attempts. -/
structure Reading (α : Type) where
  found : Option (α × Cursor)
  tried : Attempts → Attempts

/-- A recogniser of texts that stand for values of a type. -/
def Reader (α : Type) : Type := Cursor → Reading α

namespace Reader

variable {α β : Type}

/-- Recognises the empty text. -/
def give (value : α) : Reader α := fun here => ⟨some (value, here), id⟩

/-- Recognises nothing. -/
def never : Reader α := fun _ => ⟨none, id⟩

/-- One reader after the other. -/
def andThen (first : Reader α) (next : α → Reader β) : Reader β := fun here =>
  let reading := first here
  match reading.found with
  | none => ⟨none, reading.tried⟩
  | some (value, there) =>
    let following := next value there
    ⟨following.found, following.tried ∘ reading.tried⟩

instance : Monad Reader where
  pure := give
  bind := andThen

/-- The first reader, or the second from the same place if the first finds nothing. -/
def orElse (first second : Reader α) : Reader α := fun here =>
  let reading := first here
  match reading.found with
  | some _ => reading
  | none =>
    let other := second here
    ⟨other.found, other.tried ∘ reading.tried⟩

/-- The reader's value if it finds one, and the empty text otherwise. -/
def optional (reader : Reader α) : Reader (Option α) :=
  orElse (andThen reader fun value => give (some value)) (give none)

/-- Whether the reader finds anything; if not, the empty text. -/
def present (reader : Reader α) : Reader Bool :=
  orElse (andThen reader fun _ => give true) (give false)

/-- As many items as there are, one after the other. An item that takes no text is the last. -/
def many (item : Reader α) (here : Cursor) : Reading (List α) :=
  let reading := item here
  match reading.found with
  | none => ⟨some ([], here), reading.tried⟩
  | some (value, there) =>
    if there.rest.length < here.rest.length then
      let others := many item there
      ⟨others.found.map fun found => (value :: found.1, found.2), others.tried ∘ reading.tried⟩
    else ⟨some ([value], there), reading.tried⟩
termination_by here.rest.length

/-- The longest text, possibly empty, whose characters all belong to a class. -/
def run (class_ : Char → Bool) : Reader (List Char) := fun here =>
  let taken := here.rest.takeWhile class_
  ⟨some (taken, here.advance taken.length), id⟩

/-- The longest text of at least one character whose characters all belong to a class. -/
def run1 (class_ : Char → Bool) : Reader (List Char) :=
  andThen (run class_) fun taken => if taken.isEmpty then never else give taken

/-- One given character. -/
def symbol (c : Char) : Reader Unit := fun here =>
  match here.rest with
  | d :: rest => if d = c then ⟨some ((), ⟨here.index + 1, rest⟩), id⟩ else ⟨none, id⟩
  | [] => ⟨none, id⟩

/-- A word in letters of either case, as written. The word is given in small letters. -/
def word (letters : List Char) : Reader (List Char) := fun here =>
  let taken := here.rest.take letters.length
  if taken.map Char.toLower = letters then ⟨some (taken, here.advance letters.length), id⟩
  else ⟨none, id⟩

/-- Recognises the empty text where no character of a class stands ahead. -/
def notAhead (class_ : Char → Bool) : Reader Unit := fun here =>
  match here.rest with
  | c :: _ => if class_ c then ⟨none, id⟩ else ⟨some ((), here), id⟩
  | [] => ⟨some ((), here), id⟩

/-- A construct: what the reader recognises, recorded as a vain attempt if it finds nothing. -/
def construct (name : Construct) (reader : Reader α) : Reader α := fun here =>
  let reading := reader here
  match reading.found with
  | some _ => reading
  | none => ⟨none, fun attempts =>
      (reading.tried attempts).fail name here.index (attempts.countAt here.index)⟩

end Reader

end Traversal
