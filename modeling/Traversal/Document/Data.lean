/-! Data: what a settings or schema file holds, whatever format it is written in. -/
namespace Traversal.Document

/-- A value of a file. Fractions and moments in time are kept apart from the rest, but what they are
is of no use to anyone here. A text, or a record with a key, that denotes no text is unreadable; it
may stand where nobody looks at it. The entries of a record stand in the order of the format, and a
format that lets a key repeat repeats it here. -/
inductive Data
  | null
  | boolean (value : Bool)
  | integer (value : Int)
  | fraction
  | moment
  | unreadable
  | text (value : String)
  | list (items : List Data)
  | record (entries : List (String × Data))
  deriving Repr

end Traversal.Document
