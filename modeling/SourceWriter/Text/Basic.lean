/-! # Texts

A text is the list of its characters. Every part of the library speaks of texts in this form,
so that a statement about what is written is a statement about lists.
-/

namespace SourceWriter

/-- A text is the list of its characters. -/
abbrev Text := List Char

/-- How many bytes a text takes in UTF-8. -/
def Text.byteLength : Text → Nat
  | [] => 0
  | character :: rest => character.utf8Size + byteLength rest

end SourceWriter
