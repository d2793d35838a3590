import Mathlib.Data.List.Infix
import SourceWriter.Lexical.Feed

/-! # Feeding text in pieces

While a text is fed, the two characters to look back at move along with it; where it is fed in
pieces, they are taken anew from the end of what was there before each piece. Both come to the same
(`State.feed_append`), also where there were no two characters yet. So a state that is fed pieces
comes through the states that it would have after the first of them, the first two and so on, each
fed whole (`State.statesThrough_eq`), and how a text is cut makes no difference
(`State.feed_in_pieces`).
-/

namespace SourceWriter.Lexical.State

/-- The states that pieces of a text lead through, from the one before the first piece to the one
after the last. Each piece is appended to all that was there before it. -/
def statesThrough (state : State) (previous : Text) : List Text → List State
  | [] => [state]
  | piece :: rest => state :: (state.feed previous piece).statesThrough (previous ++ piece) rest

/-- The states on the way through pieces are those after each prefix of the pieces, fed as one
text. -/
theorem statesThrough_eq (state : State) (previous : Text) (pieces : List Text) :
    state.statesThrough previous pieces =
      pieces.inits.map fun fed => state.feed previous fed.flatten := by
  induction pieces generalizing state previous with
  | nil => rfl
  | cons piece rest ih =>
      have later (fed : List Text) :
          (state.feed previous piece).feed (previous ++ piece) fed.flatten =
            state.feed previous (piece :: fed).flatten := by
        rw [List.flatten_cons, feed_append]
      rw [statesThrough, ih, List.inits_cons, List.map_cons, List.map_map]
      simp only [later, List.flatten_nil, feed_nil, Function.comp_def]

theorem getLast?_statesThrough (state : State) (previous : Text) (pieces : List Text) :
    (state.statesThrough previous pieces).getLast? = some (state.feed previous pieces.flatten) := by
  induction pieces generalizing state previous with
  | nil => rfl
  | cons piece rest ih =>
      rw [statesThrough, List.getLast?_cons, ih, Option.getD_some, List.flatten_cons, feed_append]

/-- One character at a time, the states are those of the prefixes of the text. -/
theorem statesThrough_characters (state : State) (previous text : Text) :
    state.statesThrough previous (text.map fun character => [character]) =
      text.inits.map (state.feed previous) := by
  rw [statesThrough_eq, List.map_inits, List.map_map]
  simp only [Function.comp_def, ← List.flatMap_def, List.flatMap_singleton']

/-- **Feeding in pieces is feeding whole.** From any state, whether or not it comes of any text, and
behind any text, feeding two texts in a row is feeding the one and then the other behind it. Fed in
any pieces, the state comes through those of the texts that the pieces make up, and to that of the
whole text; fed one character at a time, it comes through the states of all prefixes. -/
theorem feed_in_pieces (state : State) (previous : Text) :
    (∀ first second : Text, state.feed previous (first ++ second) =
      (state.feed previous first).feed (previous ++ first) second) ∧
    (∀ pieces : List Text,
      state.statesThrough previous pieces =
          (pieces.inits.map fun fed => state.feed previous fed.flatten) ∧
        (state.statesThrough previous pieces).getLast? =
          some (state.feed previous pieces.flatten)) ∧
    ∀ text : Text,
      state.statesThrough previous (text.map fun character => [character]) =
        text.inits.map (state.feed previous) := by
  refine ⟨state.feed_append previous, ?_, state.statesThrough_characters previous⟩
  intro pieces
  exact ⟨state.statesThrough_eq previous pieces, state.getLast?_statesThrough previous pieces⟩

end SourceWriter.Lexical.State
