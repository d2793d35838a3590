import SourceWriter.Lexical.Feed

/-! # Blanks and the lexical state

At the start of a line the lexical state is at rest: it is in no line comment and no regular
expression, and nothing is escaped. Blanks leave a state at rest as it is
(`State.AtRest.feedFrom_blank`), so indentation can be read or left out. What follows a blank does
not depend on what stood before it: neither which blank it was nor whether it was escaped
(`State.update_eq_of_blank`).
-/

namespace SourceWriter.Lexical

/-- Whether a character is a space, a tab or part of a line break. -/
def isBlank : Char → Bool
  | ' ' | '\t' | '\r' | '\n' => true
  | _ => false

/-- The blanks are these four. -/
theorem isBlank_iff {character : Char} :
    isBlank character = true ↔
      character = ' ' ∨ character = '\t' ∨ character = '\r' ∨ character = '\n' := by
  unfold isBlank
  split <;> simp_all

theorem isBlank_of_space {character : Char} (space : character = ' ' ∨ character = '\t') :
    isBlank character = true := by
  rcases space with rfl | rfl <;> rfl

namespace LookBehind

/-- There is no last character, or it is blank. -/
def Blank (behind : LookBehind) : Prop :=
  ∀ character ∈ behind.last, isBlank character = true

/-- Two look-behinds that no next character tells apart. -/
def Alike (first second : LookBehind) : Prop :=
  first.last = second.last ∧
    ∀ current, startsRegex first current = startsRegex second current

theorem Alike.refl (behind : LookBehind) : behind.Alike behind :=
  ⟨rfl, fun _ => rfl⟩

/-- Like look-behinds are the same one character further on. -/
theorem Alike.push_eq {first second : LookBehind} (alike : first.Alike second)
    (character : Char) : first.push character = second.push character := by
  simp only [push, alike.1]

/-- Like look-behinds stay alike as texts go on. -/
theorem Alike.append {first second : Text} (alike : (ofText first).Alike (ofText second))
    (part : Text) : (ofText (first ++ part)).Alike (ofText (second ++ part)) := by
  induction part generalizing first second with
  | nil => simpa using alike
  | cons character rest ih =>
      have following : (ofText (first ++ [character])).Alike (ofText (second ++ [character])) := by
        rw [ofText_concat, ofText_concat, alike.push_eq]
        exact .refl _
      simpa using ih following

/-- A look-behind is blank right after a blank. -/
theorem blank_push {character : Char} (blank : isBlank character = true) (behind : LookBehind) :
    (behind.push character).Blank := by
  intro last member
  obtain rfl : character = last := by simpa [push] using member
  exact blank

theorem blank_none (beforeLast : Option Char) : (⟨beforeLast, none⟩ : LookBehind).Blank :=
  fun _ member => nomatch member

/-- There is a blank to look back at after blanks, or if there are none, after what comes before
them. -/
theorem blank_ofText_append {text part : Text}
    (blanks : ∀ character ∈ part, isBlank character = true)
    (before : part = [] → (ofText text).Blank) : (ofText (text ++ part)).Blank := by
  intro character last
  have ending : (text ++ part).getLast? = some character := last
  cases end_ : part.getLast? with
  | none =>
      obtain rfl := List.getLast?_eq_none_iff.mp end_
      rw [List.append_nil] at ending
      exact before rfl character ending
  | some final =>
      rw [List.getLast?_append, end_, Option.some_or] at ending
      obtain rfl := Option.some.inj ending
      exact blanks final (List.mem_of_getLast? end_)

theorem Blank.last_ne {behind : LookBehind} (blank : behind.Blank) {character : Char}
    (visible : isBlank character = false) : behind.last ≠ some character := by
  intro same
  rw [blank character same] at visible
  contradiction

/-- A blank starts no regular expression. -/
theorem Blank.startsRegex {behind : LookBehind} (blank : behind.Blank) (current : Char) :
    startsRegex behind current = false := by
  have noSlash : (behind.last == some '/') = false := beq_false_of_ne (blank.last_ne (by decide))
  simp only [Lexical.startsRegex, noSlash, Bool.false_and]

/-- A character looks the same after whatever blanks. -/
theorem Blank.push_alike {first second : LookBehind} (firstBlank : first.Blank)
    (secondBlank : second.Blank) (character : Char) :
    (first.push character).Alike (second.push character) := by
  have unmarked {behind : LookBehind} (blank : behind.Blank) :
      (behind.last != some '*') = true ∧ (behind.last != some '/') = true :=
    ⟨bne_iff_ne.mpr (blank.last_ne (by decide)), bne_iff_ne.mpr (blank.last_ne (by decide))⟩
  constructor
  · rfl
  · intro current
    simp only [Lexical.startsRegex, push, unmarked firstBlank, unmarked secondBlank]

end LookBehind

variable {behind : LookBehind}

/-- No mark of a comment starts with a blank. -/
theorem commentAfter_of_blank (blank : behind.Blank) (comment : Option Comment)
    (current : Char) : commentAfter comment behind.last current = comment := by
  unfold commentAfter
  split
  · exact absurd ‹_› (blank.last_ne (by decide))
  · exact absurd ‹_› (blank.last_ne (by decide))
  · exact absurd ‹_› (blank.last_ne (by decide))
  · rfl

/-- No hole opens right after a blank, escaped or not. -/
theorem contextsAfter_of_blank (blank : behind.Blank) (contexts : List Context)
    (current : Char) (escaped lastEscaped : Bool) :
    contextsAfter contexts behind.last current escaped lastEscaped =
      contextsAfter contexts none current escaped false := by
  have noDollar : behind.last ≠ some '$' := blank.last_ne (by decide)
  unfold contextsAfter
  simp only [noDollar, reduceCtorEq, false_and, ↓reduceIte]

namespace State

/-- Nothing that ends with a line is open: the end of a line would change nothing. -/
def AtRest (state : State) : Prop :=
  state.endLine = state

/-- The state as if its last character had not been escaped. -/
def forgetEscaped (state : State) : State :=
  { state with justEscaped := false }

/-- At the end of a line everything is at rest. -/
theorem atRest_endLine (state : State) : state.endLine.AtRest := by
  unfold AtRest endLine
  split <;> simp_all

/-- A state at rest is in no regular expression. -/
theorem AtRest.inRegex {state : State} (rest : state.AtRest) : state.inRegex = false :=
  (congrArg State.inRegex rest).symm

theorem AtRest.escaping {state : State} (rest : state.AtRest) : state.escaping = false :=
  (congrArg State.escaping rest).symm

theorem AtRest.justEscaped {state : State} (rest : state.AtRest) : state.justEscaped = false :=
  (congrArg State.justEscaped rest).symm

@[simp] theorem endLine_forgetEscaped (state : State) :
    state.forgetEscaped.endLine = state.endLine := rfl

/-- Like look-behinds lead to the same state. -/
theorem update_congr {first second : LookBehind} (alike : first.Alike second) (state : State)
    (current : Char) : state.update first current = state.update second current := by
  simp only [update, advance, alike.1, alike.2 current]

/-- Where the characters before a text are alike, the text does the same to the state. -/
theorem feedFrom_congr {first second : LookBehind} (alike : first.Alike second) (state : State)
    (text : Text) : state.feedFrom first text = state.feedFrom second text := by
  cases text with
  | nil => rfl
  | cons current rest => simp only [feedFrom, update_congr alike, alike.push_eq]

variable {behind : LookBehind}

/-- After a blank there is no mark of a comment, and no brace opens a hole. -/
theorem nest_of_blank (blank : behind.Blank) (state : State) (current : Char) :
    state.nest behind.last current =
      { state with
        contexts :=
          if state.inComment then state.contexts
          else contextsAfter state.contexts none current state.escaping false } := by
  simp only [nest, commentAfter_of_blank blank, contextsAfter_of_blank blank, ite_self, inComment]
  by_cases inside : state.comment.isSome = true
  · simp only [inside, ↓reduceIte]
  · simp only [inside, ↓reduceIte, Bool.false_eq_true]

/-- After a blank, a character at most opens or closes a context, unless a line feed ends a
regular expression there. -/
theorem update_of_blank (blank : behind.Blank) {state : State}
    (goesOn : state.inRegex = true → behind.last ≠ some '\n') (current : Char) :
    state.update behind current =
      { state with
        contexts :=
          if state.inRegex || !isSignificant current || state.inComment then state.contexts
          else contextsAfter state.contexts none current state.escaping false
        escaping := current == '\\' && !state.escaping
        justEscaped := state.escaping } := by
  by_cases regex : state.inRegex = true
  · have noSlash : (behind.last == some '/') = false := beq_false_of_ne (blank.last_ne (by decide))
    have noFeed : (behind.last == some '\n') = false := beq_false_of_ne (goesOn regex)
    have unended : state.regexEnded behind.last = false := by simp [regexEnded, noSlash, noFeed]
    simp [update, advance, regex, unended]
  · by_cases significant : isSignificant current = true
    · simp [update, advance, regex, significant, blank.startsRegex, nest_of_blank blank]
    · simp [update, advance, regex, significant]

/-- What follows a blank does not depend on the blank, nor on whether it was escaped. -/
theorem update_eq_of_blank {first second : LookBehind} (firstBlank : first.Blank)
    (secondBlank : second.Blank) {state other : State}
    (same : state.forgetEscaped = other.forgetEscaped)
    (firstOn : state.inRegex = true → first.last ≠ some '\n')
    (secondOn : other.inRegex = true → second.last ≠ some '\n') (current : Char) :
    state.update first current = other.update second current := by
  rw [update_of_blank firstBlank firstOn, update_of_blank secondBlank secondOn]
  obtain ⟨comment, contexts, inRegex, escaping, justEscaped⟩ := state
  obtain ⟨comment', contexts', inRegex', escaping', justEscaped'⟩ := other
  obtain ⟨rfl, rfl, rfl, rfl⟩ : comment = comment' ∧ contexts = contexts' ∧ inRegex = inRegex' ∧
      escaping = escaping' := by simpa [forgetEscaped] using same
  rfl

/-- What follows a blank at rest does not depend on what stands before it. -/
theorem AtRest.feedFrom_congr {state : State} (rest : state.AtRest) {first second : LookBehind}
    (firstBlank : first.Blank) (secondBlank : second.Blank) (text : Text) :
    state.feedFrom first text = state.feedFrom second text := by
  cases text with
  | nil => rfl
  | cons current following =>
      have step : state.update first current = state.update second current :=
        update_eq_of_blank firstBlank secondBlank rfl (by simp [rest.inRegex])
          (by simp [rest.inRegex]) current
      rw [feedFrom, feedFrom, step]
      exact State.feedFrom_congr (firstBlank.push_alike secondBlank current) _ following

/-- A blank leaves comments and contexts as they are. -/
theorem nest_blank {current : Char} (blank : isBlank current = true) (state : State)
    (last : Option Char) : state.nest last current = state := by
  have comment : commentAfter state.comment last current = state.comment := by
    unfold commentAfter
    split <;> simp_all [isBlank]
  have contexts : contextsAfter state.contexts last current state.escaping state.justEscaped =
      state.contexts := by
    rcases isBlank_iff.mp blank with rfl | rfl | rfl | rfl <;> rfl
  simp only [nest, comment, contexts, ite_self]

/-- A blank leaves a state at rest as it is. -/
theorem AtRest.update_blank {state : State} (rest : state.AtRest) (blank : behind.Blank)
    {current : Char} (blankNext : isBlank current = true) :
    state.update behind current = state := by
  have unmoved : state.advance behind current = state := by
    simp [advance, rest.inRegex, blank.startsRegex, nest_blank blankNext]
  have noBackslash : (current == '\\') = false := by
    rcases isBlank_iff.mp blankNext with rfl | rfl | rfl | rfl <;> rfl
  rw [update, unmoved, noBackslash, Bool.false_and]
  obtain ⟨comment, contexts, inRegex, escaping, justEscaped⟩ := state
  obtain rfl : escaping = false := rest.escaping
  obtain rfl : justEscaped = false := rest.justEscaped
  rfl

/-- Blanks leave a state at rest as it is. -/
theorem AtRest.feedFrom_blank {state : State} (rest : state.AtRest) (blank : behind.Blank)
    {text : Text} (blanks : ∀ character ∈ text, isBlank character = true) :
    state.feedFrom behind text = state := by
  induction text generalizing behind with
  | nil => rfl
  | cons current following ih =>
      have blankNext : isBlank current = true := blanks current List.mem_cons_self
      rw [feedFrom, rest.update_blank blank blankNext]
      apply ih (LookBehind.blank_push blankNext behind)
      intro character member
      exact blanks character (List.mem_cons_of_mem _ member)

/-- A state at rest reads on from a blank as if it had read no other blanks before. -/
theorem AtRest.feed_blanks_append {state : State} (rest : state.AtRest) {previous other part : Text}
    (blank : (LookBehind.ofText previous).Blank) (otherBlank : (LookBehind.ofText other).Blank)
    (blanks : ∀ character ∈ part, isBlank character = true) (text : Text) :
    state.feed previous (part ++ text) = state.feed other text := by
  have unmoved : state.feed previous part = state := rest.feedFrom_blank blank blanks
  have blankStill := LookBehind.blank_ofText_append blanks fun _ => blank
  rw [feed_append, unmoved]
  exact rest.feedFrom_congr blankStill otherBlank text

/-- A space or a tab closes at most a regular expression that its slash has ended. -/
theorem update_space {current : Char} (space : current = ' ' ∨ current = '\t') (state : State)
    (behind : LookBehind) :
    state.update behind current =
      { state with
        inRegex := state.inRegex && !state.regexEnded behind.last
        escaping := false
        justEscaped := state.escaping } := by
  have blank : isBlank current = true := isBlank_of_space space
  have plain : isSignificant current = false := by
    rcases space with rfl | rfl <;> rfl
  have noBackslash : (current == '\\') = false := by
    rcases space with rfl | rfl <;> rfl
  cases regex : state.inRegex <;> cases ended : state.regexEnded behind.last <;>
    simp [update, advance, regex, ended, plain, noBackslash, nest_blank blank]

/-- The state after spaces and tabs, as if no backslash had escaped one of them. -/
def spaced (state : State) (last : Option Char) : State :=
  { state with
    inRegex := state.inRegex && !state.regexEnded last
    escaping := false
    justEscaped := false }

/-- Where nothing was to be ended or escaped, spaces and tabs change nothing. -/
theorem spaced_eq_self {state : State} {last : Option Char} (unescaping : state.escaping = false)
    (unended : state.regexEnded last = false) : state.spaced last = state.forgetEscaped := by
  simp only [spaced, forgetEscaped, unended, unescaping, Bool.not_false, Bool.and_true]

/-- Spaces and tabs close at most a regular expression that its slash has ended before them. -/
theorem forgetEscaped_feed_spaces {part : Text} (nonempty : part ≠ [])
    (spaces : ∀ character ∈ part, character = ' ' ∨ character = '\t') (state : State)
    (previous : Text) :
    (state.feed previous part).forgetEscaped = state.spaced previous.getLast? := by
  induction part generalizing state previous with
  | nil => contradiction
  | cons character rest ih =>
      have space := spaces character List.mem_cons_self
      rw [feed_cons, update_space space]
      by_cases last : rest = []
      · subst last
        rfl
      · have spacesLeft : ∀ other ∈ rest, other = ' ' ∨ other = '\t' := by
          intro other member
          exact spaces other (List.mem_cons_of_mem _ member)
        have unended (other : State) : other.regexEnded (some character) = false := by
          rcases space with rfl | rfl <;> simp [regexEnded]
        have final : (previous ++ [character]).getLast? = some character := by simp
        rw [ih last spacesLeft, final, spaced_eq_self rfl (unended _)]
        rfl

end State

end SourceWriter.Lexical
