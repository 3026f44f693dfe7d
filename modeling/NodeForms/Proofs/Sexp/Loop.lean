import NodeForms.Proofs.Sexp.Refusals
import Mathlib.Logic.Relation

/-!
# The reader as a loop

The reader once more as a loop over positions of the text, with each operation that can fail by
itself: looking at the character behind a backslash, taking a list off the stack, and converting
digits, of which only so many can be. Every step moves on by at least one character, none of these
operations fails as long as the runs of digits are short enough, and the loop comes to what the
reader comes to.
-/

namespace NodeForms

namespace Sexp

/-- Why the loop stops without a value. -/
inductive LoopFailure where
  | refused (error : ReadError)
  | pastEnd
  | emptyStack
  | tooManyDigits
deriving DecidableEq

/-- The content of a quoted body that starts at an offset, read on from an index. -/
def unquoteAt (offset : Nat) (body : List Char) (index : Nat) (content : List Char) :
    Except LoopFailure (List Char) :=
  if inside : index < body.length then
    if body[index] = '\\' then
      match body[index + 1]? with
      | none => .error .pastEnd
      | some letter =>
          match unescapeChar letter with
          | none => .error (.refused ⟨.unknownEscape letter, offset + index⟩)
          | some meant => unquoteAt offset body (index + 2) (content ++ [meant])
    else unquoteAt offset body (index + 1) (content ++ [body[index]])
  else .ok content
termination_by body.length - index

def popList : List (List Sexp) → Except LoopFailure (List Sexp × List (List Sexp))
  | [] => .error .emptyStack
  | innermost :: outer => .ok (innermost, outer)

/-- The integer of a run, if no more digits than the limit have to be converted. -/
def convertRun (limit : Nat) (run : List Char) : Except LoopFailure Int :=
  if limit < (run.filter Char.isDigit).length then .error .tooManyDigits
  else .ok (integerOfRun run)

/-- Put a value that ends with the token at a position where it belongs. -/
def ReadState.keep (state : ReadState) (position : Nat) (value : Sexp) :
    Except LoopFailure ReadState :=
  (state.add position value).mapError .refused

/-- What one token at a position does to the lists. -/
def ReadState.takeToken (limit position : Nat) (state : ReadState) :
    Token → Except LoopFailure ReadState
  | .opening => .ok { state with openLists := [] :: state.openLists }
  | .closing =>
      if state.openLists.isEmpty then .error (.refused ⟨.unmatchedClosing, position⟩)
      else do
        let (innermost, outer) ← popList state.openLists
        { state with openLists := outer }.keep position (.seq innermost.reverse)
  | .quotedAtom body => do
      let content ← unquoteAt (position + 2) body 0 []
      state.keep position (.atom (String.ofList content))
  | .quotedText body => do
      let content ← unquoteAt (position + 1) body 0 []
      state.keep position (.text (String.ofList content))
  | .bare run =>
      if isIntegerRun run then do
        let value ← convertRun limit run
        state.keep position (.int value)
      else state.keep position (.atom (String.ofList run))

structure LoopState where
  position : Nat := 0
  lists : ReadState := {}

inductive LoopStep where
  | next (state : LoopState)
  | stop (result : Except LoopFailure Sexp)

/-- One step of the loop: the run of blanks or the token at the position, or what comes of the
lists at the end of the text. -/
def loopStep (limit : Nat) (text : List Char) (state : LoopState) : LoopStep :=
  match text.drop state.position with
  | [] => .stop ((state.lists.finish text.length).mapError .refused)
  | first :: rest =>
      if isBlank first then
        .next { state with
          position := state.position + ((first :: rest).takeWhile isBlank).length }
      else
        match Token.next? first rest with
        | none => .stop (.error (.refused ⟨.unexpectedCharacter first, state.position⟩))
        | some (token, _) =>
            match state.lists.takeToken limit state.position token with
            | .error failure => .stop (.error failure)
            | .ok lists => .next ⟨state.position + token.width, lists⟩

/-- What the loop comes to in so many steps, if they are enough. -/
def runLoop (limit : Nat) (text : List Char) : Nat → LoopState → Option (Except LoopFailure Sexp)
  | 0, _ => none
  | steps + 1, state =>
      match loopStep limit text state with
      | .next state => runLoop limit text steps state
      | .stop result => some result

/-- The states the loop goes through on a text. -/
def Visits (limit : Nat) (text : List Char) (state : LoopState) : Prop :=
  Relation.ReflTransGen (fun earlier later => loopStep limit text earlier = .next later) {} state

/-- No run of digits in a text is longer than a limit. -/
def DigitsWithin (limit : Nat) (text : List Char) : Prop :=
  ∀ digits, IsDigits digits → digits <:+: text → digits.length ≤ limit

theorem unquoteAt_append {tail : List Char} (isBody : IsBody tail) (offset : Nat)
    (front content : List Char) :
    unquoteAt offset (front ++ tail) front.length content =
      ((unquote (offset + front.length) tail).map (content ++ ·)).mapError .refused := by
  -- The index stands between pairs and plain characters, never behind a backslash, so a backslash
  -- at the index has its character in the body.
  induction isBody generalizing front content with
  | nil => simp [unquoteAt, unquote, Except.map, Except.mapError]
  | @plain c rest noQuote noSlash _ ih =>
      have further := ih (front ++ [c]) (content ++ [c])
      have same : front ++ [c] ++ rest = front ++ c :: rest := by simp
      rw [same, List.length_append, List.length_singleton, ← Nat.add_assoc] at further
      rw [unquoteAt, dif_pos (by simp), if_neg (by simpa using noSlash),
        unquote.eq_3 _ c rest (fun _ _ slash => absurd slash noSlash)]
      simp only [List.getElem_append_right (Nat.le_refl _), Nat.sub_self, List.getElem_cons_zero]
      rw [further]
      cases unquote (offset + front.length + 1) rest <;> simp [Except.map, Except.mapError]
  | @pair c rest _ ih =>
      have ahead : (front ++ '\\' :: c :: rest)[front.length + 1]? = some c := by simp
      rw [unquoteAt, dif_pos (by simp), if_pos (by simp), unquote]
      simp only [ahead]
      cases meantEq : unescapeChar c with
      | none => rfl
      | some meant =>
          have further := ih (front ++ ['\\', c]) (content ++ [meant])
          have same : front ++ ['\\', c] ++ rest = front ++ '\\' :: c :: rest := by simp
          rw [same, List.length_append, List.length_cons, List.length_singleton,
            ← Nat.add_assoc] at further
          dsimp only
          rw [further]
          cases unquote (offset + front.length + 2) rest <;> simp [Except.map, Except.mapError]

theorem unquoteAt_eq {body : List Char} (isBody : IsBody body) (offset : Nat) :
    unquoteAt offset body 0 [] = (unquote offset body).mapError .refused := by
  have whole := unquoteAt_append isBody offset [] []
  simp only [List.nil_append, List.length_nil, Nat.add_zero] at whole
  rw [whole]
  cases unquote offset body <;> rfl

theorem convertRun_eq {limit : Nat} {text run after before : List Char}
    (within : DigitsWithin limit text) (part : text = before ++ (run ++ after))
    (integer : isIntegerRun run = true) : convertRun limit run = .ok (integerOfRun run) := by
  have few : ¬limit < (run.filter Char.isDigit).length := by
    rw [Nat.not_lt]
    obtain isNumber | ⟨digits, rfl, isNumber⟩ := isIntegerRun_eq_true_iff.mp integer
    · rw [List.filter_eq_self.mpr isNumber.2]
      exact within run isNumber ⟨before, after, by simp [part]⟩
    · rw [List.filter_cons_of_neg (by decide), List.filter_eq_self.mpr isNumber.2]
      exact within digits isNumber ⟨before ++ ['-'], after, by simp [part]⟩
  rw [convertRun, if_neg few]

theorem takeToken_eq {limit : Nat} {text before chars after : List Char} {token : Token}
    (within : DigitsWithin limit text) (part : text = before ++ chars)
    (starts : Starts chars token after) (position : Nat) (state : ReadState) :
    state.takeToken limit position token = (state.accept position token).mapError .refused := by
  cases starts with
  | opening => rfl
  | closing =>
      obtain ⟨openLists, result⟩ := state
      cases openLists <;> rfl
  | quotedAtom isBody =>
      rw [ReadState.takeToken, unquoteAt_eq isBody, ReadState.accept]
      cases unquote (position + 2) _ <;> rfl
  | quotedText isBody =>
      rw [ReadState.takeToken, unquoteAt_eq isBody, ReadState.accept]
      cases unquote (position + 1) _ <;> rfl
  | @bare run _ filled isBare ends noAtom =>
      rw [ReadState.takeToken, ReadState.accept, ofBareRun]
      by_cases integer : isIntegerRun run = true
      · rw [if_pos integer, if_pos integer, convertRun_eq within part integer]
        rfl
      · rw [if_neg integer, if_neg integer]
        rfl

/-- What a step does from a position in the text: it moves on by at least one character, with
the same reading still to come, or it stops with what the reading comes to. -/
inductive StepsAs (text : List Char) (state : LoopState) : LoopStep → Prop
  | next {next : LoopState} (moves : state.position < next.position)
      (inside : next.position ≤ text.length)
      (same : readFrom state.position state.lists (text.drop state.position) =
        readFrom next.position next.lists (text.drop next.position)) :
      StepsAs text state (.next next)
  | value {value : Sexp}
      (same : readFrom state.position state.lists (text.drop state.position) = .ok value) :
      StepsAs text state (.stop (.ok value))
  | refused {error : ReadError}
      (same : readFrom state.position state.lists (text.drop state.position) = .error error)
      (fails : state.lists.Fails state.position (text.drop state.position) error) :
      StepsAs text state (.stop (.error (.refused error)))

theorem drop_add_length {text front after : List Char} {position : Nat}
    (cut : text.drop position = front ++ after) :
    text.drop (position + front.length) = after := by
  rw [← List.drop_drop, cut, List.drop_left]

theorem add_length_le {text front after : List Char} {position : Nat}
    (inside : position ≤ text.length) (cut : text.drop position = front ++ after) :
    position + front.length ≤ text.length := by
  have lengths := congrArg List.length cut
  rw [List.length_drop, List.length_append] at lengths
  omega

theorem loopStep_end {limit : Nat} {text : List Char} {state : LoopState}
    (atEnd : state.position = text.length) :
    StepsAs text state (loopStep limit text state) := by
  have nothing : text.drop state.position = [] := by rw [atEnd, List.drop_length]
  have finished : readFrom state.position state.lists (text.drop state.position) =
      state.lists.finish state.position := by rw [nothing, readFrom_nil]
  rw [loopStep, nothing, ← atEnd]
  cases result : state.lists.finish state.position with
  | ok value => exact .value (finished.trans result)
  | error error =>
      refine .refused (finished.trans result) ?_
      rw [nothing]
      exact ReadState.fails_of_finish result

theorem loopStep_blanks {limit : Nat} {text rest : List Char} {first : Char} {state : LoopState}
    (inside : state.position ≤ text.length) (here : text.drop state.position = first :: rest)
    (blank : isBlank first = true) : StepsAs text state (loopStep limit text state) := by
  have split : text.drop state.position = (first :: rest).takeWhile isBlank ++
      (first :: rest).dropWhile isBlank := by
    rw [here, List.takeWhile_append_dropWhile]
  have moved := drop_add_length split
  have allBlank : ∀ c ∈ (first :: rest).takeWhile isBlank, isBlank c = true :=
    List.all_eq_true.mp List.all_takeWhile
  have filled : 0 < ((first :: rest).takeWhile isBlank).length := by
    rw [List.takeWhile_cons_of_pos blank, List.length_cons]
    omega
  rw [loopStep, here]
  dsimp only
  rw [if_pos blank]
  refine .next (Nat.lt_add_of_pos_right filled) (add_length_le inside split) ?_
  rw [moved, split, readFrom_gap allBlank]

theorem loopStep_token {limit : Nat} {text rest : List Char} {first : Char} {state : LoopState}
    (within : DigitsWithin limit text) (inside : state.position ≤ text.length)
    (here : text.drop state.position = first :: rest) (noBlank : isBlank first = false) :
    StepsAs text state (loopStep limit text state) := by
  rw [loopStep, here]
  dsimp only
  rw [if_neg (by simp [noBlank])]
  cases found : Token.next? first rest with
  | none =>
      have stuck := ReadState.fails_of_next? found state.lists state.position
      refine .refused ?_ (here ▸ stuck)
      rw [here]
      exact readWith_stuck noBlank found _ _
  | some cut =>
      obtain ⟨token, after⟩ := cut
      have starts := (next?_eq_some_iff noBlank).mp found
      have split : text.drop state.position = token.chars ++ after :=
        here.trans starts.chars_append
      have part : text = text.take state.position ++ (first :: rest) := by
        rw [← here, List.take_append_drop]
      have reading := readFrom_next noBlank found state.position state.lists
      dsimp only
      rw [takeToken_eq within part starts]
      cases accepted : state.lists.accept state.position token with
      | error error =>
          rw [accepted] at reading
          refine .refused (here ▸ reading) ?_
          rw [here]
          exact .token starts (ReadState.refuses_of_accept starts accepted)
      | ok next =>
          rw [accepted] at reading
          have filled : 0 < token.width := by
            rw [width_eq_length]
            have lengths := congrArg List.length starts.chars_append
            have shorter := Token.next?_length found
            rw [List.length_append, List.length_cons] at lengths
            omega
          have moved := drop_add_length split
          have stays := add_length_le inside split
          rw [← width_eq_length] at moved stays
          refine .next (Nat.lt_add_of_pos_right filled) stays ?_
          rw [moved, here]
          exact reading

theorem loopStep_stepsAs {limit : Nat} {text : List Char} (within : DigitsWithin limit text)
    {state : LoopState} (inside : state.position ≤ text.length) :
    StepsAs text state (loopStep limit text state) := by
  cases here : text.drop state.position with
  | nil =>
      rw [List.drop_eq_nil_iff] at here
      exact loopStep_end (Nat.le_antisymm inside here)
  | cons first rest =>
      cases blank : isBlank first with
      | true => exact loopStep_blanks inside here blank
      | false => exact loopStep_token within inside here blank

theorem Visits.inside {limit : Nat} {text : List Char} (within : DigitsWithin limit text)
    {state : LoopState} (visits : Visits limit text state) : state.position ≤ text.length := by
  induction visits with
  | refl => exact Nat.zero_le _
  | @tail earlier later _ step ih =>
      have moved := loopStep_stepsAs within ih
      rw [step] at moved
      cases moved
      assumption

theorem runLoop_eq {limit : Nat} {text : List Char} (within : DigitsWithin limit text)
    {steps : Nat} {state : LoopState} (inside : state.position ≤ text.length)
    (enough : text.length < state.position + steps) :
    runLoop limit text steps state =
      some ((readFrom state.position state.lists (text.drop state.position)).mapError
        .refused) := by
  induction steps generalizing state with
  | zero => omega
  | succ steps ih =>
      have moved := loopStep_stepsAs within inside
      rw [runLoop]
      cases step : loopStep limit text state with
      | next later =>
          rw [step] at moved
          cases moved with
          | next moves stays same =>
              dsimp only
              rw [ih stays (by omega), same]
      | stop result =>
          rw [step] at moved
          cases moved with
          | value same =>
              rw [same]
              rfl
          | refused same _ =>
              rw [same]
              rfl

/-- The loop ends after at most one step for each character and one more, with what the reader
comes to: a value, or the error of the text. Each step on the way moves on by at least one
character and stays inside the text, and none fails but by refusing the text: the look-ahead finds
its character, and the stack its list. A character is unexpected only where a double quote opens a
text without an end. -/
theorem runLoop_read (limit : Nat) (text : String) (within : DigitsWithin limit text.toList) :
    runLoop limit text.toList (text.length + 1) {} = some ((read text).mapError .refused) ∧
    ∀ state, Visits limit text.toList state →
      (∀ next, loopStep limit text.toList state = .next next →
        state.position < next.position ∧ next.position ≤ text.length) ∧
      ∀ failure, loopStep limit text.toList state = .stop (.error failure) →
        ∃ error, failure = .refused error ∧
          ∀ c, error.fault = .unexpectedCharacter c →
            c = '"' ∧ error.offset = state.position ∧
              ∃ rest, text.toList.drop state.position = '"' :: rest ∧
                ∀ body after, IsBody body → rest ≠ body ++ '"' :: after := by
  have start : ({} : LoopState).position ≤ text.toList.length := Nat.zero_le _
  rw [← String.length_toList]
  refine ⟨runLoop_eq within start (by simp), fun state visits => ⟨?_, ?_⟩⟩
  · intro next step
    have moved := loopStep_stepsAs within (visits.inside within)
    rw [step] at moved
    cases moved with
    | next moves inside => exact ⟨moves, inside⟩
  · intro failure step
    have moved := loopStep_stepsAs within (visits.inside within)
    rw [step] at moved
    cases moved with
    | @refused error _ fails =>
        refine ⟨error, rfl, fun c unexpected => ?_⟩
        -- Every other way to fail has a fault of its own.
        generalize state.lists = lists, here : text.toList.drop state.position = chars at fails
        cases fails with
        | unmatched | noValue => cases unexpected
        | unclosed _ _ noEnd =>
            cases unexpected
            exact ⟨rfl, rfl, _, rfl, noEnd⟩
        | token _ refuses => cases refuses <;> cases unexpected

/-- Behind a blank stands a double quote without an end, since the only other one is escaped. -/
theorem runLoop_read_escapedQuote :
    let text := " \"a\\\""
    let behind : LoopState := ⟨1, {}⟩
    DigitsWithin 4300 text.toList ∧
      runLoop 4300 text.toList (text.length + 1) {} = some ((read text).mapError .refused) ∧
      (loopStep 4300 text.toList {} = .next behind ∧ 0 < behind.position ∧
        behind.position ≤ text.length) ∧
      Visits 4300 text.toList behind ∧
      loopStep 4300 text.toList behind =
        .stop (.error (.refused ⟨.unexpectedCharacter '"', 1⟩)) ∧
      ∃ rest, text.toList.drop 1 = '"' :: rest ∧
        ∀ body after, IsBody body → rest ≠ body ++ '"' :: after := by
  intro text behind
  have within : DigitsWithin 4300 text.toList := fun digits _ part =>
    Nat.le_trans part.length_le (by decide)
  have chars : text.toList = [' ', '"', 'a', '\\', '"'] := by decide
  have moved : loopStep 4300 text.toList {} = .next behind := by
    rw [chars]
    rfl
  have visits : Visits 4300 text.toList behind := .single moved
  have stopped : loopStep 4300 text.toList behind =
      .stop (.error (.refused ⟨.unexpectedCharacter '"', 1⟩)) := by
    rw [chars]
    simp [loopStep, behind, Token.next?, quotedBody?, isBlank]
  obtain ⟨run, steps⟩ := runLoop_read 4300 text within
  obtain ⟨error, same, unexpected⟩ := (steps behind visits).2 _ stopped
  obtain rfl : ⟨.unexpectedCharacter '"', 1⟩ = error := LoopFailure.refused.inj same
  exact ⟨within, run, ⟨moved, (steps {} .refl).1 behind moved⟩, visits, stopped,
    (unexpected '"' rfl).2.2⟩

end Sexp

end NodeForms
