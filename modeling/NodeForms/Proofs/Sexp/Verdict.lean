import NodeForms.Proofs.Sexp.Notation

/-!
# Reading without offsets

Offsets tell only where a reading failed. Without them a reading goes on after a piece of text
that splits as if the piece had been read alone: its tokens are taken one by one, and what
follows apart from it is read from the state they lead to. Blanks are passed over.
-/

namespace NodeForms

namespace Sexp

/-- What comes of a reading, without the offset of an error. -/
def outcome {Result : Type} (result : Except ReadError Result) : Except ReadFault Result :=
  result.mapError ReadError.fault

section

variable {First Second : Type}

@[simp] theorem outcome_ok (value : First) : outcome (.ok value) = .ok value := rfl

@[simp] theorem outcome_error (error : ReadError) :
    outcome (.error error : Except ReadError First) = .error error.fault := rfl

theorem outcome_eq_ok_iff {result : Except ReadError First} {value : First} :
    outcome result = .ok value ↔ result = .ok value := by
  cases result <;> simp

theorem outcome_bind (step : Except ReadError First) (next : First → Except ReadError Second) :
    outcome (step >>= next) = outcome step >>= fun value => outcome (next value) := by
  cases step <;> rfl

theorem outcome_map (step : Except ReadError First) (change : First → Second) :
    outcome (step.map change) = (outcome step).map change := by
  cases step <;> rfl

end

theorem outcome_unquote (offset other : Nat) (body : List Char) :
    outcome (unquote offset body) = outcome (unquote other body) := by
  fun_induction unquote offset body generalizing other with
  | case1 => rfl
  | case2 offset c rest unknown => simp [unquote, unknown]
  | case3 offset c rest plain known ih => rw [unquote, known, outcome_map, outcome_map, ih]
  | case4 offset c rest noPair ih =>
      rw [unquote.eq_3 other c rest noPair, outcome_map, outcome_map, ih]

theorem outcome_add (state : ReadState) (offset other : Nat) (value : Sexp) :
    outcome (state.add offset value) = outcome (state.add other value) := by
  obtain ⟨openLists, result⟩ := state
  cases openLists with
  | cons innermost outer => rfl
  | nil => cases result <;> rfl

theorem outcome_accept (state : ReadState) (offset other : Nat) (token : Token) :
    outcome (state.accept offset token) = outcome (state.accept other token) := by
  cases token with
  | opening => rfl
  | closing =>
      cases lists : state.openLists with
      | nil => simp [ReadState.accept, lists]
      | cons innermost outer =>
          simp only [ReadState.accept, lists]
          exact outcome_add _ offset other _
  | quotedAtom body =>
      rw [ReadState.accept, ReadState.accept, outcome_bind, outcome_bind,
        outcome_unquote (offset + 2) (other + 2)]
      exact bind_congr fun content => outcome_add state offset other _
  | quotedText body =>
      rw [ReadState.accept, ReadState.accept, outcome_bind, outcome_bind,
        outcome_unquote (offset + 1) (other + 1)]
      exact bind_congr fun content => outcome_add state offset other _
  | bare run => exact outcome_add state offset other _

namespace ReadState

section

variable {Fault : Type} (refused : ReadFault → Fault)
  (take : ReadState → Token → Except Fault ReadState)

/-- What comes of reading a text from a state on if nothing depends on offsets. -/
def judge (state : ReadState) (chars : List Char) : Except Fault Sexp :=
  readWith (fun error => refused error.fault) (fun state _ token => take state token) 0 state chars

/-- The state after more tokens, unless one of them is refused. -/
def takeEach (state : ReadState) : List Token → Except Fault ReadState
  | [] => .ok state
  | token :: tokens => take state token >>= fun next => next.takeEach tokens

variable {refused take}

theorem mapError_readWith {Located : Type} {refuse : ReadError → Located}
    {accept : ReadState → Nat → Token → Except Located ReadState} (forget : Located → Fault)
    (sameFault : ∀ error, forget (refuse error) = refused error.fault)
    (sameToken : ∀ state offset token,
      (accept state offset token).mapError forget = take state token)
    (offset other : Nat) (state : ReadState) (chars : List Char) :
    (readWith refuse accept offset state chars).mapError forget =
      readWith (fun error => refused error.fault) (fun state _ token => take state token) other
        state chars := by
  fun_induction readWith refuse accept offset state chars generalizing other with
  | case1 offset state =>
      obtain ⟨openLists, result⟩ := state
      rw [readWith]
      cases openLists <;> cases result <;>
        simp [finish, Except.mapError, sameFault]
  | case2 offset state first rest blank ih => rw [readWith_blank blank, ih]
  | case3 offset state first rest noBlank stuck =>
      rw [readWith_stuck (by simpa using noBlank) stuck]
      exact congrArg Except.error (sameFault _)
  | case4 offset state first rest noBlank token after found fault refusal =>
      rw [readWith_next (by simpa using noBlank) found, ← sameToken state offset token, refusal]
      rfl
  | case5 offset state first rest noBlank token after found next accepted ih =>
      rw [readWith_next (by simpa using noBlank) found, ← sameToken state offset token, accepted]
      exact ih (other + token.width)

theorem judge_offset (offset : Nat) (state : ReadState) (chars : List Char) :
    readWith (fun error => refused error.fault) (fun state _ token => take state token) offset
      state chars = state.judge refused take chars := by
  have unchanged {Result : Type} (result : Except Fault Result) : result.mapError id = result := by
    cases result <;> rfl
  exact (unchanged _).symm.trans (@mapError_readWith Fault refused take Fault _ _ id
    (fun _ => rfl) (fun _ _ _ => unchanged _) offset 0 state chars)

theorem judge_gap {gap : List Char} (blanks : ∀ c ∈ gap, isBlank c = true) (state : ReadState)
    (after : List Char) :
    state.judge refused take (gap ++ after) = state.judge refused take after := by
  rw [judge, readWith_gap blanks, judge_offset]

theorem judge_starts {chars after : List Char} {token : Token} (starts : Starts chars token after)
    (state : ReadState) :
    state.judge refused take chars =
      take state token >>= fun next => next.judge refused take after := by
  obtain ⟨first, rest, rfl, noBlank⟩ := starts.exists_cons
  rw [judge, readWith_next noBlank ((next?_eq_some_iff noBlank).mpr starts)]
  exact bind_congr fun next => judge_offset _ next after

end

def verdict (state : ReadState) (chars : List Char) : Except ReadFault Sexp :=
  outcome (readFrom 0 state chars)

/-- What comes of a token. -/
def take (state : ReadState) (token : Token) : Except ReadFault ReadState :=
  outcome (state.accept 0 token)

/-- The state after more tokens, unless one of them is refused. -/
def takeAll (state : ReadState) (tokens : List Token) : Except ReadFault ReadState :=
  state.takeEach take tokens

theorem takeAll_cons (state : ReadState) (token : Token) (tokens : List Token) :
    state.takeAll (token :: tokens) =
      outcome (state.accept 0 token) >>= fun next => next.takeAll tokens := rfl

theorem outcome_readFrom (offset : Nat) (state : ReadState) (chars : List Char) :
    outcome (readFrom offset state chars) = state.judge id take chars :=
  mapError_readWith ReadError.fault (fun _ => rfl)
    (fun state offset token => outcome_accept state offset 0 token) offset 0 state chars

theorem verdict_eq_judge (state : ReadState) (chars : List Char) :
    state.verdict chars = state.judge id take chars := outcome_readFrom 0 state chars

theorem verdict_gap {gap : List Char} (blanks : ∀ c ∈ gap, isBlank c = true) (state : ReadState)
    (after : List Char) : state.verdict (gap ++ after) = state.verdict after := by
  rw [verdict_eq_judge, judge_gap blanks, verdict_eq_judge]

theorem verdict_starts {chars after : List Char} {token : Token} (starts : Starts chars token after)
    (state : ReadState) :
    state.verdict chars = outcome (state.accept 0 token) >>= fun next => next.verdict after := by
  rw [verdict_eq_judge, judge_starts starts]
  exact bind_congr fun next => (verdict_eq_judge next after).symm

end ReadState

/-- Whether some characters leave the token before them as it is: they are none, or the first
one is a blank or a parenthesis. -/
def Apart (chars : List Char) : Prop :=
  ∀ c ∈ chars.head?, isBlank c = true ∨ c = '(' ∨ c = ')'

theorem Apart.notBare {chars : List Char} (apart : Apart chars) :
    ∀ c ∈ chars.head?, isBareChar c = false := by
  intro c isFirst
  rcases apart c isFirst with blank | rfl | rfl
  · simp [isBareChar, blank]
  · decide
  · decide

theorem apart_of_isGap {gap : List Char} (isGap : IsGap gap) (after : List Char) :
    Apart (gap ++ after) := by
  obtain ⟨c, gap, rfl⟩ := List.exists_cons_of_ne_nil isGap.1
  intro other isFirst
  cases isFirst
  exact .inl (isGap.2 c (by simp))

theorem apart_parenthesis {c : Char} (parenthesis : c = '(' ∨ c = ')') (after : List Char) :
    Apart (c :: after) := by
  intro other isFirst
  cases isFirst
  exact .inr parenthesis

theorem Starts.closed {chars rest after : List Char} {token : Token}
    (starts : Starts chars token after) (quote : chars = '"' :: rest) :
    ∃ body later, IsBody body ∧ rest = body ++ '"' :: later := by
  cases starts with
  | opening => cases quote
  | closing => cases quote
  | quotedAtom => cases quote
  | quotedText isBody =>
      cases quote
      exact ⟨_, _, isBody, rfl⟩
  | @bare run _ filled isBare =>
      obtain ⟨c, run, rfl⟩ := List.exists_cons_of_ne_nil filled
      cases quote
      exact absurd (isBare '"' (by simp)) (by decide)

theorem Splits.closed {chars : List Char} {tokens : List Token} (splits : Splits chars tokens)
    {rest : List Char} (quote : chars = '"' :: rest) :
    ∃ body later, IsBody body ∧ rest = body ++ '"' :: later := by
  cases splits with
  | nil => cases quote
  | @blanks run after _ isGap =>
      obtain ⟨c, run, rfl⟩ := List.exists_cons_of_ne_nil isGap.1
      cases quote
      exact absurd (isGap.2 '"' (by simp)) (by decide)
  | token starts => exact starts.closed quote

theorem eq_colon_of_run {run after later : List Char} (filled : run ≠ [])
    (isBare : ∀ c ∈ run, isBareChar c = true) (spelled : run ++ after = ':' :: '"' :: later) :
    run = [':'] ∧ after = '"' :: later := by
  obtain ⟨c, run, rfl⟩ := List.exists_cons_of_ne_nil filled
  obtain ⟨rfl, behind⟩ := List.cons.inj spelled
  cases run with
  | nil => exact ⟨rfl, behind⟩
  | cons c run =>
      obtain ⟨rfl, -⟩ := List.cons.inj behind
      exact absurd (isBare '"' (by simp)) (by decide)

/-- A token of a text that splits is the same one when more follows apart from the text. -/
theorem Starts.append {chars rest : List Char} {token : Token} {tokens : List Token}
    (starts : Starts chars token rest) (splits : Splits rest tokens) {after : List Char}
    (apart : Apart after) : Starts (chars ++ after) token (rest ++ after) := by
  cases starts with
  | opening => exact .opening _
  | closing => exact .closing _
  | quotedAtom isBody => simpa using Starts.quotedAtom isBody (rest ++ after)
  | quotedText isBody => simpa using Starts.quotedText isBody (rest ++ after)
  | @bare run _ filled isBare ends noAtom =>
      rw [List.append_assoc]
      refine .bare filled isBare ?_ ?_
      · cases rest with
        | nil => exact apart.notBare
        | cons c rest => exact ends
      · intro body later _ spelled
        obtain ⟨rfl, behind⟩ := eq_colon_of_run filled isBare spelled
        cases rest with
        | nil =>
            have quoted : after = '"' :: (body ++ '"' :: later) := behind
            exact absurd (apart '"' (by simp [quoted])) (by decide)
        | cons c rest =>
            -- The quote behind the colon has its partner in the text already, so the
            -- colon started a quoted atom before anything followed.
            obtain ⟨rfl, -⟩ := List.cons.inj behind
            obtain ⟨inner, others, isInner, rfl⟩ := splits.closed rfl
            exact noAtom inner others isInner rfl

namespace ReadState

section

variable {Fault : Type} {refused : ReadFault → Fault}
  {take : ReadState → Token → Except Fault ReadState}

/-- A piece of text that splits is read as its tokens, whatever follows apart from it. -/
theorem judge_append {before : List Char} {tokens : List Token} (splits : Splits before tokens)
    {after : List Char} (apart : Apart after) (state : ReadState) :
    state.judge refused take (before ++ after) =
      state.takeEach take tokens >>= fun next => next.judge refused take after := by
  induction splits generalizing state with
  | nil => rfl
  | @blanks run rest tokens isGap ends _ ih => rw [List.append_assoc, judge_gap isGap.2, ih]
  | @token chars rest token tokens starts splits ih =>
      rw [judge_starts (starts.append splits apart), takeEach, bind_assoc]
      exact bind_congr ih

theorem judge_splits {chars : List Char} {tokens : List Token} (splits : Splits chars tokens)
    (state : ReadState) :
    state.judge refused take chars =
      state.takeEach take tokens >>= fun last => last.judge refused take [] := by
  have apart : Apart [] := by simp [Apart]
  rw [← judge_append splits apart, List.append_nil]

end

theorem verdict_append {before : List Char} {tokens : List Token} (splits : Splits before tokens)
    {after : List Char} (apart : Apart after) (state : ReadState) :
    state.verdict (before ++ after) =
      state.takeAll tokens >>= fun next => next.verdict after := by
  rw [verdict_eq_judge, judge_append splits apart]
  exact bind_congr fun next => (verdict_eq_judge next after).symm

theorem verdict_splits {chars : List Char} {tokens : List Token} (splits : Splits chars tokens)
    (state : ReadState) :
    state.verdict chars = state.takeAll tokens >>= fun last => last.verdict [] := by
  rw [verdict_eq_judge, judge_splits splits]
  exact bind_congr fun last => (verdict_eq_judge last []).symm

end ReadState

theorem Splits.cons_blank {rest : List Char} {tokens : List Token} (splits : Splits rest tokens)
    {c : Char} (blank : isBlank c = true) : Splits (c :: rest) tokens := by
  have single : IsGap [c] := ⟨by simp, by simpa using blank⟩
  cases splits with
  | nil => exact .blanks single (by simp) .nil
  | @blanks run after _ isGap ends rest =>
      have longer : IsGap (c :: run) := ⟨by simp, by simpa [blank] using isGap.2⟩
      exact .blanks longer ends rest
  | token starts splits =>
      obtain ⟨first, others, rfl, noBlank⟩ := starts.exists_cons
      exact .blanks single (by simpa using noBlank) (.token starts splits)

theorem exists_splits {offset : Nat} {state : ReadState} {chars : List Char} {value : Sexp}
    (found : readFrom offset state chars = .ok value) : ∃ tokens, Splits chars tokens := by
  rw [readFrom] at found
  fun_induction readWith id ReadState.accept offset state chars with
  | case1 => exact ⟨[], .nil⟩
  | case2 offset state first rest blank ih =>
      obtain ⟨tokens, splits⟩ := ih found
      exact ⟨tokens, splits.cons_blank blank⟩
  | case3 => cases found
  | case4 => cases found
  | case5 offset state first rest noBlank token after cut next accepted ih =>
      obtain ⟨tokens, splits⟩ := ih found
      have starts := (next?_eq_some_iff (by simpa using noBlank)).mp cut
      exact ⟨token :: tokens, .token starts splits⟩

end Sexp

end NodeForms
