import NodeForms.Proofs.Sexp.Refusals

/-!
# Where a reading fails

The offset of an error stands behind a part of the text that more characters can still make a
value of, unless a second value begins in that part. The reader looks for a second value only
where one is complete, at the last of its tokens: at a second list it goes on to the closing
parenthesis, and at a second quoted token to an escape that means nothing.
-/

namespace NodeForms

namespace Sexp

/-- The front of a text, with what is cut off it token by token before the reader stands in
front of the rest. -/
inductive Cuts (rest : List Char) : List Char → List Token → Prop
  | nil : Cuts rest [] []
  | blank {c : Char} {front : List Char} {tokens : List Token} (blank : isBlank c = true)
      (cuts : Cuts rest front tokens) : Cuts rest (c :: front) tokens
  | token {token : Token} {front : List Char} {tokens : List Token}
      (starts : Starts (token.chars ++ (front ++ rest)) token (front ++ rest))
      (cuts : Cuts rest front tokens) : Cuts rest (token.chars ++ front) (token :: tokens)

theorem Starts.truncate {chars front rest : List Char} {token : Token}
    (starts : Starts chars token (front ++ rest)) : Starts (token.chars ++ front) token front := by
  generalize afterEq : front ++ rest = after at starts
  cases starts with
  | opening => exact .opening front
  | closing => exact .closing front
  | quotedAtom isBody => simpa [Token.chars] using Starts.quotedAtom isBody front
  | quotedText isBody => simpa [Token.chars] using Starts.quotedText isBody front
  | @bare run _ filled isBare ends noAtom =>
      subst afterEq
      refine .bare filled isBare ?_ ?_
      · cases front with
        | nil => simp
        | cons c front => exact ends
      · intro body later isBody spelled
        have front : run ++ front = ':' :: '"' :: (body ++ '"' :: later) := spelled
        refine noAtom body (later ++ rest) isBody ?_
        rw [← List.append_assoc, front]
        simp

theorem Cuts.splits {rest front : List Char} {tokens : List Token} (cuts : Cuts rest front tokens) :
    Splits front tokens := by
  induction cuts with
  | nil => exact .nil
  | blank blank _ ih => exact ih.cons_blank blank
  | token starts _ ih => exact .token starts.truncate ih

theorem Cuts.closed {rest front : List Char} {tokens : List Token} (cuts : Cuts rest front tokens)
    {token : Token} {after : List Char} (starts : Starts rest token after) {later : List Char}
    (quote : front ++ rest = '"' :: later) :
    ∃ body others, IsBody body ∧ later = body ++ '"' :: others := by
  cases cuts with
  | nil => exact starts.closed quote
  | blank blank =>
      cases quote
      exact absurd blank (by decide)
  | token first =>
      rw [List.append_assoc] at quote
      exact first.closed quote

/-- A token is the same one in front of another text that starts with the same character, if no
double quote behind it gets its partner from there. -/
theorem Starts.swap {chars front others : List Char} {first : Char} {token : Token}
    (starts : Starts chars token (front ++ first :: others))
    (closed : ∀ later, front ++ first :: others = '"' :: later →
      ∃ body beyond, IsBody body ∧ later = body ++ '"' :: beyond) (other : List Char) :
    Starts (token.chars ++ (front ++ first :: other)) token (front ++ first :: other) := by
  generalize afterEq : front ++ first :: others = after at starts
  cases starts with
  | opening => exact .opening _
  | closing => exact .closing _
  | quotedAtom isBody => simpa [Token.chars] using Starts.quotedAtom isBody _
  | quotedText isBody => simpa [Token.chars] using Starts.quotedText isBody _
  | bare filled isBare ends noAtom =>
      subst afterEq
      have sameHead : (front ++ first :: other).head? = (front ++ first :: others).head? := by
        cases front <;> rfl
      refine .bare filled isBare (sameHead ▸ ends) fun body later _ spelled => ?_
      -- With the change a quoted atom would start at a colon, whose quote stood there before.
      obtain ⟨rfl, quote⟩ := eq_colon_of_run filled isBare spelled
      have isQuote : (front ++ first :: others).head? = some '"' := by
        rw [← sameHead, quote]
        rfl
      obtain ⟨rest, same⟩ := List.head?_eq_some_iff.mp isQuote
      obtain ⟨inner, beyond, isInner, rfl⟩ := closed rest same
      exact noAtom inner beyond isInner (by rw [same]; rfl)

theorem Cuts.swap {first : Char} {others front : List Char} {tokens : List Token}
    (cuts : Cuts (first :: others) front tokens) {token : Token} {after : List Char}
    (starts : Starts (first :: others) token after) (other : List Char) :
    Cuts (first :: other) front tokens := by
  induction cuts with
  | nil => exact .nil
  | blank blank _ ih => exact .blank blank ih
  | token cutStarts cuts ih =>
      exact .token (cutStarts.swap (fun _ quote => cuts.closed starts quote) other) ih

namespace ReadState

theorem verdict_cuts {rest front : List Char} {tokens : List Token} (cuts : Cuts rest front tokens)
    (state : ReadState) :
    state.verdict (front ++ rest) =
      state.takeAll tokens >>= fun last => last.verdict rest := by
  induction cuts generalizing state with
  | nil => rfl
  | @blank c _ _ blank _ ih =>
      rw [List.cons_append, ← List.singleton_append, verdict_gap (by simpa using blank), ih]
  | token starts _ ih =>
      rw [List.append_assoc, verdict_starts starts, takeAll_cons, bind_assoc]
      exact bind_congr ih

theorem readFrom_cuts {rest front : List Char} {tokens : List Token} (cuts : Cuts rest front tokens)
    {state last : ReadState} (taken : state.takeAll tokens = .ok last) (offset : Nat) :
    readFrom offset state (front ++ rest) = readFrom (offset + front.length) last rest := by
  induction cuts generalizing state offset with
  | nil =>
      cases taken
      rfl
  | blank blank _ ih =>
      rw [List.cons_append, readFrom, readWith_blank blank]
      refine (ih taken (offset + 1)).trans ?_
      rw [List.length_cons, Nat.add_right_comm, Nat.add_assoc]
  | @token token front _ starts _ ih =>
      rw [takeAll_cons, bind_eq_ok] at taken
      obtain ⟨next, accepted, taken⟩ := taken
      obtain ⟨mark, denotes, reads⟩ :=
        (accept_eq_ok_iff starts 0).mp (outcome_eq_ok_iff.mp accepted)
      obtain ⟨first, others, chars, noBlank⟩ := starts.exists_cons
      have reading := readFrom_next noBlank ((next?_eq_some_iff noBlank).mpr (chars ▸ starts))
        offset state
      rw [(accept_eq_ok_iff starts offset).mpr ⟨mark, denotes, reads⟩, ← chars] at reading
      rw [List.append_assoc, reading, List.length_append, ← width_eq_length, ← Nat.add_assoc]
      exact ih taken _

theorem exists_fails {offset : Nat} {state : ReadState} {chars : List Char} {error : ReadError}
    (refused : readFrom offset state chars = .error error) :
    ∃ front rest tokens last, chars = front ++ rest ∧ Cuts rest front tokens ∧
      state.takeAll tokens = .ok last ∧ Fails (offset + front.length) last rest error := by
  rw [readFrom] at refused
  fun_induction readWith id ReadState.accept offset state chars with
  | case1 offset state =>
      have finished := readFrom_nil offset state
      rw [readFrom, readWith, refused] at finished
      exact ⟨[], [], [], state, rfl, .nil, rfl, fails_of_finish finished.symm⟩
  | case2 offset state first rest blank ih =>
      obtain ⟨front, later, tokens, last, rfl, cuts, taken, fails⟩ := ih refused
      refine ⟨first :: front, later, tokens, last, rfl, .blank blank cuts, taken, ?_⟩
      rwa [List.length_cons, Nat.add_comm front.length, ← Nat.add_assoc]
  | case3 offset state first rest noBlank stuck =>
      cases refused
      exact ⟨[], _, [], state, rfl, .nil, rfl, fails_of_next? stuck state offset⟩
  | case4 offset state first rest noBlank token after found refusal accepted =>
      cases refused
      have starts := (next?_eq_some_iff (by simpa using noBlank)).mp found
      exact ⟨[], _, [], state, rfl, .nil, rfl, .token starts (refuses_of_accept starts accepted)⟩
  | case5 offset state first rest noBlank token after found next accepted ih =>
      obtain ⟨front, later, tokens, last, rfl, cuts, taken, fails⟩ := ih refused
      have starts := (next?_eq_some_iff (by simpa using noBlank)).mp found
      have whole := starts.chars_append
      obtain ⟨mark, denotes, reads⟩ := (accept_eq_ok_iff starts offset).mp accepted
      have first := (accept_eq_ok_iff starts 0).mpr ⟨mark, denotes, reads⟩
      refine ⟨token.chars ++ front, later, token :: tokens, last, by simpa using whole,
        .token (whole ▸ starts) cuts, ?_, ?_⟩
      · rw [takeAll_cons, first]
        exact taken
      · rwa [List.length_append, ← width_eq_length, ← Nat.add_assoc]

def Overfull (state : ReadState) : Prop := state.openLists ≠ [] ∧ state.result ≠ none

theorem overfull_put_iff {state : ReadState} {value : Sexp} :
    (state.put value).Overfull ↔ state.Overfull := by
  obtain ⟨openLists, result⟩ := state
  cases openLists with
  | nil => simp [put, Overfull]
  | cons innermost outer => simp [put, Overfull]

theorem Accepts.overfull {state : ReadState} (accepts : state.Accepts)
    (finished : state.result ≠ none) : state.Overfull :=
  ⟨accepts.resolve_right finished, finished⟩

theorem Reads.overfull {state next : ReadState} {mark : Mark} (reads : Reads state mark next)
    (finished : state.result ≠ none) : next.Overfull := by
  cases reads with
  | opening => exact ⟨List.cons_ne_nil _ _, finished⟩
  | closing accepts => exact overfull_put_iff.mpr (accepts.overfull finished)
  | leaf accepts => exact overfull_put_iff.mpr (accepts.overfull finished)

theorem Reads.of_overfull {state next : ReadState} {mark : Mark} (reads : Reads state mark next)
    (overfull : next.Overfull) :
    state.Overfull ∨ mark = .opening ∧ ∃ value, state = ⟨[], some value⟩ := by
  cases reads with
  | opening =>
      obtain ⟨openLists, result⟩ := state
      cases openLists with
      | nil =>
          obtain ⟨value, rfl⟩ := Option.ne_none_iff_exists'.mp overfull.2
          exact .inr ⟨rfl, value, rfl⟩
      | cons innermost outer => exact .inl ⟨List.cons_ne_nil _ _, overfull.2⟩
  | closing => exact .inl ⟨List.cons_ne_nil _ _, (overfull_put_iff.mp overfull).2⟩
  | leaf => exact .inl (overfull_put_iff.mp overfull)

theorem ReadsAll.overfull {state last : ReadState} {marks : List Mark}
    (reads : ReadsAll state marks last) (finished : state.result ≠ none) :
    marks = [] ∨ last.Overfull := by
  induction reads with
  | nil => exact .inl rfl
  | @cons _ next last _ marks reads others ih =>
      have overfull := reads.overfull finished
      rcases ih overfull.2 with rfl | later
      · cases others
        exact .inr overfull
      · exact .inr later

theorem verdict_finished {first : Char} {others : List Char} (noBlank : isBlank first = false)
    (state : ReadState) (finished : state.result ≠ none) (value : Sexp) :
    state.verdict (first :: others) ≠ .ok value := by
  intro settled
  obtain ⟨tokens, splits⟩ := exists_splits (outcome_eq_ok_iff.mp settled)
  rw [verdict_splits splits, bind_eq_ok] at settled
  obtain ⟨last, taken, ended⟩ := settled
  obtain rfl := verdict_nil_eq_ok_iff.mp ended
  obtain ⟨marks, denotes, reads⟩ := (takeAll_eq_ok_iff splits).mp taken
  rcases reads.overfull finished with rfl | overfull
  · -- Without marks there are only blanks.
    cases denotes
    generalize charsEq : first :: others = chars at splits
    cases splits with
    | nil => cases charsEq
    | @blanks run _ _ isGap =>
        obtain ⟨c, run, rfl⟩ := List.exists_cons_of_ne_nil isGap.1
        obtain ⟨rfl, -⟩ := List.cons.inj charsEq
        have blank := isGap.2 first (by simp)
        rw [noBlank] at blank
        cases blank
  · exact overfull.1 rfl

/-- Once a list is open behind the finished value, it was opened where a second value began. -/
theorem exists_second {rest front : List Char} {tokens : List Token} (cuts : Cuts rest front tokens)
    {state last : ReadState} (taken : state.takeAll tokens = .ok last)
    (overfull : last.Overfull) (before : ¬state.Overfull) :
    ∃ earlier later after firsts value, front = earlier ++ later ∧
      Cuts (later ++ rest) earlier firsts ∧ state.takeAll firsts = .ok ⟨[], some value⟩ ∧
      Starts (later ++ rest) .opening after ∧ later ≠ [] := by
  induction cuts generalizing state with
  | nil =>
      cases taken
      exact absurd overfull before
  | @blank c _ _ blank _ ih =>
      obtain ⟨earlier, later, after, firsts, value, rfl, cuts, taken, starts, filled⟩ :=
        ih taken before
      exact ⟨c :: earlier, later, after, firsts, value, rfl, .blank blank cuts, taken, starts,
        filled⟩
  | @token token front _ starts _ ih =>
      rw [takeAll_cons, bind_eq_ok] at taken
      obtain ⟨next, accepted, taken⟩ := taken
      obtain ⟨mark, denotes, reads⟩ :=
        (accept_eq_ok_iff starts 0).mp (outcome_eq_ok_iff.mp accepted)
      -- Either this token opens the list that is too much, or a later one does.
      by_cases already : next.Overfull
      · rcases reads.of_overfull already with earlier | ⟨rfl, value, rfl⟩
        · exact absurd earlier before
        · cases denotes
          exact ⟨[], _, _, [], value, rfl, .nil, rfl, .opening _, List.cons_ne_nil _ _⟩
      · obtain ⟨earlier, later, after, firsts, value, rfl, cuts, others, opens, filled⟩ :=
          ih taken already
        refine ⟨token.chars ++ earlier, later, after, token :: firsts, value, by simp,
          .token (by simpa using starts) cuts, ?_, opens, filled⟩
        rw [takeAll_cons, accepted]
        exact others

end ReadState

/-- A second value begins at an offset of a text with a token: it stands behind the tokens of a
first one. -/
inductive SecondValue (text : List Char) : Nat → Token → Prop
  | intro {front rest after : List Char} {tokens : List Token} {token : Token} {value : Sexp}
      (whole : text = front ++ rest) (cuts : Cuts rest front tokens)
      (denotes : List.Forall₂ Denotes tokens value.marks) (starts : Starts rest token after)
      (noEnd : token ≠ .closing) : SecondValue text front.length token

namespace ReadState

theorem takeAll_start_iff {rest front : List Char} {tokens : List Token}
    (cuts : Cuts rest front tokens) {value : Sexp} :
    takeAll {} tokens = .ok ⟨[], some value⟩ ↔ List.Forall₂ Denotes tokens value.marks := by
  rw [takeAll_eq_ok_iff cuts.splits]
  constructor
  · rintro ⟨marks, denotes, reads⟩
    rwa [(readsAll_iff denotes).mp reads] at denotes
  · exact fun denotes => ⟨_, denotes, (readsAll_iff denotes).mpr rfl⟩

end ReadState

/-- More characters make some text one that holds a value. -/
def Viable (chars : List Char) : Prop :=
  ∃ after value, read (String.ofList (chars ++ after)) = .ok value

theorem viable_iff {chars : List Char} :
    Viable chars ↔ ∃ after value, ReadState.verdict {} (chars ++ after) = .ok value := by
  simp only [Viable, read, ReadState.verdict, outcome_eq_ok_iff, String.toList_ofList]

namespace ReadState

theorem exists_verdict_closings (innermost : List Sexp) (outer : List (List Sexp)) :
    ∃ value, verdict ⟨innermost :: outer, none⟩ (List.replicate (outer.length + 1) ')') =
      .ok value := by
  induction outer generalizing innermost with
  | nil =>
      refine ⟨.seq innermost.reverse, ?_⟩
      rw [List.length_nil, List.replicate_succ, verdict_starts (.closing _)]
      exact verdict_nil_eq_ok_iff.mpr rfl
  | cons next outer ih =>
      obtain ⟨value, settled⟩ := ih (.seq innermost.reverse :: next)
      refine ⟨value, ?_⟩
      rw [List.length_cons, List.replicate_succ, verdict_starts (.closing _)]
      exact settled

/-- From every state without an open list behind a finished value the reader can get to a
value. -/
theorem exists_verdict {state : ReadState} (before : ¬state.Overfull) :
    ∃ after value, Apart after ∧ state.verdict after = .ok value := by
  obtain ⟨openLists, result⟩ := state
  cases result with
  | some value =>
      cases openLists with
      | nil => exact ⟨[], value, by simp [Apart], verdict_nil_eq_ok_iff.mpr rfl⟩
      | cons innermost outer => exact absurd ⟨by simp, by simp⟩ before
  | none =>
      cases openLists with
      | nil =>
          obtain ⟨value, settled⟩ := exists_verdict_closings [] []
          refine ⟨'(' :: [')'], value, apart_parenthesis (.inl rfl) _, ?_⟩
          rw [verdict_starts (.opening _)]
          exact settled
      | cons innermost outer =>
          obtain ⟨value, settled⟩ := exists_verdict_closings innermost outer
          exact ⟨_, value, apart_parenthesis (.inr rfl) _, settled⟩

theorem viable_of_splits {front : List Char} {tokens : List Token} (splits : Splits front tokens)
    {last : ReadState} (taken : takeAll {} tokens = .ok last) (before : ¬last.Overfull) :
    Viable front := by
  obtain ⟨after, value, apart, settled⟩ := exists_verdict before
  refine viable_iff.mpr ⟨after, value, ?_⟩
  rw [verdict_append splits apart, taken]
  exact settled

end ReadState

theorem Token.Quotes.starts {token : Token} {opener body : List Char}
    (quotes : token.Quotes opener body) (isBody : IsBody body) (after : List Char) :
    Starts (opener ++ (body ++ '"' :: after)) token after := by
  cases quotes with
  | atom => exact .quotedAtom isBody after
  | text => exact .quotedText isBody after

theorem Token.Quotes.exists_denotes {token : Token} {opener body : List Char}
    (quotes : token.Quotes opener body) {inner content : List Char} (spells : Spells inner content) :
    ∃ other value, Token.Quotes other opener inner ∧ Denotes other (.leaf value) := by
  cases quotes with
  | atom => exact ⟨_, _, .atom inner, .quotedAtom spells⟩
  | text => exact ⟨_, _, .text inner, .quotedText spells⟩

namespace ReadState

/-- Up to an escape that means nothing, a quoted body can be closed. -/
theorem viable_quoted {front beyond after : List Char} {tokens : List Token} {token : Token}
    {opener inner body content : List Char}
    (cuts : Cuts (opener ++ (inner ++ beyond)) front tokens) {last : ReadState}
    (taken : takeAll {} tokens = .ok last) (unfinished : last.result = none)
    (starts : Starts (opener ++ (inner ++ beyond)) token after)
    (quotes : token.Quotes opener body) (spells : Spells inner content) :
    Viable (front ++ (opener ++ inner)) := by
  obtain ⟨other, value, otherQuotes, denotes⟩ := quotes.exists_denotes spells
  have before : ¬(last.put value).Overfull := fun overfull =>
    (overfull_put_iff.mp overfull).2 unfinished
  obtain ⟨ending, result, -, settled⟩ := exists_verdict before
  have otherStarts := otherQuotes.starts spells.isBody ending
  have accepted := (accept_eq_ok_iff otherStarts 0).mpr ⟨_, denotes, .leaf (.inr unfinished) value⟩
  obtain ⟨first, opened, rfl⟩ := List.exists_cons_of_ne_nil quotes.filled
  have swapped := cuts.swap starts (opened ++ (inner ++ '"' :: ending))
  refine viable_iff.mpr ⟨'"' :: ending, result, ?_⟩
  calc
    verdict {} (front ++ (first :: opened ++ inner) ++ '"' :: ending)
        = verdict {} (front ++ first :: (opened ++ (inner ++ '"' :: ending))) := by simp
    _ = last.verdict (first :: (opened ++ (inner ++ '"' :: ending))) := by
      rw [verdict_cuts swapped, taken]
      rfl
    _ = (last.put value).verdict ending := by
      rw [← List.cons_append, verdict_starts otherStarts, accepted]
      rfl
    _ = .ok result := settled

end ReadState

theorem SecondValue.not_viable {text : List Char} {start : Nat} {token : Token}
    (second : SecondValue text start token) {offset : Nat} (late : start < offset) :
    ¬Viable (text.take offset) := by
  cases second with
  | @intro front rest _ _ _ value whole cuts denotes starts noEnd =>
      rw [viable_iff]
      rintro ⟨more, other, settled⟩
      obtain ⟨first, others, rfl, noBlank⟩ := starts.exists_cons
      obtain ⟨width, rfl⟩ : ∃ width, offset = front.length + (width + 1) :=
        ⟨offset - front.length - 1, by omega⟩
      rw [whole, List.take_length_add_append, List.take_succ_cons, List.append_assoc,
        List.cons_append, ReadState.verdict_cuts (cuts.swap starts _),
        (ReadState.takeAll_start_iff cuts).mpr denotes] at settled
      exact ReadState.verdict_finished noBlank _ (by simp) other settled

namespace ReadState

theorem Fails.exists_width {offset : Nat} {state : ReadState} {chars : List Char}
    {error : ReadError} (fails : Fails offset state chars error) :
    ∃ width ≤ chars.length, error.offset = offset + width := by
  cases fails with
  | unmatched | noValue | unclosed => exact ⟨0, Nat.zero_le _, rfl⟩
  | token starts refuses =>
      cases refuses with
      | unmatched | secondList | second => exact ⟨0, Nat.zero_le _, rfl⟩
      | @unknownEscape _ opener inner _ _ _ _ _ quotes spells =>
          refine ⟨opener.length + inner.length, ?_, Nat.add_assoc _ _ _⟩
          rw [starts.chars_append, quotes.chars_eq]
          simp only [List.length_append, List.length_cons]
          omega

/-- A reading fails behind a part of the text that can still hold a value, unless a list is open
behind the finished value already, or an escape is unknown behind it. -/
theorem viable_of_fails {front rest : List Char} {tokens : List Token}
    (cuts : Cuts rest front tokens) {last : ReadState} (taken : takeAll {} tokens = .ok last)
    (before : ¬last.Overfull) {error : ReadError} (fails : Fails front.length last rest error)
    (noSecond : ∀ value token after, last = ⟨[], some value⟩ → Starts rest token after →
      token ≠ .closing → error.offset ≤ front.length) :
    Viable ((front ++ rest).take error.offset) := by
  have atFront := viable_of_splits cuts.splits taken before
  cases fails with
  | unmatched | noValue | unclosed => rwa [List.take_left]
  | token starts refuses =>
      cases refuses with
      | unmatched | secondList | second => rwa [List.take_left]
      | @unknownEscape _ opener inner content later letter _ _ quotes spells =>
          -- Only this fault lies inside its token: the text before it ends within quotes.
          have unfinished : last.result = none := by
            obtain ⟨openLists, result⟩ := last
            cases result with
            | none => rfl
            | some value =>
                cases openLists with
                | cons innermost outer => exact absurd ⟨by simp, by simp⟩ before
                | nil =>
                    have early : front.length + opener.length + inner.length ≤ front.length :=
                      noSecond value _ _ rfl starts quotes.ne_closing
                    have filled := List.length_pos_iff.mpr quotes.filled
                    omega
          obtain ⟨beyond, rfl⟩ : ∃ beyond, rest = opener ++ (inner ++ beyond) := by
            rw [starts.chars_append, quotes.chars_eq]
            simp only [List.append_assoc]
            exact ⟨_, rfl⟩
          have viable := viable_quoted cuts taken unfinished starts quotes spells
          have length : front.length + opener.length + inner.length =
              (front ++ (opener ++ inner)).length := by simp [Nat.add_assoc]
          have whole : front ++ (opener ++ (inner ++ beyond)) =
              front ++ (opener ++ inner) ++ beyond := by simp
          rwa [whole, length, List.take_left]

end ReadState

/-- Only a second list, or a quoted token with an escape that means nothing, is not refused where
it begins. -/
theorem SecondValue.late {text : List Char} {start : Nat} {token : Token}
    (second : SecondValue text start token) {error : ReadError}
    (refused : readFrom 0 {} text = .error error) (late : start < error.offset) :
    token = .opening ∨
      ∃ opener body letter, token.Quotes opener body ∧ error.fault = .unknownEscape letter := by
  cases second with
  | @intro front rest after tokens _ value whole cuts denotes starts noEnd =>
      have taken := (ReadState.takeAll_start_iff cuts).mpr denotes
      subst whole
      rw [ReadState.readFrom_cuts cuts taken, Nat.zero_add] at refused
      obtain ⟨first, others, rfl, noBlank⟩ := starts.exists_cons
      rw [readFrom_next noBlank ((next?_eq_some_iff noBlank).mpr starts)] at refused
      cases accepted : ReadState.accept ⟨[], some value⟩ front.length token with
      | ok next =>
          obtain ⟨mark, denotes, reads⟩ := (ReadState.accept_eq_ok_iff starts _).mp accepted
          have overfull := reads.overfull (by simp)
          rcases reads.of_overfull overfull with already | ⟨rfl, -⟩
          · exact absurd rfl already.1
          · cases denotes
            exact .inl rfl
      | error found =>
          rw [accepted] at refused
          cases refused
          cases ReadState.refuses_of_accept starts accepted with
          | unmatched => exact absurd rfl noEnd
          | second => exact absurd late (Nat.lt_irrefl _)
          | unknownEscape _ _ quotes => exact .inr ⟨_, _, _, quotes, rfl⟩

/-- The offset of an error is one of the text, and the part in front of it can be made a text that
holds a value exactly if no second value begins in that part. If one does, it is a list, or a
quoted token with an escape that means nothing. -/
theorem read_error_viable {text : String} {error : ReadError} (refused : read text = .error error) :
    error.offset ≤ text.length ∧
    (Viable (text.toList.take error.offset) ↔
      ∀ start token, SecondValue text.toList start token → error.offset ≤ start) ∧
    ∀ start token, SecondValue text.toList start token → start < error.offset →
      token = .opening ∨
        ∃ opener body letter, token.Quotes opener body ∧ error.fault = .unknownEscape letter := by
  rw [← String.length_toList]
  rw [read] at refused
  generalize text.toList = chars at refused ⊢
  obtain ⟨front, rest, tokens, last, rfl, cuts, taken, fails⟩ := ReadState.exists_fails refused
  rw [Nat.zero_add] at fails
  obtain ⟨width, inside, offset⟩ := fails.exists_width
  refine ⟨?_, ⟨?_, ?_⟩, fun start token second late => second.late refused late⟩
  · rw [offset, List.length_append]
    omega
  · intro viable start token second
    by_contra late
    exact second.not_viable (Nat.not_le.mp late) viable
  · intro noSecond
    have before : ¬last.Overfull := by
      intro overfull
      obtain ⟨earlier, later, after, firsts, value, rfl, firstCuts, firstTaken, starts, filled⟩ :=
        ReadState.exists_second cuts taken overfull (fun start => start.1 rfl)
      have denotes := (ReadState.takeAll_start_iff firstCuts).mp firstTaken
      have early := noSecond _ _
        (.intro (List.append_assoc _ _ _) firstCuts denotes starts (by simp))
      have longer := List.length_pos_iff.mpr filled
      rw [offset, List.length_append] at early
      omega
    refine ReadState.viable_of_fails cuts taken before fails fun value token after same starts
      noEnd => ?_
    subst same
    exact noSecond _ _ (.intro rfl cuts ((ReadState.takeAll_start_iff cuts).mp taken) starts noEnd)

theorem starts_letter {c : Char} {after : List Char} (isBare : isBareChar c = true)
    (ends : ∀ first ∈ after.head?, isBareChar first = false) (noColon : c ≠ ':') :
    Starts ([c] ++ after) (.bare [c]) after :=
  .bare (by simp) (by simpa using isBare) ends fun _ _ _ same =>
    noColon (List.cons.inj same).1

/-- The part in front of the escape becomes a list with a closing quote and a parenthesis. -/
theorem read_error_viable_unknownEscape :
    let text := "(a \"b\\q\""
    let error : ReadError := ⟨.unknownEscape 'q', 5⟩
    read text = .error error ∧ error.offset ≤ text.length ∧
      Viable (text.toList.take error.offset) ∧
      ∀ start token, SecondValue text.toList start token → error.offset ≤ start := by
  intro text error
  let rest := ['"', 'b', '\\', 'q', '"']
  have space : Cuts rest [' '] [] := .blank (by decide) .nil
  have name : Starts (['a'] ++ ([' '] ++ rest)) (.bare ['a']) ([' '] ++ rest) :=
    starts_letter (by decide) (by simp; decide) (by decide)
  have named : Cuts rest ((Token.bare ['a']).chars ++ [' ']) [.bare ['a']] := .token name space
  have cuts : Cuts rest (Token.opening.chars ++ ['a', ' ']) [.opening, .bare ['a']] :=
    .token (.opening _) named
  have taken : ReadState.takeAll {} [.opening, .bare ['a']] = .ok ⟨[[.atom "a"]], none⟩ := rfl
  have isBody : IsBody ['b', '\\', 'q'] := .plain (by decide) (by decide) (.pair 'q' .nil)
  have starts : Starts rest (.quotedText ['b', '\\', 'q']) [] := .quotedText isBody []
  have whole : text.toList = Token.opening.chars ++ ['a', ' '] ++ rest := by decide
  have refused : read text = .error error := by
    rw [read, whole, ReadState.readFrom_cuts cuts taken]
    exact readFrom_next (by decide) ((next?_eq_some_iff (by decide)).mpr starts) _ _
  have viable : Viable (text.toList.take error.offset) := by
    have spells : Spells ['b'] ['b'] := .plain (by decide) (by decide) .nil
    have front : text.toList.take error.offset =
        Token.opening.chars ++ ['a', ' '] ++ (['"'] ++ ['b']) := by decide
    rw [front]
    exact ReadState.viable_quoted cuts taken rfl starts (.text _) spells
  obtain ⟨inside, viable_iff, -⟩ := read_error_viable refused
  exact ⟨refused, inside, viable, viable_iff.mp viable⟩

/-- The second list begins at its opening parenthesis, but is refused at its closing one. -/
theorem exists_error_not_viable :
    let text := "(a) (b)"
    let error : ReadError := ⟨.trailingValue, 6⟩
    read text = .error error ∧ SecondValue text.toList 4 .opening ∧
      ¬Viable (text.toList.take error.offset) := by
  intro text error
  let rest := ['(', 'b', ')']
  have space : Cuts rest [' '] [] := .blank (by decide) .nil
  have closed : Cuts rest (Token.closing.chars ++ [' ']) [.closing] := .token (.closing _) space
  have name : Starts (['a'] ++ ([')', ' '] ++ rest)) (.bare ['a']) ([')', ' '] ++ rest) :=
    starts_letter (by decide) (by simp; decide) (by decide)
  have named : Cuts rest ((Token.bare ['a']).chars ++ [')', ' ']) [.bare ['a'], .closing] :=
    .token name closed
  have cuts : Cuts rest (Token.opening.chars ++ ['a', ')', ' '])
      [.opening, .bare ['a'], .closing] := .token (.opening _) named
  have whole : text.toList = Token.opening.chars ++ ['a', ')', ' '] ++ rest := by decide
  have denotes : List.Forall₂ Denotes [.opening, .bare ['a'], .closing]
      (Sexp.seq [.atom "a"]).marks :=
    .cons .opening (.cons (denotes_bare_iff.mpr rfl) (.cons .closing .nil))
  have second : SecondValue text.toList 4 .opening :=
    .intro whole cuts denotes (.opening _) (by simp)
  have item : Starts (['b'] ++ ([] ++ [')'])) (.bare ['b']) ([] ++ [')']) :=
    starts_letter (by decide) (by simp; decide) (by decide)
  have inside : Cuts [')'] ((Token.bare ['b']).chars ++ []) [.bare ['b']] := .token item .nil
  have refused : read text = .error error := by
    rw [read, whole, ReadState.readFrom_cuts cuts ((ReadState.takeAll_start_iff cuts).mpr denotes)]
    refine (readFrom_opening _ _ _).trans ((ReadState.readFrom_cuts inside rfl _).trans ?_)
    have closing : Token.next? ')' [] = some (.closing, []) := rfl
    exact readFrom_next (by decide) closing _ _
  exact ⟨refused, second, second.not_viable (by decide)⟩

end Sexp

end NodeForms
