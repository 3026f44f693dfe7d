import NodeForms.Proofs.Sexp.Acceptance

/-!
# How a reading fails

A reading fails at the end of the text, at a double quote without a partner, or at a token that
the state does not take. Here each of these ways has its fault and its offset, counted from where
the reading stands, so that what is said of all errors needs one case for each way.
-/

namespace NodeForms

namespace Sexp

theorem Starts.chars_append {chars after : List Char} {token : Token}
    (starts : Starts chars token after) : chars = token.chars ++ after := by
  cases starts <;> simp [Token.chars]

/-- A quoted token, what stands in front of its body, and its body. -/
inductive Token.Quotes : Token → List Char → List Char → Prop
  | atom (body : List Char) : Quotes (.quotedAtom body) [':', '"'] body
  | text (body : List Char) : Quotes (.quotedText body) ['"'] body

theorem Token.Quotes.chars_eq {token : Token} {opener body : List Char}
    (quotes : token.Quotes opener body) : token.chars = opener ++ (body ++ ['"']) := by
  cases quotes <;> rfl

theorem Token.Quotes.filled {token : Token} {opener body : List Char}
    (quotes : token.Quotes opener body) : opener ≠ [] := by
  cases quotes <;> exact List.cons_ne_nil _ _

theorem Token.Quotes.ne_closing {token : Token} {opener body : List Char}
    (quotes : token.Quotes opener body) : token ≠ .closing := by
  cases quotes <;> simp

theorem unquote_eq_error {body : List Char} (isBody : IsBody body) {offset : Nat}
    {error : ReadError} (refused : unquote offset body = .error error) :
    ∃ front content letter rest, body = front ++ '\\' :: letter :: rest ∧ Spells front content ∧
      error = ⟨.unknownEscape letter, offset + front.length⟩ := by
  induction isBody generalizing offset with
  | nil => cases refused
  | @plain c rest noQuote noSlash _ ih =>
      rw [unquote.eq_3 offset c rest (fun _ _ slash => absurd slash noSlash)] at refused
      cases inner : unquote (offset + 1) rest with
      | ok content =>
          rw [inner] at refused
          cases refused
      | error found =>
          rw [inner] at refused
          cases refused
          obtain ⟨front, content, letter, later, rfl, spells, rfl⟩ := ih inner
          refine ⟨c :: front, c :: content, letter, later, rfl, .plain noQuote noSlash spells, ?_⟩
          simp only [List.length_cons, ReadError.mk.injEq, true_and]
          omega
  | @pair c rest _ ih =>
      rw [unquote] at refused
      cases meantEq : unescapeChar c with
      | none =>
          rw [meantEq] at refused
          cases refused
          exact ⟨[], [], c, rest, rfl, .nil, rfl⟩
      | some meant =>
          rw [meantEq] at refused
          cases inner : unquote (offset + 2) rest with
          | ok content =>
              rw [inner] at refused
              cases refused
          | error found =>
              rw [inner] at refused
              cases refused
              obtain ⟨front, content, letter, later, rfl, spells, rfl⟩ := ih inner
              refine ⟨'\\' :: c :: front, meant :: content, letter, later, rfl,
                .escape (unescapeChar_eq_some_iff.mp meantEq) spells, ?_⟩
              simp only [List.length_cons, ReadError.mk.injEq, true_and]
              omega

namespace ReadState

/-- How a state refuses a token that starts at an offset. -/
inductive Refuses : ReadState → Nat → Token → ReadError → Prop
  | unmatched (result : Option Sexp) (offset : Nat) :
      Refuses ⟨[], result⟩ offset .closing ⟨.unmatchedClosing, offset⟩
  | secondList (items : List Sexp) (value : Sexp) (offset : Nat) :
      Refuses ⟨[items], some value⟩ offset .closing ⟨.trailingValue, offset⟩
  | second (value : Sexp) (offset : Nat) (token : Token) :
      Refuses ⟨[], some value⟩ offset token ⟨.trailingValue, offset⟩
  | unknownEscape {token : Token} {opener front content rest : List Char} {letter : Char}
      (state : ReadState) (offset : Nat)
      (quotes : token.Quotes opener (front ++ '\\' :: letter :: rest))
      (spells : Spells front content) :
      Refuses state offset token
        ⟨.unknownEscape letter, offset + opener.length + front.length⟩

theorem add_eq_error {state : ReadState} {offset : Nat} {value : Sexp} {error : ReadError}
    (refused : state.add offset value = .error error) :
    ∃ first, state = ⟨[], some first⟩ ∧ error = ⟨.trailingValue, offset⟩ := by
  obtain ⟨openLists, result⟩ := state
  cases openLists with
  | cons innermost outer => cases refused
  | nil =>
      cases result with
      | none => cases refused
      | some first =>
          cases refused
          exact ⟨first, rfl, rfl⟩

theorem refuses_quoted {token : Token} {opener body : List Char} (quotes : token.Quotes opener body)
    (isBody : IsBody body) {state : ReadState} {offset : Nat} {made : List Char → Sexp}
    {error : ReadError}
    (refused : (unquote (offset + opener.length) body >>= fun content =>
      state.add offset (made content)) = .error error) :
    state.Refuses offset token error := by
  cases unquoted : unquote (offset + opener.length) body with
  | error found =>
      rw [unquoted] at refused
      cases refused
      obtain ⟨front, content, letter, rest, rfl, spells, rfl⟩ := unquote_eq_error isBody unquoted
      exact .unknownEscape state offset quotes spells
  | ok content =>
      rw [unquoted] at refused
      obtain ⟨first, rfl, rfl⟩ := add_eq_error refused
      exact .second first offset token

theorem refuses_of_accept {chars after : List Char} {token : Token}
    (starts : Starts chars token after) {state : ReadState} {offset : Nat} {error : ReadError}
    (refused : state.accept offset token = .error error) : state.Refuses offset token error := by
  cases starts with
  | opening => cases refused
  | closing =>
      obtain ⟨openLists, result⟩ := state
      cases openLists with
      | nil =>
          cases refused
          exact .unmatched result offset
      | cons innermost outer =>
          obtain ⟨first, same, rfl⟩ := add_eq_error refused
          obtain ⟨rfl, rfl⟩ := ReadState.mk.inj same
          exact .secondList innermost first offset
  | quotedAtom isBody => exact refuses_quoted (.atom _) isBody refused
  | quotedText isBody => exact refuses_quoted (.text _) isBody refused
  | bare =>
      obtain ⟨first, rfl, rfl⟩ := add_eq_error refused
      exact .second first offset _

/-- How a reading fails at once that stands at an offset in front of some characters. -/
inductive Fails : Nat → ReadState → List Char → ReadError → Prop
  | unmatched (items : List Sexp) (outer : List (List Sexp)) (result : Option Sexp)
      (offset : Nat) : Fails offset ⟨items :: outer, result⟩ [] ⟨.unmatchedOpening, offset⟩
  | noValue (offset : Nat) : Fails offset ⟨[], none⟩ [] ⟨.noValue, offset⟩
  | unclosed {rest : List Char} (state : ReadState) (offset : Nat)
      (noEnd : ∀ body after, IsBody body → rest ≠ body ++ '"' :: after) :
      Fails offset state ('"' :: rest) ⟨.unexpectedCharacter '"', offset⟩
  | token {chars after : List Char} {token : Token} {state : ReadState} {offset : Nat}
      {error : ReadError} (starts : Starts chars token after)
      (refuses : state.Refuses offset token error) : Fails offset state chars error

theorem fails_of_finish {state : ReadState} {offset : Nat} {error : ReadError}
    (refused : state.finish offset = .error error) : Fails offset state [] error := by
  obtain ⟨openLists, result⟩ := state
  cases openLists with
  | cons innermost outer =>
      cases refused
      exact .unmatched innermost outer result offset
  | nil =>
      cases result with
      | none =>
          cases refused
          exact .noValue offset
      | some value => cases refused

theorem fails_of_next? {first : Char} {rest : List Char} (stuck : Token.next? first rest = none)
    (state : ReadState) (offset : Nat) :
    Fails offset state (first :: rest) ⟨.unexpectedCharacter first, offset⟩ := by
  obtain ⟨rfl, noBody⟩ := next?_eq_none_iff.mp stuck
  refine .unclosed state offset fun body after isBody same => ?_
  rw [quotedBody?_eq_some_iff.mpr ⟨isBody, same⟩] at noBody
  cases noBody

end ReadState

end Sexp

end NodeForms
