import NodeForms.Sexp.Printer

/-!
# Reading S-expressions

A text is cut into tokens, the longest one that starts at each position: parentheses,
quoted atoms, quoted texts and bare runs. A stack of open lists collects the values.
An error names its cause and the offset at which reading failed.
-/

namespace NodeForms

namespace Sexp

/-- A token of the notation; quoted bodies are kept as they are written. -/
inductive Token where
  | opening
  | closing
  | quotedAtom (body : List Char)
  | quotedText (body : List Char)
  | bare (run : List Char)
deriving DecidableEq, Repr

def Token.chars : Token → List Char
  | .opening => ['(']
  | .closing => [')']
  | .quotedAtom body => ':' :: '"' :: (body ++ ['"'])
  | .quotedText body => '"' :: (body ++ ['"'])
  | .bare run => run

/-- How many characters a token takes. -/
def Token.width : Token → Nat
  | .opening => 1
  | .closing => 1
  | .quotedAtom body => body.length + 3
  | .quotedText body => body.length + 2
  | .bare run => run.length

/-- What stands before the closing quote, where a backslash takes the next character along,
and what follows that quote. -/
def quotedBody? : List Char → Option (List Char × List Char)
  | [] => none
  | '"' :: rest => some ([], rest)
  | ['\\'] => none
  | '\\' :: c :: rest =>
      (quotedBody? rest).map fun (body, after) => ('\\' :: c :: body, after)
  | c :: rest => (quotedBody? rest).map fun (body, after) => (c :: body, after)

theorem quotedBody?_length (chars body rest : List Char)
    (found : quotedBody? chars = some (body, rest)) : rest.length < chars.length := by
  fun_induction quotedBody? chars generalizing body rest with
  | case1 => simp at found
  | case2 after => simp at found; simp [found]
  | case3 => simp at found
  | case4 c after ih =>
      simp only [Option.map_eq_some_iff, Prod.exists, Prod.mk.injEq] at found
      obtain ⟨inner, final, innerFound, -, rfl⟩ := found
      have := ih inner final innerFound
      simp; omega
  | case5 c after _ _ _ ih =>
      simp only [Option.map_eq_some_iff, Prod.exists, Prod.mk.injEq] at found
      obtain ⟨inner, final, innerFound, -, rfl⟩ := found
      have := ih inner final innerFound
      simp; omega

def bareRun (chars : List Char) : List Char × List Char :=
  (chars.takeWhile isBareChar, chars.dropWhile isBareChar)

/-- The token that starts at a character that is no blank, with the rest after it. Only a
double quote without a partner starts none. -/
def Token.next? (first : Char) (rest : List Char) : Option (Token × List Char) :=
  if first = '(' then some (.opening, rest)
  else if first = ')' then some (.closing, rest)
  else if first = '"' then
    (quotedBody? rest).map fun (body, after) => (.quotedText body, after)
  else
    let plain : Token × List Char :=
      (.bare (first :: (bareRun rest).1), (bareRun rest).2)
    match first, rest with
    | ':', '"' :: quotedRest =>
        match quotedBody? quotedRest with
        | some (body, after) => some (.quotedAtom body, after)
        | none => some plain
    | _, _ => some plain

theorem dropWhile_length_le (test : Char → Bool) (chars : List Char) :
    (chars.dropWhile test).length ≤ chars.length := by
  induction chars with
  | nil => simp
  | cons c chars ih =>
      simp only [List.dropWhile_cons]
      split
      · simp; omega
      · simp

theorem Token.next?_length {first : Char} {rest after : List Char} {token : Token}
    (found : Token.next? first rest = some (token, after)) :
    after.length < rest.length + 1 := by
  unfold Token.next? at found
  split at found
  · simp at found; simp [found.2]
  · split at found
    · simp at found; simp [found.2]
    · split at found
      · simp only [Option.map_eq_some_iff, Prod.exists, Prod.mk.injEq] at found
        obtain ⟨body, final, bodyFound, -, rfl⟩ := found
        have := quotedBody?_length rest body final bodyFound
        omega
      · split at found
        · split at found
          · rename_i quotedRest _ _ _ bodyFound
            simp at found
            have := quotedBody?_length _ _ _ bodyFound
            simp [← found.2]; omega
          · simp only [Option.some.injEq, Prod.mk.injEq] at found
            have := dropWhile_length_le isBareChar ('"' :: ‹List Char›)
            simp only [← found.2, bareRun]
            omega
        · simp only [Option.some.injEq, Prod.mk.injEq] at found
          have := dropWhile_length_le isBareChar rest
          simp only [← found.2, bareRun]
          omega

/-- Why a text is no value. -/
inductive ReadFault where
  | unexpectedCharacter (c : Char)
  | unmatchedClosing
  | unknownEscape (c : Char)
  | trailingValue
  | unmatchedOpening
  | noValue
deriving DecidableEq, Repr

def ReadFault.message : ReadFault → String
  | .unexpectedCharacter c => "Unexpected character " ++ quoted (String.singleton c)
  | .unmatchedClosing => "Unbalanced ')'"
  | .unknownEscape c => "Unknown escape sequence \\" ++ String.singleton c
  | .trailingValue => "Unexpected trailing value"
  | .unmatchedOpening => "Unbalanced '(': missing ')'"
  | .noValue => "No value found"

/-- A fault at an offset, counted in characters. -/
structure ReadError where
  fault : ReadFault
  offset : Nat
deriving DecidableEq, Repr

def ReadError.messageAt (bare : String) (offset : Int) : String :=
  bare ++ " at offset " ++ integerText offset

def ReadError.message (error : ReadError) : String :=
  messageAt error.fault.message error.offset

def unescapeChar : Char → Option Char
  | 'n' => some '\n'
  | 't' => some '\t'
  | 'r' => some '\r'
  | '\\' => some '\\'
  | '"' => some '"'
  | _ => none

def unquote (offset : Nat) : List Char → Except ReadError (List Char)
  | [] => .ok []
  | '\\' :: c :: rest =>
      match unescapeChar c with
      | none => .error ⟨.unknownEscape c, offset⟩
      | some plain => (unquote (offset + 2) rest).map (plain :: ·)
  | c :: rest => (unquote (offset + 1) rest).map (c :: ·)

def integerOfRun : List Char → Int
  | '-' :: digits => -(naturalOfDigits digits : Int)
  | digits => naturalOfDigits digits

def ofBareRun (run : List Char) : Sexp :=
  if isIntegerRun run then .int (integerOfRun run) else .atom (String.ofList run)

/-- The open lists, innermost first, each with its latest element first, and the value
read at the top. -/
structure ReadState where
  openLists : List (List Sexp) := []
  result : Option Sexp := none

namespace ReadState

/-- Put a finished value, whose last token starts at `offset`, where it belongs. -/
def add (state : ReadState) (offset : Nat) (value : Sexp) : Except ReadError ReadState :=
  match state.openLists, state.result with
  | innermost :: outer, _ => .ok { state with openLists := (value :: innermost) :: outer }
  | [], none => .ok { state with result := some value }
  | [], some _ => .error ⟨.trailingValue, offset⟩

def accept (state : ReadState) (offset : Nat) : Token → Except ReadError ReadState
  | .opening => .ok { state with openLists := [] :: state.openLists }
  | .closing =>
      match state.openLists with
      | [] => .error ⟨.unmatchedClosing, offset⟩
      | innermost :: outer =>
          add { state with openLists := outer } offset (.seq innermost.reverse)
  | .quotedAtom body => do
      let content ← unquote (offset + 2) body
      state.add offset (.atom (String.ofList content))
  | .quotedText body => do
      let content ← unquote (offset + 1) body
      state.add offset (.text (String.ofList content))
  | .bare run => state.add offset (ofBareRun run)

def finish (state : ReadState) (offset : Nat) : Except ReadError Sexp :=
  match state.openLists, state.result with
  | _ :: _, _ => .error ⟨.unmatchedOpening, offset⟩
  | [], none => .error ⟨.noValue, offset⟩
  | [], some value => .ok value

end ReadState

/-- Read the rest of a text, which starts at `offset`, token by token. -/
def readWith {Fault : Type} (refused : ReadError → Fault)
    (accept : ReadState → Nat → Token → Except Fault ReadState) (offset : Nat)
    (state : ReadState) : List Char → Except Fault Sexp
  | [] => (state.finish offset).mapError refused
  | first :: rest =>
      if isBlank first then readWith refused accept (offset + 1) state rest
      else
        match _found : Token.next? first rest with
        | none => .error (refused ⟨.unexpectedCharacter first, offset⟩)
        | some (token, after) =>
            match accept state offset token with
            | .error fault => .error fault
            | .ok next => readWith refused accept (offset + token.width) next after
termination_by chars => chars.length
decreasing_by
  · simp
  · have := Token.next?_length _found
    simpa using this

def readFrom (offset : Nat) (state : ReadState) (chars : List Char) : Except ReadError Sexp :=
  readWith id ReadState.accept offset state chars

/-- Read the one value a text holds if all runs of digits are converted. -/
def read (text : String) : Except ReadError Sexp := readFrom 0 {} text.toList

inductive ReadFailure where
  | refused (error : ReadError)
  | tooManyDigits
deriving DecidableEq, Repr

def Token.exceedsDigits (limit : Option Nat) : Token → Bool
  | .bare run => isIntegerRun run && NodeForms.exceedsDigits limit run
  | _ => false

/-- Take one token. An integer is converted before it is put where it belongs. -/
def ReadState.acceptWithin (limit : Option Nat) (state : ReadState) (offset : Nat)
    (token : Token) : Except ReadFailure ReadState :=
  if token.exceedsDigits limit then .error .tooManyDigits
  else (state.accept offset token).mapError .refused

/-- Read the one value a text holds if runs of digits are converted up to a limit. -/
def readWithin (limit : Option Nat) (text : String) : Except ReadFailure Sexp :=
  readWith .refused (ReadState.acceptWithin limit) 0 {} text.toList

end Sexp

end NodeForms
