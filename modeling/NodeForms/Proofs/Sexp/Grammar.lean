import NodeForms.Proofs.Computation
import NodeForms.Sexp.Reader

/-!
# The grammar of texts

What a text has to be for it to hold a value, said without the reader. A text splits into runs
of blanks and tokens, and a position where several tokens could start has the first of them in
a fixed order. Each token stands for a mark of a flat form: a parenthesis, or a value that is
no list. The cutting of the reader is shown to be this splitting.
-/

namespace NodeForms

namespace Sexp

def IsGap (chars : List Char) : Prop := chars ≠ [] ∧ ∀ c ∈ chars, isBlank c = true

theorem isBlank_of_isBareChar {c : Char} (bare : isBareChar c = true) : isBlank c = false := by
  cases blank : isBlank c with
  | false => rfl
  | true => simp [isBareChar, blank] at bare

theorem bareRun_append {run after : List Char} (bare : ∀ c ∈ run, isBareChar c = true)
    (ends : ∀ c ∈ after.head?, isBareChar c = false) :
    bareRun (run ++ after) = (run, after) := by
  have stops : after.takeWhile isBareChar = [] ∧ after.dropWhile isBareChar = after := by
    cases after with
    | nil => exact ⟨rfl, rfl⟩
    | cons c after => simp [ends c rfl]
  rw [bareRun, List.takeWhile_append_of_pos bare, List.dropWhile_append_of_pos bare, stops.1,
    stops.2, List.append_nil]

theorem bareRun_spec {chars run after : List Char} (found : bareRun chars = (run, after)) :
    chars = run ++ after ∧ (∀ c ∈ run, isBareChar c = true) ∧
      ∀ c ∈ after.head?, isBareChar c = false := by
  obtain ⟨rfl, rfl⟩ := Prod.mk.inj found
  refine ⟨List.takeWhile_append_dropWhile.symm,
    List.all_eq_true.mp List.all_takeWhile, fun c isFirst => ?_⟩
  have stopped := List.head?_dropWhile_not isBareChar chars
  rw [Option.mem_def.mp isFirst] at stopped
  exact stopped

/-- Characters that can stand between two double quotes: a backslash takes the next character
along, and no other one is a double quote. -/
inductive IsBody : List Char → Prop
  | nil : IsBody []
  | plain {c : Char} {rest : List Char} (noQuote : c ≠ '"') (noSlash : c ≠ '\\')
      (body : IsBody rest) : IsBody (c :: rest)
  | pair (c : Char) {rest : List Char} (body : IsBody rest) : IsBody ('\\' :: c :: rest)

def escapes : List (Char × Char) :=
  [('n', '\n'), ('t', '\t'), ('r', '\r'), ('"', '"'), ('\\', '\\')]

/-- The content that a body spells. A backslash starts one of the escapes. -/
inductive Spells : List Char → List Char → Prop
  | nil : Spells [] []
  | plain {c : Char} {body content : List Char} (noQuote : c ≠ '"') (noSlash : c ≠ '\\')
      (rest : Spells body content) : Spells (c :: body) (c :: content)
  | escape {letter meant : Char} {body content : List Char}
      (known : (letter, meant) ∈ escapes) (rest : Spells body content) :
      Spells ('\\' :: letter :: body) (meant :: content)

theorem Spells.isBody {body content : List Char} (spells : Spells body content) : IsBody body := by
  induction spells with
  | nil => exact .nil
  | plain noQuote noSlash _ ih => exact .plain noQuote noSlash ih
  | @escape letter _ _ _ _ _ ih => exact .pair letter ih

theorem quotedBody?_eq_some_iff {chars body after : List Char} :
    quotedBody? chars = some (body, after) ↔ IsBody body ∧ chars = body ++ '"' :: after := by
  constructor
  · intro found
    fun_induction quotedBody? chars generalizing body with
    | case1 => cases found
    | case2 rest =>
        cases found
        exact ⟨.nil, rfl⟩
    | case3 => cases found
    | case4 c rest ih =>
        obtain ⟨⟨inner, final⟩, innerFound, same⟩ := Option.map_eq_some_iff.mp found
        cases same
        obtain ⟨isBody, rfl⟩ := ih innerFound
        exact ⟨.pair c isBody, rfl⟩
    | case5 c rest noQuote noEnd noPair ih =>
        obtain ⟨⟨inner, final⟩, innerFound, same⟩ := Option.map_eq_some_iff.mp found
        cases same
        obtain ⟨isBody, rfl⟩ := ih innerFound
        have noSlash : c ≠ '\\' := by
          rintro rfl
          cases inner with
          | nil => exact noPair '"' after rfl rfl
          | cons second inner => exact noPair second (inner ++ '"' :: after) rfl rfl
        exact ⟨.plain noQuote noSlash isBody, rfl⟩
  · rintro ⟨isBody, rfl⟩
    induction isBody with
    | nil => rfl
    | plain noQuote noSlash _ ih =>
        rw [List.cons_append, quotedBody?.eq_5 _ _ noQuote
          (fun slash => absurd slash noSlash) (fun _ _ slash => absurd slash noSlash), ih]
        rfl
    | pair c _ ih =>
        rw [List.cons_append, List.cons_append, quotedBody?, ih]
        rfl

theorem unescapeChar_eq_some_iff {letter meant : Char} :
    unescapeChar letter = some meant ↔ (letter, meant) ∈ escapes := by
  unfold unescapeChar
  split <;> simp_all [escapes, eq_comm]

/-- Taking the escapes away succeeds exactly for a body that spells something. -/
theorem unquote_eq_ok_iff {body content : List Char} (isBody : IsBody body) {offset : Nat} :
    unquote offset body = .ok content ↔ Spells body content := by
  induction isBody generalizing offset content with
  | nil =>
      constructor
      · rintro ⟨⟩
        exact .nil
      · rintro ⟨⟩
        rfl
  | @plain c rest noQuote noSlash _ ih =>
      rw [unquote.eq_3 offset c rest (fun _ _ slash => absurd slash noSlash), map_eq_ok]
      constructor
      · rintro ⟨inner, spelled, rfl⟩
        exact .plain noQuote noSlash (ih.mp spelled)
      · intro spells
        cases spells with
        | plain _ _ spelled => exact ⟨_, ih.mpr spelled, rfl⟩
        | escape => exact absurd rfl noSlash
  | @pair c rest _ ih =>
      rw [unquote]
      cases meantEq : unescapeChar c with
      | none =>
          constructor
          · rintro ⟨⟩
          · intro spells
            cases spells with
            | plain _ noSlash => exact absurd rfl noSlash
            | escape known =>
                rw [unescapeChar_eq_some_iff.mpr known] at meantEq
                cases meantEq
      | some meant =>
          rw [map_eq_ok]
          constructor
          · rintro ⟨inner, spelled, rfl⟩
            exact .escape (unescapeChar_eq_some_iff.mp meantEq) (ih.mp spelled)
          · intro spells
            cases spells with
            | plain _ noSlash => exact absurd rfl noSlash
            | escape known spelled =>
                rw [unescapeChar_eq_some_iff.mpr known] at meantEq
                cases meantEq
                exact ⟨_, ih.mpr spelled, rfl⟩

/-- The token that some characters start with, and what follows it. A bare run goes on as long
as it can, and a colon is one only where no quoted atom starts. -/
inductive Starts : List Char → Token → List Char → Prop
  | opening (after : List Char) : Starts ('(' :: after) .opening after
  | closing (after : List Char) : Starts (')' :: after) .closing after
  | quotedAtom {body : List Char} (isBody : IsBody body) (after : List Char) :
      Starts (':' :: '"' :: (body ++ '"' :: after)) (.quotedAtom body) after
  | quotedText {body : List Char} (isBody : IsBody body) (after : List Char) :
      Starts ('"' :: (body ++ '"' :: after)) (.quotedText body) after
  | bare {run after : List Char} (filled : run ≠ []) (isBare : ∀ c ∈ run, isBareChar c = true)
      (ends : ∀ c ∈ after.head?, isBareChar c = false)
      (noAtom : ∀ body rest, IsBody body → run ++ after ≠ ':' :: '"' :: (body ++ '"' :: rest)) :
      Starts (run ++ after) (.bare run) after

/-- The tokens of a text that splits completely, in order. -/
inductive Splits : List Char → List Token → Prop
  | nil : Splits [] []
  | blanks {run after : List Char} {tokens : List Token} (apart : IsGap run)
      (ends : ∀ c ∈ after.head?, isBlank c = false) (rest : Splits after tokens) :
      Splits (run ++ after) tokens
  | token {chars after : List Char} {token : Token} {tokens : List Token}
      (starts : Starts chars token after) (rest : Splits after tokens) :
      Splits chars (token :: tokens)

theorem ne_of_isBareChar {c other : Char} (bare : isBareChar c = true)
    (special : isBareChar other = false) : c ≠ other := by
  rintro rfl
  rw [bare] at special
  cases special

theorem Starts.exists_cons {chars after : List Char} {token : Token}
    (starts : Starts chars token after) :
    ∃ first rest, chars = first :: rest ∧ isBlank first = false := by
  cases starts with
  | opening => exact ⟨_, _, rfl, by decide⟩
  | closing => exact ⟨_, _, rfl, by decide⟩
  | quotedAtom => exact ⟨_, _, rfl, by decide⟩
  | quotedText => exact ⟨_, _, rfl, by decide⟩
  | @bare run after filled isBare =>
      obtain ⟨first, run, rfl⟩ := List.exists_cons_of_ne_nil filled
      exact ⟨first, run ++ after, rfl, isBlank_of_isBareChar (isBare first (by simp))⟩

/-- A bare run is cut off as one token, unless its colon belongs to a quoted atom. -/
theorem next?_run {first : Char} {run after : List Char}
    (isBare : ∀ c ∈ first :: run, isBareChar c = true)
    (ends : ∀ c ∈ after.head?, isBareChar c = false)
    (noAtom : ∀ body rest, IsBody body →
      first :: (run ++ after) ≠ ':' :: '"' :: (body ++ '"' :: rest)) :
    Token.next? first (run ++ after) = some (.bare (first :: run), after) := by
  have firstBare := isBare first (by simp)
  have runBare : ∀ c ∈ run, isBareChar c = true := fun c member => isBare c (by simp [member])
  unfold Token.next?
  rw [if_neg (ne_of_isBareChar firstBare (by decide)),
    if_neg (ne_of_isBareChar firstBare (by decide)),
    if_neg (ne_of_isBareChar firstBare (by decide)), bareRun_append runBare ends]
  split
  · rename_i quotedRest quote
    cases bodyFound : quotedBody? quotedRest with
    | none => rfl
    | some cut =>
        obtain ⟨isBody, spelled⟩ := quotedBody?_eq_some_iff.mp bodyFound
        exact absurd (by rw [quote, spelled]) (noAtom cut.1 cut.2 isBody)
  · rfl

/-- The reader cuts off exactly the token that starts at a character that is no blank. -/
theorem next?_eq_some_iff {first : Char} {rest after : List Char} {token : Token}
    (noBlank : isBlank first = false) :
    Token.next? first rest = some (token, after) ↔ Starts (first :: rest) token after := by
  constructor
  · intro found
    unfold Token.next? at found
    split at found
    · rename_i isOpening
      cases found
      rw [isOpening]
      exact .opening _
    split at found
    · rename_i isClosing
      cases found
      rw [isClosing]
      exact .closing _
    split at found
    · rename_i isQuote
      obtain ⟨⟨body, final⟩, bodyFound, same⟩ := Option.map_eq_some_iff.mp found
      cases same
      obtain ⟨isBody, rfl⟩ := quotedBody?_eq_some_iff.mp bodyFound
      rw [isQuote]
      exact .quotedText isBody after
    rename_i noOpening noClosing noQuote
    have firstBare : isBareChar first = true := by
      simp [isBareChar, noBlank, noOpening, noClosing, noQuote]
    -- Whatever is left is a bare run, once no quoted atom starts here.
    have bareStarts (plain : some (Token.bare (first :: (bareRun rest).1), (bareRun rest).2) =
          some (token, after))
        (noAtom : ∀ body later, IsBody body →
          first :: rest ≠ ':' :: '"' :: (body ++ '"' :: later)) :
        Starts (first :: rest) token after := by
      generalize cutEq : bareRun rest = cut at plain
      obtain ⟨run, later⟩ := cut
      obtain ⟨rfl, rfl⟩ := Prod.mk.inj (Option.some.inj plain)
      obtain ⟨rfl, runBare, ends⟩ := bareRun_spec cutEq
      exact Starts.bare (List.cons_ne_nil first run) (by simpa [firstBare] using runBare) ends
        noAtom
    split at found
    · rename_i quotedRest
      split at found
      · rename_i body final bodyFound
        cases found
        obtain ⟨isBody, rfl⟩ := quotedBody?_eq_some_iff.mp bodyFound
        exact .quotedAtom isBody after
      · rename_i noBody
        refine bareStarts found fun body later isBody same => ?_
        cases same
        rw [quotedBody?_eq_some_iff.mpr ⟨isBody, rfl⟩] at noBody
        cases noBody
    · rename_i noColon
      refine bareStarts found fun body later isBody same => ?_
      cases same
      exact noColon _ rfl rfl
  · intro starts
    generalize spelled : first :: rest = chars at starts
    cases starts with
    | opening =>
        cases spelled
        simp [Token.next?]
    | closing =>
        cases spelled
        simp [Token.next?]
    | quotedAtom isBody =>
        cases spelled
        simp [Token.next?, quotedBody?_eq_some_iff.mpr ⟨isBody, rfl⟩]
    | quotedText isBody =>
        cases spelled
        simp [Token.next?, quotedBody?_eq_some_iff.mpr ⟨isBody, rfl⟩]
    | @bare run _ filled isBare ends noAtom =>
        obtain ⟨c, run, rfl⟩ := List.exists_cons_of_ne_nil filled
        obtain ⟨rfl, rfl⟩ := List.cons.inj spelled
        exact next?_run isBare ends noAtom

end Sexp

end NodeForms
