import NodeForms.Document.Yaml.Cursor
import NodeForms.Document.Yaml.Fault
import NodeForms.Document.Json.Reader

/-!
# Written scalars

A scalar is written plain, between quotes, or as a block of lines. In each form lines may
be folded: a single line end stands for a space, and of several the first is dropped.
-/

namespace NodeForms

namespace Yaml

def isFlowMark (c : Char) : Bool :=
  c == ',' || c == '[' || c == ']' || c == '\x7b' || c == '\x7d'

/-- The characters of a plain scalar up to the next blank, line end or indicator. -/
def plainRun (flow : Bool) : List Char → List Char
  | [] => []
  | c :: rest =>
      let after := rest.head?
      let endsHere := endsWord (some c)
        || (c == ':' && (endsWord after || (flow && after.any isFlowMark)))
        || (flow && (isFlowMark c || c == '?'))
      if endsHere then [] else c :: plainRun flow rest

/-- The line ends among leading blanks, none at all if they lead to a document mark. -/
def plainBreaks : Nat → Cursor → Option (List Char) × Cursor
  | 0, cursor => (some [], cursor)
  | fuel + 1, cursor =>
      if cursor.sees ' ' then plainBreaks fuel cursor.next
      else
        match cursor.takeBreak with
        | (none, _) => (some [], cursor)
        | (some c, after) =>
            if after.atAnyDocumentMark then (none, after)
            else
              let (others, final) := plainBreaks fuel after
              (others.map (c :: ·), final)

/-- What a line end and those after it stand for between two words. -/
def foldedBreaks (first : Char) (others : List Char) : List Char :=
  if first ≠ '\n' then first :: others
  else if others.isEmpty then [' ']
  else others

/-- What blanks after a word of a plain scalar stand for. -/
structure Gap where
  content : List Char
  broken : Bool
  cursor : Cursor

def plainGap (cursor : Cursor) : Gap :=
  let (spaces, afterSpaces) := cursor.span (· == ' ')
  match afterSpaces.takeBreak with
  | (none, _) => ⟨spaces, false, afterSpaces⟩
  | (some first, after) =>
      if after.atAnyDocumentMark then ⟨[], true, after⟩
      else
        match plainBreaks (after.reach + 1) after with
        | (none, final) => ⟨[], true, final⟩
        | (some others, final) => ⟨foldedBreaks first others, true, final⟩

/-- A scalar that was read, and what follows it. -/
structure ReadScalar where
  content : List Char
  broken : Bool
  cursor : Cursor

def plainWords (flow : Bool) (indent : Int) (pending : List Char) (broken : Bool) :
    Nat → Cursor → ReadScalar
  | 0, cursor => ⟨[], broken, cursor⟩
  | fuel + 1, cursor =>
      let run := if cursor.sees '#' then [] else plainRun flow cursor.ahead
      if run.isEmpty then ⟨[], broken, cursor⟩
      else
        let gap := plainGap (Cursor.skip run.length cursor)
        let content := pending ++ run
        if gap.content.isEmpty || gap.cursor.sees '#'
            || (!flow && decide ((gap.cursor.column : Int) < indent)) then
          ⟨content, gap.broken, gap.cursor⟩
        else
          let rest := plainWords flow indent gap.content gap.broken fuel gap.cursor
          ⟨content ++ rest.content, rest.broken, rest.cursor⟩

def readPlain (flow : Bool) (indent : Int) (cursor : Cursor) : ReadScalar :=
  plainWords flow indent [] false (cursor.reach + 1) cursor

def escapeLetter? : Char → Option Char
  | '0' => some '\x00'
  | 'a' => some '\x07'
  | 'b' => some '\x08'
  | 't' => some '\t'
  | '\t' => some '\t'
  | 'n' => some '\n'
  | 'v' => some '\x0b'
  | 'f' => some '\x0c'
  | 'r' => some '\r'
  | 'e' => some '\x1b'
  | ' ' => some ' '
  | '"' => some '"'
  | '\\' => some '\\'
  | '/' => some '/'
  | 'N' => some '\u0085'
  | '_' => some '\u00a0'
  | 'L' => some '\u2028'
  | 'P' => some '\u2029'
  | _ => none

/-- How many hexadecimal digits follow an escape letter that takes a number. -/
def escapeWidth? : Char → Option Nat
  | 'x' => some 2
  | 'u' => some 4
  | 'U' => some 8
  | _ => none

def hexNumber? (digits : List Char) : Option Nat :=
  digits.foldlM (fun value c => (Json.hexValue? c).map fun digit => value * 16 + digit) 0

/-- The character with a number, which is a signed word of 32 bits. A surrogate is no character; the
replacement character stands for it. -/
def numberedChar (number : Nat) : Except Fault Char :=
  if 0x80000000 ≤ number then .error .numberTooLarge
  else if 0x10FFFF < number then .error .impossibleCharacter
  else if 0xD800 ≤ number ∧ number < 0xE000 then .ok '\ufffd'
  else .ok (Char.ofNat number)

/-- The line ends after one inside quotes, with the blanks around them dropped. -/
def quotedBreaks : Nat → Cursor → Except Fault (List Char × Cursor)
  | 0, cursor => .ok ([], cursor)
  | fuel + 1, cursor =>
      if cursor.atAnyDocumentMark then .error .malformed
      else
        let after := cursor.dropWhile fun c => c == ' ' || c == '\t'
        match after.takeBreak with
        | (none, _) => .ok ([], after)
        | (some c, next) => do
            let (others, final) ← quotedBreaks fuel next
            .ok (c :: others, final)

def quotedGap (cursor : Cursor) : Except Fault (List Char × Cursor) :=
  let (blanks, after) := cursor.span fun c => c == ' ' || c == '\t'
  match after.takeBreak with
  | (none, _) => .ok (blanks, after)
  | (some first, next) => do
      let (others, final) ← quotedBreaks (next.reach + 1) next
      .ok (foldedBreaks first others, final)

/-- What an escape stands for; the cursor is behind the backslash. -/
def quotedEscape (cursor : Cursor) : Except Fault (List Char × Cursor) :=
  match cursor.ahead with
  | [] => .error .malformed
  | letter :: rest =>
      match escapeLetter? letter, escapeWidth? letter with
      | some c, _ => .ok ([c], cursor.next)
      | none, some width =>
          let digits := rest.take width
          match hexNumber? digits with
          | some number =>
              if digits.length < width then .error .malformed
              else do
                let c ← numberedChar number
                .ok ([c], Cursor.skip (width + 1) cursor)
          | none => .error .malformed
      | none, none =>
          match cursor.takeBreak with
          | (none, _) => .error .malformed
          | (some _, next) => quotedBreaks (next.reach + 1) next

def quotedContent (quote : Char) : Nat → Cursor → Except Fault ReadScalar
  | 0, _ => .error .malformed
  | fuel + 1, cursor =>
      let continueWith (part : List Char × Cursor) : Except Fault ReadScalar := do
        let rest ← quotedContent quote fuel part.2
        .ok { rest with content := part.1 ++ rest.content }
      match cursor.ahead with
      | [] => .error .malformed
      | c :: rest =>
          if c = quote then
            if c = '\'' ∧ rest.head? = some '\'' then
              continueWith (['\''], Cursor.skip 2 cursor)
            else .ok ⟨[], false, cursor.next⟩
          else if c = '\\' ∧ quote = '"' then do
            let part ← quotedEscape cursor.next
            continueWith part
          else if endsWord (some c) then do
            let part ← quotedGap cursor
            continueWith part
          else continueWith ([c], cursor.next)

def readQuoted (quote : Char) (cursor : Cursor) : Except Fault ReadScalar :=
  quotedContent quote (cursor.reach + 1) cursor.next

/-- What happens to the line ends after the last line of a block. -/
inductive Chomping where
  | clip
  | strip
  | keep
deriving DecidableEq, Repr

structure BlockHeader where
  chomping : Chomping
  /-- The indentation of the block relative to its surroundings, if it is given. -/
  increment : Option Nat

def chompingOf? : Option Char → Option Chomping
  | some '+' => some .keep
  | some '-' => some .strip
  | _ => none

def incrementOf? : Option Char → Option Nat
  | some c => if c.isDigit then some (c.toNat - 48) else none
  | none => none

/-- The header of a block scalar: its two indicators come in either order. -/
def readBlockHeader (cursor : Cursor) : Except Fault (BlockHeader × Cursor) := do
  let (header, after) : BlockHeader × Cursor :=
    match chompingOf? cursor.peek, incrementOf? cursor.peek with
    | some chomping, _ =>
        match incrementOf? cursor.next.peek with
        | some increment => (⟨chomping, some increment⟩, Cursor.skip 2 cursor)
        | none => (⟨chomping, none⟩, cursor.next)
    | none, some increment =>
        match chompingOf? cursor.next.peek with
        | some chomping => (⟨chomping, some increment⟩, Cursor.skip 2 cursor)
        | none => (⟨.clip, some increment⟩, cursor.next)
    | none, none => (⟨.clip, none⟩, cursor)
  if header.increment = some 0 ∨ !endsStrictWord after.peek then .error .malformed
  else
    let lineEnd := after.dropSpaces.dropComment
    if endsLine lineEnd.peek then .ok (header, lineEnd.takeBreak.2) else .error .malformed

def leadingLines (widest : Nat) : Nat → Cursor → List Char × Nat × Cursor
  | 0, cursor => ([], widest, cursor)
  | fuel + 1, cursor =>
      if cursor.sees ' ' then
        leadingLines (max widest cursor.next.column) fuel cursor.next
      else
        match cursor.takeBreak with
        | (none, _) => ([], widest, cursor)
        | (some c, after) =>
            let (others, final) := leadingLines widest fuel after
            (c :: others, final)

def blockBreaks (indent : Int) : Nat → Cursor → List Char × Cursor
  | 0, cursor => ([], cursor)
  | fuel + 1, cursor =>
      let after := cursor.dropSpacesTo indent cursor.reach
      match after.takeBreak with
      | (none, _) => ([], after)
      | (some c, next) =>
          let (others, final) := blockBreaks indent fuel next
          (c :: others, final)

def startsBlank (cursor : Cursor) : Bool := cursor.sees ' ' || cursor.sees '\t'

def blockJoin (folded : Bool) (lineEnd : List Char) (breaks : List Char)
    (bothFlush : Bool) : List Char :=
  if folded && lineEnd == ['\n'] && bothFlush then
    if breaks.isEmpty then [' '] else []
  else lineEnd

/-- The lines of a block at an indentation, after the given blank lines. -/
def blockLines (folded : Bool) (chomping : Chomping) (indent : Int) (breaks : List Char) :
    Nat → Cursor → List Char × Cursor
  | 0, cursor => ([], cursor)
  | fuel + 1, cursor =>
      let (line, atEnd) := cursor.span (!isBreak ·)
      let (lineEnd, next) := atEnd.takeBreak
      let lineEnd := lineEnd.toList
      let (more, final) := blockBreaks indent (next.reach + 1) next
      let content := breaks ++ line
      if (final.column : Int) = indent ∧ final.peek.isSome then
        let join := blockJoin folded lineEnd more (!startsBlank cursor && !startsBlank final)
        let (rest, last) := blockLines folded chomping indent more fuel final
        (content ++ join ++ rest, last)
      else
        let tail := match chomping with
          | .strip => []
          | .clip => lineEnd
          | .keep => lineEnd ++ more
        (content ++ tail, final)

/-- A block scalar below a collection of the given indentation; the cursor is before its
indicator. -/
def readBlock (folded : Bool) (indent : Int) (cursor : Cursor) : Except Fault ReadScalar := do
  let (header, start) ← readBlockHeader cursor.next
  let least : Int := max (indent + 1) 1
  let (breaks, inner, first) : List Char × Int × Cursor :=
    match header.increment with
    | none =>
        let (breaks, widest, after) := leadingLines 0 (start.reach + 1) start
        (breaks, max least widest, after)
    | some increment =>
        let inner := least + increment - 1
        let (breaks, after) := blockBreaks inner (start.reach + 1) start
        (breaks, inner, after)
  if (first.column : Int) = inner ∧ first.peek.isSome then
    let (content, after) :=
      blockLines folded header.chomping inner breaks (first.reach + 1) first
    .ok ⟨content, true, after⟩
  else
    .ok ⟨if header.chomping = .keep then breaks else [], true, first⟩

end Yaml

end NodeForms
