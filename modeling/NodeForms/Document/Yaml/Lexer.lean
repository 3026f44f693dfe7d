import NodeForms.Document.Yaml.Scalar
import NodeForms.Document.Yaml.Token

/-!
# From characters to YAML tokens

Outside flow collections the column of a token opens and closes block collections. A
scalar, an alias or a flow collection may turn out to be a key when a colon follows it on
the same line; until then its place is kept, so that the tokens in front of a key can be
put there afterwards.
-/

namespace NodeForms

namespace Yaml

/-- A place where a key may have started. -/
structure KeyPlace where
  tokensBefore : Nat
  required : Bool
  start : Cursor

def longestKey : Nat := 1024

/-- What is known while tokens are read. -/
structure Lexer where
  cursor : Cursor
  flow : Nat := 0
  indent : Int := -1
  indents : List Int := []
  keyAllowed : Bool := true
  /-- The places where keys may have started, at most one for each flow level. -/
  keys : List (Nat × KeyPlace) := []
  tokens : List Token := []
  count : Nat := 0

namespace Lexer

def push (lexer : Lexer) (token : Token) : Lexer :=
  { lexer with tokens := token :: lexer.tokens, count := lexer.count + 1 }

/-- Put a token behind so many earlier ones. -/
def insertAt (lexer : Lexer) (position : Nat) (token : Token) : Lexer :=
  let later := lexer.count - position
  { lexer with
    tokens := lexer.tokens.take later ++ token :: lexer.tokens.drop later
    count := lexer.count + 1 }

def keyHere? (lexer : Lexer) : Option KeyPlace := lexer.keys.lookup lexer.flow

def forgetKey (lexer : Lexer) : Lexer :=
  { lexer with keys := lexer.keys.filter fun entry => entry.1 != lexer.flow }

/-- Give up a key of this flow level; one that has to be there cannot be given up. -/
def dropKey (lexer : Lexer) : Except Fault Lexer :=
  match lexer.keyHere? with
  | some place => if place.required then .error .malformed else .ok lexer.forgetKey
  | none => .ok lexer

/-- Whether a key that started at a place would be too long by now. -/
def isStale (lexer : Lexer) (place : KeyPlace) : Bool :=
  place.start.line != lexer.cursor.line
    || decide (longestKey < lexer.cursor.offset - place.start.offset)

def dropStaleKeys (lexer : Lexer) : Except Fault Lexer :=
  if lexer.keys.any fun entry => lexer.isStale entry.2 && entry.2.required then
    .error .malformed
  else
    .ok { lexer with keys := lexer.keys.filter fun entry => !lexer.isStale entry.2 }

def markKey (lexer : Lexer) : Except Fault Lexer :=
  if lexer.keyAllowed then do
    let required := lexer.flow == 0 && lexer.indent == lexer.cursor.column
    let cleared ← lexer.dropKey
    .ok { cleared with
      keys := (lexer.flow, ⟨lexer.count, required, lexer.cursor⟩) :: cleared.keys }
  else .ok lexer

/-- Close block collections from the inside out, given the columns of those around. -/
def closeFrom (column : Int) (lexer : Lexer) : List Int → Lexer
  | [] => lexer
  | outer :: others =>
      if column < lexer.indent then
        closeFrom column { lexer.push .blockEnd with indent := outer, indents := others } others
      else lexer

def closeBlocks (lexer : Lexer) (column : Int) : Lexer :=
  if lexer.flow ≠ 0 then lexer else closeFrom column lexer lexer.indents

def opensBlock (lexer : Lexer) (column : Nat) : Bool := decide (lexer.indent < column)

def openBlock (lexer : Lexer) (column : Nat) : Lexer :=
  { lexer with indent := column, indents := lexer.indent :: lexer.indents }

def moveTo (lexer : Lexer) (cursor : Cursor) : Lexer := { lexer with cursor }

def skip (lexer : Lexer) (count : Nat) : Lexer := lexer.moveTo (Cursor.skip count lexer.cursor)

/-- Move to the next token, past spaces, comments and line ends. After a line end outside
flow collections a key may start; `fuel` bounds the number of lines. -/
def toNextToken : Nat → Lexer → Lexer
  | 0, lexer => lexer
  | fuel + 1, lexer =>
      let place := lexer.cursor.dropSpaces.dropComment
      match place.takeBreak with
      | (none, _) => lexer.moveTo place
      | (some _, next) =>
          toNextToken fuel
            { lexer with cursor := next, keyAllowed := lexer.keyAllowed || lexer.flow == 0 }

def digits (cursor : Cursor) : Except Fault (Nat × Cursor) :=
  let (run, after) := cursor.span Char.isDigit
  if run.isEmpty then .error .malformed else .ok (naturalOfDigits run, after)

def isTagChar (c : Char) : Bool := c.isAlphanum || "-;/?:@&=+$,_.!~*'()[]".toList.contains c

def tagBytes : Nat → Cursor → Except Fault (List UInt8 × Cursor)
  | 0, cursor => .ok ([], cursor)
  | fuel + 1, cursor =>
      match cursor.ahead with
      | '%' :: first :: second :: _ =>
          match hexNumber? [first, second] with
          | some byte => do
              let (bytes, after) ← tagBytes fuel (Cursor.skip 3 cursor)
              .ok (UInt8.ofNat byte :: bytes, after)
          | none => .error .malformed
      | '%' :: _ => .error .malformed
      | _ => .ok ([], cursor)

/-- The characters of a tag, its escapes resolved; `fuel` bounds their number. -/
def tagChars : Nat → Cursor → Except Fault (List Char × Cursor)
  | 0, cursor => .ok ([], cursor)
  | fuel + 1, cursor =>
      match cursor.ahead with
      | [] => .ok ([], cursor)
      | c :: _ =>
          if c = '%' then do
            let (bytes, after) ← tagBytes (cursor.reach + 1) cursor
            match String.fromUTF8? ⟨bytes.toArray⟩ with
            | none => .error .malformed
            | some run => do
                let (rest, final) ← tagChars fuel after
                .ok (run.toList ++ rest, final)
          else if isTagChar c then do
            let (rest, final) ← tagChars fuel cursor.next
            .ok (c :: rest, final)
          else .ok ([], cursor)

def tagText (cursor : Cursor) : Except Fault (String × Cursor) := do
  let (chars, after) ← tagChars (cursor.reach + 1) cursor
  if after.offset = cursor.offset then .error .malformed else .ok (String.ofList chars, after)

/-- The handle of a tag: one exclamation mark, or two with a name between them. -/
def tagHandle (cursor : Cursor) : Except Fault (String × Cursor) :=
  if !cursor.sees '!' then .error .malformed
  else if cursor.next.sees ' ' then .ok ("!", cursor.next)
  else
    let (name, after) := cursor.next.span isNameChar
    if after.sees '!' then .ok (String.ofList ('!' :: (name ++ ['!'])), after.next)
    else .error .malformed

def versionDirective (cursor : Cursor) : Except Fault (Directive × Cursor) := do
  let (major, afterMajor) ← digits cursor.dropSpaces
  if !afterMajor.sees '.' then .error .malformed
  else do
    let (_, after) ← digits afterMajor.next
    if endsStrictWord after.peek then .ok (.version major, after) else .error .malformed

def tagDirective (cursor : Cursor) : Except Fault (Directive × Cursor) := do
  let (handle, afterHandle) ← tagHandle cursor.dropSpaces
  if !afterHandle.sees ' ' then .error .malformed
  else do
    let (expansion, after) ← tagText afterHandle.dropSpaces
    if endsStrictWord after.peek then .ok (.tag handle expansion, after) else .error .malformed

def directive (cursor : Cursor) : Except Fault (Directive × Cursor) := do
  let (name, afterName) := cursor.next.span isNameChar
  if name.isEmpty ∨ !endsStrictWord afterName.peek then .error .malformed
  else do
    let (content, after) ←
      match String.ofList name with
      | "YAML" => versionDirective afterName
      | "TAG" => tagDirective afterName
      | _ => .ok (.other, afterName.dropWhile (!isBreak ·))
    let lineEnd := after.dropSpaces.dropComment
    if endsLine lineEnd.peek then .ok (content, lineEnd.takeBreak.2) else .error .malformed

def endsName (c : Option Char) : Bool :=
  endsWord c || c.any fun c => "?:,]%@\x60\x7d".toList.contains c

def anchorName (cursor : Cursor) : Except Fault (String × Cursor) :=
  let (name, after) := cursor.next.span isNameChar
  if name.isEmpty ∨ !endsName after.peek then .error .malformed
  else .ok (String.ofList name, after)

/-- Whether a tag names its handle: an exclamation mark follows before the word ends. -/
def namesHandle (chars : List Char) : Bool :=
  (chars.takeWhile fun c => !endsStrictWord (some c)).contains '!'

/-- A tag; the cursor is before its first exclamation mark. -/
def tag (cursor : Cursor) : Except Fault (Token × Cursor) := do
  let (token, after) : Token × Cursor ←
    match cursor.next.peek with
    | some '<' => do
        let (suffix, after) ← tagText (Cursor.skip 2 cursor)
        if after.sees '>' then .ok (.tag none suffix, after.next) else .error .malformed
    | c =>
        if endsWord c then .ok (.tag none "!", cursor.next)
        else do
          let (handle, afterHandle) ←
            if namesHandle cursor.next.ahead then tagHandle cursor
            else .ok ("!", cursor.next)
          let (suffix, after) ← tagText afterHandle
          .ok (.tag (some handle) suffix, after)
  if endsStrictWord after.peek then .ok (token, after) else .error .malformed

def documentMark (lexer : Lexer) (token : Token) : Except Fault Lexer := do
  let closed ← (lexer.closeBlocks (-1)).dropKey
  .ok ({ closed.push token with keyAllowed := false }.skip 3)

def directiveToken (lexer : Lexer) : Except Fault Lexer := do
  let closed ← (lexer.closeBlocks (-1)).dropKey
  let (content, after) ← directive lexer.cursor
  .ok ({ closed.push (.directive content) with keyAllowed := false }.moveTo after)

def openFlow (lexer : Lexer) (token : Token) : Except Fault Lexer := do
  let marked ← lexer.markKey
  .ok ({ marked.push token with flow := lexer.flow + 1, keyAllowed := true }.skip 1)

/-- Read a closing bracket or brace. Outside all flow collections it ends nothing, and the
text is refused. -/
def closeFlow (lexer : Lexer) (token : Token) : Except Fault Lexer := do
  let cleared ← lexer.dropKey
  if lexer.flow = 0 then .error .malformed
  else .ok ({ cleared.push token with flow := lexer.flow - 1, keyAllowed := false }.skip 1)

def flowEntry (lexer : Lexer) : Except Fault Lexer := do
  let cleared ← lexer.dropKey
  .ok ({ cleared.push .flowEntry with keyAllowed := true }.skip 1)

/-- Open a block collection at the column ahead unless it is open already. -/
def enterBlock (lexer : Lexer) (token : Token) : Lexer :=
  if lexer.flow = 0 ∧ lexer.opensBlock lexer.cursor.column then
    (lexer.openBlock lexer.cursor.column).push token
  else lexer

def blockEntry (lexer : Lexer) : Except Fault Lexer :=
  if lexer.flow = 0 ∧ !lexer.keyAllowed then .error .malformed
  else do
    let cleared ← (lexer.enterBlock .blockSequence).dropKey
    .ok ({ cleared.push .blockEntry with keyAllowed := true }.skip 1)

def keyMark (lexer : Lexer) : Except Fault Lexer :=
  if lexer.flow = 0 ∧ !lexer.keyAllowed then .error .malformed
  else do
    let cleared ← (lexer.enterBlock .blockMapping).dropKey
    .ok ({ cleared.push .key with keyAllowed := lexer.flow == 0 }.skip 1)

def settleKey (lexer : Lexer) (place : KeyPlace) : Lexer :=
  let keyed := lexer.forgetKey.insertAt place.tokensBefore .key
  if lexer.flow = 0 ∧ lexer.opensBlock place.start.column then
    (keyed.openBlock place.start.column).insertAt place.tokensBefore .blockMapping
  else keyed

def valueMark (lexer : Lexer) : Except Fault Lexer :=
  match lexer.keyHere? with
  | some place =>
      .ok ({ (lexer.settleKey place).push .value with keyAllowed := false }.skip 1)
  | none =>
      if lexer.flow = 0 ∧ !lexer.keyAllowed then .error .malformed
      else do
        let cleared ← (lexer.enterBlock .blockMapping).dropKey
        .ok ({ cleared.push .value with keyAllowed := lexer.flow == 0 }.skip 1)

def named (lexer : Lexer) (token : String → Token) : Except Fault Lexer := do
  let marked ← lexer.markKey
  let (name, after) ← anchorName lexer.cursor
  .ok ({ marked.push (token name) with keyAllowed := false }.moveTo after)

def tagToken (lexer : Lexer) : Except Fault Lexer := do
  let marked ← lexer.markKey
  let (token, after) ← tag lexer.cursor
  .ok ({ marked.push token with keyAllowed := false }.moveTo after)

def takeScalar (lexer : Lexer) (scalar : ReadScalar) (plain : Bool) : Lexer :=
  { lexer.push (.scalar (String.ofList scalar.content) plain) with
    keyAllowed := scalar.broken }.moveTo scalar.cursor

def blockScalar (lexer : Lexer) (folded : Bool) : Except Fault Lexer := do
  let cleared ← lexer.dropKey
  let scalar ← readBlock folded lexer.indent lexer.cursor
  .ok (cleared.takeScalar scalar false)

def quotedScalar (lexer : Lexer) (quote : Char) : Except Fault Lexer := do
  let marked ← lexer.markKey
  let scalar ← readQuoted quote lexer.cursor
  .ok (marked.takeScalar scalar false)

def plainScalar (lexer : Lexer) : Except Fault Lexer := do
  let marked ← lexer.markKey
  let inFlow := lexer.flow != 0
  .ok (marked.takeScalar (readPlain inFlow (lexer.indent + 1) lexer.cursor) true)

def startsPlain (lexer : Lexer) (c : Char) (after : Option Char) : Bool :=
  if "-?:,[]\x7b\x7d#&*!|>'\"%@\x60".toList.contains c then
    !endsWord after && (c == '-' || (lexer.flow == 0 && (c == '?' || c == ':')))
  else !endsWord (some c)

/-- Read the token that starts with a character. -/
def token (lexer : Lexer) (c : Char) : Except Fault Lexer :=
  let after := lexer.cursor.peekAt 1
  let atLineStart := lexer.cursor.column == 0
  let block := lexer.flow == 0
  if c = '%' ∧ atLineStart then lexer.directiveToken
  else if atLineStart ∧ lexer.cursor.atDocumentMark '-' then lexer.documentMark .documentStart
  else if atLineStart ∧ lexer.cursor.atDocumentMark '.' then lexer.documentMark .documentEnd
  else if c = '[' then lexer.openFlow .flowSequence
  else if c = '\x7b' then lexer.openFlow .flowMapping
  else if c = ']' then lexer.closeFlow .flowSequenceEnd
  else if c = '\x7d' then lexer.closeFlow .flowMappingEnd
  else if c = ',' then lexer.flowEntry
  else if c = '-' ∧ endsWord after then lexer.blockEntry
  else if c = '?' ∧ (!block ∨ endsWord after) then lexer.keyMark
  else if c = ':' ∧ (!block ∨ endsWord after) then lexer.valueMark
  else if c = '*' then lexer.named .alias
  else if c = '&' then lexer.named .anchor
  else if c = '!' then lexer.tagToken
  else if c = '|' ∧ block then lexer.blockScalar false
  else if c = '>' ∧ block then lexer.blockScalar true
  else if c = '\'' ∨ c = '"' then lexer.quotedScalar c
  else if lexer.startsPlain c after then lexer.plainScalar
  else .error .malformed

/-- How many of the tokens so far will stay where they are. A place where a key may still
have started puts off all tokens from there on. -/
def settled (lexer : Lexer) : Nat :=
  let places := lexer.keys.filter fun entry => !lexer.isStale entry.2
  places.foldl (fun least entry => min least entry.2.tokensBefore) lexer.count

/-- Read what comes next: a token, or else the end of the text, which closes all block
collections. -/
def step (lexer : Lexer) : Except Fault (Lexer × Bool) := do
  let lexer ← (toNextToken (lexer.cursor.reach + 1) lexer).dropStaleKeys
  let lexer := lexer.closeBlocks lexer.cursor.column
  match lexer.cursor.peek with
  | none => do
      let closed ← (lexer.closeBlocks (-1)).dropKey
      .ok (closed, false)
  | some c => do
      let next ← lexer.token c
      .ok (next, true)

end Lexer

/-- The tokens of a text as far as they go, and what is wrong where they end too early. A
fault comes to light only when a token is called for that it stands in the way of. -/
structure Scan where
  tokens : List Token
  fault : Option Fault
deriving Repr

/-- Read tokens to the end or the first fault; `fuel` bounds their number. -/
def Lexer.run : Nat → Lexer → Scan
  | 0, lexer => ⟨lexer.tokens.reverse, some .malformed⟩
  | fuel + 1, lexer =>
      match lexer.step with
      | .error fault => ⟨lexer.tokens.reverse.take lexer.settled, some fault⟩
      | .ok (next, more) => if more then run fuel next else ⟨next.tokens.reverse, none⟩

/-- The tokens of a text. A mark of the byte order at its start is no part of it. -/
def scan (text : String) : Scan :=
  let chars := text.toList
  if !chars.all isAllowed then ⟨[], some .malformed⟩
  else
    let start := Cursor.start chars
    let start := if start.sees '\ufeff' then start.next else start
    Lexer.run (chars.length + 1) { cursor := start }

end Yaml

end NodeForms
