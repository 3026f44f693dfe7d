import NodeForms.Decimal.Notation

/-!
# YAML tags

A tag says what a value is. A plain scalar without a tag gets the one whose form its text
has: a word for the absent value or a truth value, a number, a day or a moment; any other
text is a text.
-/

namespace NodeForms

namespace Yaml

/-- What a value is. -/
inductive Tag where
  | null
  | bool
  | int
  | float
  | text
  | moment
  | bytes
  | merge
  | content
  | sequence
  | mapping
  | set
  | pairs
  | unknown
deriving DecidableEq, Repr, Inhabited

def standardPrefix : String := "tag:yaml.org,2002:"

def standardTags : List (String × Tag) :=
  [("null", .null), ("bool", .bool), ("int", .int), ("float", .float), ("str", .text),
    ("timestamp", .moment), ("binary", .bytes), ("seq", .sequence), ("map", .mapping),
    ("set", .set), ("omap", .pairs), ("pairs", .pairs), ("merge", .merge), ("value", .content)]

def Tag.ofName (name : String) : Tag :=
  ((standardTags.find? fun entry => standardPrefix ++ entry.1 == name).map Prod.snd).getD .unknown

def nullWords : List String := ["", "~", "null", "Null", "NULL"]

def indicatorWords : List String := ["!", "&", "*"]

def boolWords : List String :=
  ["yes", "Yes", "YES", "no", "No", "NO", "true", "True", "TRUE", "false", "False", "FALSE",
    "on", "On", "ON", "off", "Off", "OFF"]

def afterSign : List Char → List Char
  | '-' :: rest => rest
  | '+' :: rest => rest
  | chars => chars

def isGroupedDigit (c : Char) : Bool := c.isDigit || c == '_'

def isDigitRun : List Char → Bool
  | [] => false
  | c :: rest => c.isDigit && rest.all isGroupedDigit

/-- The characters up to the first of a kind, and those after it if it is there. -/
def splitAt (mark : Char) : List Char → List Char × Option (List Char)
  | [] => ([], none)
  | c :: rest =>
      if c = mark then ([], some rest)
      else
        let (before, after) := splitAt mark rest
        (c :: before, after)

def colonParts : List Char → List (List Char)
  | [] => [[]]
  | c :: rest =>
      match colonParts rest with
      | [] => [[]]
      | part :: parts => if c = ':' then [] :: part :: parts else (c :: part) :: parts

def isSixtieth : List Char → Bool
  | [a] => a.isDigit
  | [a, b] => a.isDigit && b.isDigit && decide (a ≤ '5')
  | _ => false

/-- Whether characters are a digit run followed by at least one number below sixty. -/
def isSexagesimal (chars : List Char) : Bool :=
  match colonParts chars with
  | first :: second :: rest => isDigitRun first && (second :: rest).all isSixtieth
  | _ => false

def isExponentOrEnd : List Char → Bool
  | [] => true
  | e :: sign :: digits =>
      (e == 'e' || e == 'E') && (sign == '+' || sign == '-') && !digits.isEmpty
        && digits.all Char.isDigit
  | _ => false

def isFraction (chars : List Char) : Bool := isExponentOrEnd (chars.dropWhile isGroupedDigit)

def isInteger (chars : List Char) : Bool :=
  match afterSign chars with
  | '0' :: 'b' :: digits =>
      !digits.isEmpty && digits.all fun c => c == '0' || c == '1' || c == '_'
  | '0' :: 'x' :: digits =>
      !digits.isEmpty
        && digits.all fun c => c.isDigit || ('a' ≤ c && c ≤ 'f') || ('A' ≤ c && c ≤ 'F') || c == '_'
  | '0' :: digits => digits.all fun c => ('0' ≤ c && c ≤ '7') || c == '_'
  | digits => isDigitRun digits || isSexagesimal digits

def isPointNumber (chars : List Char) : Bool :=
  let unsigned := afterSign chars
  match splitAt '.' unsigned with
  | (_, none) => false
  | ([], some digits) =>
      (chars.head? == some '.' && digits.head?.any Char.isDigit && isFraction digits)
        || ["inf", "Inf", "INF"].contains (String.ofList digits)
        || (chars.head? == some '.' && ["nan", "NaN", "NAN"].contains (String.ofList digits))
  | (whole, some digits) =>
      (isDigitRun whole && isFraction digits)
        || (isSexagesimal whole && digits.all isGroupedDigit)

/-- The distance from universal time that a text names. -/
inductive Zone where
  | universal
  | shifted (west : Bool) (hours minutes : Nat)
deriving DecidableEq, Repr

/-- The time that a text names after its day. -/
structure TimeText where
  hour : Nat
  minute : Nat
  second : Nat
  fraction : List Char
  zone : Option Zone
deriving DecidableEq, Repr

/-- The day, and perhaps the time, that a text names. -/
structure MomentText where
  year : Nat
  month : Nat
  day : Nat
  wide : Bool
  time : Option TimeText
deriving DecidableEq, Repr

def takeDigits (count : Nat) (chars : List Char) : Option (Nat × List Char) :=
  let run := chars.take count
  if run.length = count ∧ run.all Char.isDigit then
    some (naturalOfDigits run, chars.drop count)
  else none

def takeShortNumber (chars : List Char) : Option (Nat × List Char) :=
  match takeDigits 2 chars with
  | some found => some found
  | none => takeDigits 1 chars

def afterMark (mark : Char) : List Char → Option (List Char)
  | [] => none
  | c :: rest => if c = mark then some rest else none

def isGap (c : Char) : Bool := c == ' ' || c == '\t'

/-- A distance from universal time at the end of a text, or nothing. -/
def readZone (chars : List Char) : Option (Option Zone) :=
  match chars.dropWhile isGap with
  | [] => if chars.isEmpty then some none else none
  | ['Z'] => some (some .universal)
  | sign :: rest =>
      if sign = '+' ∨ sign = '-' then do
        let (hours, after) ← takeShortNumber rest
        match after with
        | [] => some (some (.shifted (sign == '-') hours 0))
        | _ => do
            let minuteChars ← afterMark ':' after
            let (minutes, final) ← takeDigits 2 minuteChars
            if final.isEmpty then some (some (.shifted (sign == '-') hours minutes)) else none
      else none

def readTime (chars : List Char) : Option TimeText := do
  let (hour, afterHour) ← takeShortNumber chars
  let minuteChars ← afterMark ':' afterHour
  let (minute, afterMinute) ← takeDigits 2 minuteChars
  let secondChars ← afterMark ':' afterMinute
  let (second, afterSecond) ← takeDigits 2 secondChars
  let (fraction, rest) := match afterSecond with
    | '.' :: more => spanDigits more
    | other => ([], other)
  let zone ← readZone rest
  some ⟨hour, minute, second, fraction, zone⟩

/-- The day, and perhaps the time, that a text names. -/
def readMoment (chars : List Char) : Option MomentText := do
  let (year, afterYear) ← takeDigits 4 chars
  let monthChars ← afterMark '-' afterYear
  let (month, afterMonth) ← takeShortNumber monthChars
  let dayChars ← afterMark '-' afterMonth
  let (day, afterDay) ← takeShortNumber dayChars
  let wide := decide (chars.length - afterDay.length = 10)
  match afterDay with
  | [] => some ⟨year, month, day, wide, none⟩
  | c :: rest =>
      let timeChars :=
        if c = 'T' ∨ c = 't' then some rest
        else if isGap c then some (rest.dropWhile isGap)
        else none
      let time ← timeChars.bind readTime
      some ⟨year, month, day, wide, some time⟩

def isMoment (chars : List Char) : Bool :=
  match readMoment chars with
  | some moment => moment.wide || moment.time.isSome
  | none => false

def withoutFinalBreak (chars : List Char) : List Char :=
  if chars.getLast? = some '\n' then chars.dropLast else chars

/-- The tag of a plain text. An indicator that stands alone has a form of its own, one that
no value has. -/
def Tag.ofPlain (content : String) : Tag :=
  let chars := withoutFinalBreak content.toList
  let word := String.ofList chars
  if content == "" then .null
  else if word == "" then .text
  else if nullWords.contains word then .null
  else if boolWords.contains word then .bool
  else if isPointNumber chars then .float
  else if isInteger chars then .int
  else if word == "<<" then .merge
  else if isMoment chars then .moment
  else if word == "=" then .content
  else if indicatorWords.contains word then .unknown
  else .text

end Yaml

end NodeForms
