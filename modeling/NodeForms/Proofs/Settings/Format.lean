import NodeForms.Document.Yaml.Grammar
import NodeForms.Proofs.Computation
import NodeForms.Proofs.Decimal.Notation
import NodeForms.Proofs.Registry.Format
import NodeForms.Settings.Load

/-!
# The format of settings

Settings are a mapping of three names with a truth value, a positive limit and a word for a level,
each of them optional, or nothing at all. Loading accepts content of this format and, beyond it,
whatever counts as false, which holds no settings. Every other value is refused with an error of
the settings, except for a mapping with a key that is no text: such keys cannot be listed. The word
for a level is looked up in the plain text of any value; none but a text spells one, because the
plain text of every other value has a mark in it or is one of a few words.
-/

namespace NodeForms

/-- A character that is its own capital form and no capital letter. -/
def IsMark (c : Char) : Prop := capitalForm c = [c] ∧ c.isUpper = false

instance (c : Char) : Decidable (IsMark c) := inferInstanceAs (Decidable (_ ∧ _))

def HasMark (text : String) : Prop := ∃ c ∈ text.toList, IsMark c

theorem hasMark_append {first second : String} :
    HasMark (first ++ second) ↔ HasMark first ∨ HasMark second := by
  simp only [HasMark, String.toList_append, List.mem_append, or_and_right, exists_or]

theorem hasMark_ofList {chars : List Char} :
    HasMark (String.ofList chars) ↔ ∃ c ∈ chars, IsMark c := by
  rw [HasMark, String.toList_ofList]

theorem isMark_digitChar {digit : Nat} (isDigit : digit < 10) : IsMark (Nat.digitChar digit) := by
  have all : ∀ digit < 10, IsMark (Nat.digitChar digit) := by decide
  exact all digit isDigit

theorem exists_isMark_toDigits (number : Nat) : ∃ c ∈ Nat.toDigits 10 number, IsMark c := by
  induction number using Nat.strongRecOn with
  | ind number inductionHypothesis =>
      by_cases single : number < 10
      · rw [Nat.toDigits_of_lt_base single]
        exact ⟨_, List.mem_singleton_self _, isMark_digitChar single⟩
      · rw [Nat.toDigits_of_base_le (by decide) (by omega)]
        obtain ⟨c, isDigit, isMark⟩ := inductionHypothesis (number / 10) (by omega)
        exact ⟨c, List.mem_append_left _ isDigit, isMark⟩

theorem hasMark_integerText (value : Int) : HasMark (integerText value) := by
  rw [integerText, hasMark_ofList]
  cases value with
  | ofNat number => exact exists_isMark_toDigits number
  | negSucc number => exact ⟨'-', List.mem_cons_self, by decide⟩

namespace FloatNotation

theorem exists_isMark_positional (decimal : Decimal) : ∃ c ∈ positional decimal, IsMark c := by
  refine ⟨'.', ?_, by decide⟩
  dsimp only [positional]
  split
  · simp
  · split <;> simp

theorem exists_isMark_scientific (style : FloatNotation) (decimal : Decimal) :
    ∃ c ∈ style.scientific decimal, IsMark c := by
  refine ⟨if decimal.leadingExponent < 0 then '-' else '+', ?_, ?_⟩
  · simp [scientific]
  · split <;> decide

theorem exists_isMark_magnitudeChars (style : FloatNotation) (x : Binary64) :
    ∃ c ∈ style.magnitudeChars x, IsMark c := by
  dsimp only [magnitudeChars]
  split
  · exact ⟨'.', by decide, by decide⟩
  · split
    · exact exists_isMark_positional _
    · exact exists_isMark_scientific style _

theorem hasMark_text (style : FloatNotation) {x : Binary64} (isNumber : x.isNaN = false)
    (isFinite : x.isInfinite = false) : HasMark (style.text x) := by
  obtain ⟨c, isMember, isMark⟩ := exists_isMark_magnitudeChars style x
  simp only [text, isNumber, isFinite, Bool.false_eq_true, if_false, hasMark_ofList]
  split
  · exact ⟨c, List.mem_cons_of_mem _ isMember, isMark⟩
  · exact ⟨c, isMember, isMark⟩

end FloatNotation

namespace Scalar

theorem plainText_int (value : Int) : (int value).plainText = integerText value := rfl

theorem plainText_float (value : Binary64) :
    (float value).plainText = FloatNotation.plain.text value := rfl

theorem plainText_bytes (value : List UInt8) : (bytes value).plainText = displayBytes value := rfl

theorem hasMark_displayBytes (value : List UInt8) : HasMark (displayBytes value) := by
  simp only [displayBytes, hasMark_ofList]
  refine ⟨_, List.mem_cons_of_mem _ List.mem_cons_self, ?_⟩
  unfold quoteFor
  split <;> decide

theorem hasMark_plainText_date (year month day : Nat) (time : Option TimeOfDay) :
    HasMark (date year month day time).plainText := by
  have mark : HasMark "-" := ⟨'-', by decide, by decide⟩
  cases time <;> simp only [plainText, hasMark_append, mark, or_true, true_or]

end Scalar

namespace Data

theorem hasMark_ellipsis (value : Data) : HasMark value.ellipsis := by
  unfold ellipsis
  split <;> exact ⟨'.', by decide, by decide⟩

/-- A collection is shown between brackets. -/
theorem hasMark_displayInside {value : Data} (noScalar : ∀ content, value.bare ≠ .scalar content)
    (labels : List Nat) : HasMark (displayInside labels value) := by
  have mark {text : String} (c : Char) (isMark : IsMark c) (isMember : c ∈ text.toList) :
    HasMark text := ⟨c, isMember, isMark⟩
  induction value using Data.bare.induct generalizing labels with
  | case1 label content inductionHypothesis =>
      rw [displayInside]
      split
      · exact hasMark_ellipsis content
      · exact inductionHypothesis noScalar _
  | case2 value noLabel =>
      cases value with
      | scalar content => exact absurd rfl (noScalar content)
      | list items => cases items <;> exact mark '[' (by decide) (by simp [displayInside])
      | map entries => cases entries <;> exact mark '\x7b' (by decide) (by simp [displayInside])
      | set members =>
          cases members with
          | nil => exact mark '(' (by decide) (by simp [displayInside])
          | cons member members => exact mark '\x7b' (by decide) (by simp [displayInside])
      | pair key value => exact mark '(' (by decide) (by simp [displayInside])
      | shared label content => exact absurd rfl (noLabel label content)
      | enclosing isList => exact hasMark_ellipsis _

end Data

namespace LogLevel

theorem exists_ofWord?_iff {word : String} :
    (∃ level, ofWord? word = some level) ↔ word ∈ all.map LogLevel.word := by
  rw [← Option.isSome_iff_exists, ofWord?, List.find?_isSome]
  simp

/-- The words for levels are all in capital letters, so no text with a mark spells one. -/
theorem not_mem_words_of_hasMark {text : String} (marked : HasMark text) :
    capitals text ∉ all.map LogLevel.word := by
  intro isWord
  obtain ⟨c, isMember, keeps, noCapital⟩ := marked
  have shown : c ∈ (capitals text).toList := by
    rw [capitals, String.toList_ofList, List.mem_flatMap]
    exact ⟨c, isMember, keeps ▸ List.mem_singleton_self c⟩
  have upper : ∀ word ∈ all.map LogLevel.word, word.toList.all Char.isUpper = true := by decide
  rw [List.all_eq_true.mp (upper _ isWord) c shown] at noCapital
  cases noCapital

theorem not_mem_words_of_scalar {content : Scalar} (noText : ∀ word, content ≠ .text word) :
    capitals content.plainText ∉ all.map LogLevel.word := by
  cases content with
  | null => decide +kernel
  | bool value => cases value <;> decide +kernel
  | int value =>
      rw [Scalar.plainText_int]
      exact not_mem_words_of_hasMark (hasMark_integerText value)
  | float value =>
      rw [Scalar.plainText_float]
      by_cases isFinite : value.isNaN = false ∧ value.isInfinite = false
      · exact not_mem_words_of_hasMark (FloatNotation.plain.hasMark_text isFinite.1 isFinite.2)
      · have isWord : FloatNotation.plain.text value ∈ ["nan", "inf", "-inf"] := by
          cases isNaN : value.isNaN <;> cases isInfinite : value.isInfinite <;>
            cases isNegative : value.isNegative <;>
            simp_all [FloatNotation.text, FloatNotation.plain]
        have noLevel : ∀ word ∈ ["nan", "inf", "-inf"],
            capitals word ∉ all.map LogLevel.word := by
          decide +kernel
        exact noLevel _ isWord
  | text word => exact absurd rfl (noText word)
  | date year month day time =>
      exact not_mem_words_of_hasMark (Scalar.hasMark_plainText_date year month day time)
  | bytes value =>
      rw [Scalar.plainText_bytes]
      exact not_mem_words_of_hasMark (Scalar.hasMark_displayBytes value)

theorem mem_words_plainText_iff {value : Data} :
    capitals value.plainText ∈ all.map LogLevel.word ↔
      ∃ word, value.bare = .text word ∧ capitals word ∈ all.map LogLevel.word := by
  unfold Data.plainText
  split
  case h_1 content isScalar =>
    rw [isScalar]
    by_cases isText : ∃ word, content = .text word
    · obtain ⟨word, rfl⟩ := isText
      simp [Data.text, Scalar.plainText]
    · have noText : ∀ word, content ≠ .text word := fun word same => isText ⟨word, same⟩
      simpa [Data.text, noText] using not_mem_words_of_scalar noText
  case h_2 noScalar =>
    have noScalar : ∀ content, value.bare ≠ .scalar content := noScalar
    have marked : HasMark value.display := Data.hasMark_displayInside noScalar []
    simpa [Data.text, noScalar] using not_mem_words_of_hasMark marked

end LogLevel

namespace Settings

/-- The members of a mapping in the format of settings. -/
structure IsDescribedBy (entries : Entries) : Prop where
  known : ∀ key ∈ entries.keys, ∃ name ∈ names, key = .text name
  markers : ∀ value, entries.get? markersName = some value →
    ∃ written, value = .scalar (.bool written)
  limit : ∀ value, entries.get? limitName = some value →
    value = .null ∨ ∃ limit, 0 < limit ∧ value = .int limit
  /-- The level is a text, a word for one in letters of any case. -/
  level : ∀ value, entries.get? levelName = some value →
    ∃ word, value.bare = .text word ∧ capitals word ∈ LogLevel.all.map LogLevel.word

/-- Content in the format of settings. -/
def IsDocument (content : Data) : Prop :=
  content = .null ∨ ∃ entries, content.bare = .map entries ∧ IsDescribedBy entries

/-- A mapping with a key that is no text. -/
def HasMistypedName (content : Data) : Prop :=
  ∃ entries, content.bare = .map entries ∧ ∃ key ∈ Entries.keys entries, keyText? key = none

/-- A word for a truth value, in letters of any case and between blanks. -/
def IsFlag (value : String) : Prop :=
  String.ofList (smallLetters (trimBlanks value.toList)) ∈
    ["1", "true", "yes", "on", "0", "false", "no", "off", ""]

instance (content : Data) : Decidable (HasMistypedName content) :=
  match isMap : content.bare with
  | .map entries =>
      decidable_of_iff (∃ key ∈ Entries.keys entries, keyText? key = none) <| by
        simp [HasMistypedName, isMap]
  | .scalar _ | .list _ | .set _ | .pair _ _ | .shared _ _ | .enclosing _ =>
      isFalse <| by simp [HasMistypedName, isMap]

theorem mapM_keyText?_eq_none_iff {keys : List Scalar} :
    keys.mapM keyText? = none ↔ ∃ key ∈ keys, keyText? key = none := by
  induction keys with
  | nil => simp
  | cons key keys inductionHypothesis =>
      rw [List.mapM_cons, List.exists_mem_cons_iff, ← inductionHypothesis]
      cases keyText? key <;> cases keys.mapM keyText? <;> simp

theorem checkNames_eq (entries : Entries) :
    checkNames entries =
      if entries.unknownKeys names = [] then .ok ()
      else match (entries.unknownKeys names).mapM keyText? with
        | some unknownNames => .error (.settings (.unknownNames unknownNames))
        | none => .error .nameMistyped := by
  simp only [checkNames, ← List.isEmpty_iff]
  rfl

theorem checkNames_eq_ok_iff {entries : Entries} :
    checkNames entries = .ok () ↔ ∀ key ∈ entries.keys, ∃ name ∈ names, key = .text name := by
  rw [checkNames_eq, ← Entries.unknownKeys_eq_nil]
  split
  case isTrue known => simp [known]
  case isFalse unknown => split <;> simp [unknown]

theorem checkNames_eq_nameMistyped_iff {entries : Entries} :
    checkNames entries = .error .nameMistyped ↔ ∃ key ∈ entries.keys, keyText? key = none := by
  have unlisted : (∃ key ∈ entries.unknownKeys names, keyText? key = none) ↔
      ∃ key ∈ entries.keys, keyText? key = none := by
    constructor
    · rintro ⟨key, isUnknown, noText⟩
      exact ⟨key, List.mem_of_mem_filter isUnknown, noText⟩
    · -- A key that is no text is the name of no setting.
      rintro ⟨key, isKey, noText⟩
      refine ⟨key, List.mem_filter.mpr ⟨isKey, ?_⟩, noText⟩
      cases key <;> simp [keyText?] at noText ⊢
  rw [checkNames_eq, ← unlisted, ← mapM_keyText?_eq_none_iff]
  split
  case isTrue known => simp [known]
  case isFalse => split <;> simp_all

theorem exists_decodeMarkers_iff {leads : Option Data} :
    (∃ markers, decodeMarkers leads = .ok markers) ↔
      ∀ value, leads = some value → ∃ written, value = .scalar (.bool written) := by
  unfold decodeMarkers
  split
  case h_1 => simp
  case h_2 written => simp
  case h_3 value noFlag => simpa using fun written => noFlag written

theorem exists_decodeLimit_iff {leads : Option Data} :
    (∃ limit, decodeLimit leads = .ok limit) ↔
      ∀ value, leads = some value → value = .null ∨ ∃ limit, 0 < limit ∧ value = .int limit := by
  unfold decodeLimit
  split
  case h_1 => simp
  case h_2 => simp [Data.null]
  case h_3 limit => by_cases positive : 0 < limit <;> simp [positive, Data.null, Data.int]
  case h_4 value noNull noLimit =>
    have noLimit : ∀ limit, value ≠ .scalar (.int limit) := noLimit
    simpa [Data.null, Data.int, noLimit] using noNull

theorem exists_decodeLevel_iff {leads : Option Data} :
    (∃ level, decodeLevel leads = .ok level) ↔
      ∀ value, leads = some value →
        ∃ word, value.bare = .text word ∧ capitals word ∈ LogLevel.all.map LogLevel.word := by
  unfold decodeLevel
  split
  case h_1 => simp
  case h_2 value =>
    simp only [Option.some.injEq, forall_eq']
    rw [← LogLevel.mem_words_plainText_iff, ← LogLevel.exists_ofWord?_iff]
    cases LogLevel.ofWord? (capitals value.plainText) <;> simp

theorem ofEntries_eq_nameMistyped_iff {entries : Entries} :
    ofEntries entries = .error .nameMistyped ↔ ∃ key ∈ entries.keys, keyText? key = none := by
  have markers (leads : Option Data) : decodeMarkers leads ≠ .error .nameMistyped := by
    unfold decodeMarkers
    split <;> simp
  have limit (leads : Option Data) : decodeLimit leads ≠ .error .nameMistyped := by
    unfold decodeLimit
    split <;> try split
    all_goals simp
  have level (leads : Option Data) : decodeLevel leads ≠ .error .nameMistyped := by
    unfold decodeLevel
    split <;> try split
    all_goals simp
  rw [← checkNames_eq_nameMistyped_iff, ofEntries]
  simp only [bind_eq_error, markers, limit, level, and_false, exists_false, or_false, reduceCtorEq]

theorem exists_ofEntries_iff {entries : Entries} :
    (∃ settings, ofEntries entries = .ok settings) ↔ IsDescribedBy entries := by
  constructor
  · rintro ⟨settings, made⟩
    obtain ⟨_, known, made⟩ := bind_eq_ok.mp made
    obtain ⟨markers, areMarkers, made⟩ := bind_eq_ok.mp made
    obtain ⟨limit, isLimit, made⟩ := bind_eq_ok.mp made
    obtain ⟨level, isLevel, -⟩ := bind_eq_ok.mp made
    exact ⟨checkNames_eq_ok_iff.mp known, exists_decodeMarkers_iff.mp ⟨markers, areMarkers⟩,
      exists_decodeLimit_iff.mp ⟨limit, isLimit⟩, exists_decodeLevel_iff.mp ⟨level, isLevel⟩⟩
  · intro described
    obtain ⟨markers, areMarkers⟩ := exists_decodeMarkers_iff.mpr described.markers
    obtain ⟨limit, isLimit⟩ := exists_decodeLimit_iff.mpr described.limit
    obtain ⟨level, isLevel⟩ := exists_decodeLevel_iff.mpr described.level
    have known : checkNames entries = .ok () := checkNames_eq_ok_iff.mpr described.known
    exact ⟨⟨markers, limit, level⟩, by
      rw [ofEntries, known, areMarkers, isLimit, isLevel]
      rfl⟩

theorem exists_ofData_iff {content : Data} :
    (∃ settings, ofData content = .ok settings) ↔
      IsDocument content ∨ content.isTruthy = false := by
  unfold ofData
  cases isTrue : content.isTruthy with
  | false => simp
  | true =>
      have present : content ≠ .null := by
        rintro rfl
        cases isTrue
      simp only [if_true, IsDocument, present, false_or, Bool.true_eq_false, or_false]
      split
      case h_1 entries isMap => simp [isMap, exists_ofEntries_iff]
      case h_2 noMap =>
        have noMap : ∀ entries, content.bare ≠ .map entries := noMap
        simp [noMap]

/-- A mapping with a key does not count as false. -/
theorem HasMistypedName.isTruthy {content : Data} (mistyped : HasMistypedName content) :
    content.isTruthy = true := by
  obtain ⟨entries, isMap, key, isKey, -⟩ := mistyped
  rw [← Data.isTruthy_bare, isMap]
  cases entries with
  | nil => cases isKey
  | cons entry entries => rfl

theorem ofData_eq_nameMistyped_iff {content : Data} :
    ofData content = .error .nameMistyped ↔ HasMistypedName content := by
  unfold ofData
  split
  case isTrue =>
    split
    case h_1 entries isMap => simp [HasMistypedName, isMap, ofEntries_eq_nameMistyped_iff]
    case h_2 noMap =>
      have noMap : ∀ entries, content.bare ≠ .map entries := noMap
      simp [HasMistypedName, noMap]
  case isFalse isFalse =>
    have fits : ¬HasMistypedName content := fun mistyped => isFalse mistyped.isTruthy
    simp [fits]

theorem flagOf?_eq_none_iff {value : String} : flagOf? value = none ↔ ¬IsFlag value := by
  unfold flagOf? IsFlag
  split <;> simp_all

theorem exists_withFlag_iff {settings : Settings} {flag : Option String} :
    (∃ overridden, settings.withFlag flag = .ok overridden) ↔
      ∀ value, flag = some value → IsFlag value := by
  cases flag with
  | none => simp [withFlag]
  | some value =>
      simp only [withFlag, Option.some.injEq, forall_eq']
      cases isFlag : flagOf? value with
      | none => simp [flagOf?_eq_none_iff.mp isFlag]
      | some markers =>
          have known : IsFlag value := by
            by_contra unknown
            rw [flagOf?_eq_none_iff.mpr unknown] at isFlag
            cases isFlag
          simp [known]

section

variable {path : String} {environment : Environment} {content : Data}

theorem configure_of_error {fault : DecodeFault} (refused : ofData content = .error fault) :
    configure path environment content = .error (.ofDecode path fault) := by
  rw [configure, refused]

theorem configure_of_ok {settings : Settings} (made : ofData content = .ok settings) :
    configure path environment content =
      (settings.withFlag (environment.get? flagName)).mapError fun fault =>
        .error ⟨fault, none⟩ := by
  simp only [configure, made]
  cases settings.withFlag (environment.get? flagName) <;> rfl

theorem exists_configure_iff :
    (∃ settings, configure path environment content = .ok settings) ↔
      (IsDocument content ∨ content.isTruthy = false) ∧
        ∀ value, environment.get? flagName = some value → IsFlag value := by
  rw [← exists_ofData_iff]
  cases made : ofData content with
  | error fault => simp [configure_of_error made]
  | ok settings =>
      rw [configure_of_ok made, ← @exists_withFlag_iff settings]
      cases settings.withFlag (environment.get? flagName) <;> simp [Except.mapError]

theorem configure_eq_nameMistyped_iff :
    configure path environment content = .error .nameMistyped ↔ HasMistypedName content := by
  rw [← ofData_eq_nameMistyped_iff]
  cases made : ofData content with
  | error fault => cases fault <;> simp [configure_of_error made, SettingsFailure.ofDecode]
  | ok settings =>
      rw [configure_of_ok made]
      cases settings.withFlag (environment.get? flagName) <;> simp [Except.mapError]

theorem configure_eq_error {failure : SettingsFailure}
    (failed : configure path environment content = .error failure) :
    failure = .nameMistyped ∨ ∃ error, failure = .error error := by
  cases made : ofData content with
  | error fault =>
      rw [configure_of_error made] at failed
      cases failed
      cases fault with
      | settings fault => exact .inr ⟨_, rfl⟩
      | nameMistyped => exact .inl rfl
  | ok settings =>
      rw [configure_of_ok made] at failed
      cases flagged : settings.withFlag (environment.get? flagName) with
      | error fault =>
          rw [flagged] at failed
          cases failed
          exact .inr ⟨_, rfl⟩
      | ok overridden =>
          rw [flagged] at failed
          cases failed

end

section

variable {readYaml : String → Except Yaml.Fault Data} {files : Files} {path : Option String}
  {content : Data}

theorem contains_of_readContent {place : String}
    (read : readContent readYaml files place = .ok content) :
    files.contains place = true := by
  rw [Files.contains]
  cases found : files.look place with
  | error fault => simp [readContent, Files.readText, Files.read, found] at read
  | ok entry => rfl

theorem load_eq_configure
    (read : readContent readYaml files (path.getD defaultFile) = .ok content)
    (environment : Environment) :
    load readYaml files environment path = configure (path.getD defaultFile) environment content := by
  simp only [load, contains_of_readContent read, read, ok_bind, if_true]

/-- However YAML is read: settings are loaded exactly if the content is in the format or counts as
false, and the variable of the environment, if set, is a word for a truth value. Nothing but a key
that is no text keeps a failure from being an error of the settings. -/
theorem load_accepts (read : readContent readYaml files (path.getD defaultFile) = .ok content)
    (environment : Environment) :
    ((∃ settings, load readYaml files environment path = .ok settings) ↔
      (IsDocument content ∨ content.isTruthy = false) ∧
        ∀ value, environment.get? flagName = some value → IsFlag value) ∧
    (load readYaml files environment path = .error .nameMistyped ↔ HasMistypedName content) ∧
    ∀ failure, load readYaml files environment path = .error failure →
      failure = .nameMistyped ∨ ∃ error, failure = .error error := by
  rw [load_eq_configure read]
  exact ⟨exists_configure_iff, configure_eq_nameMistyped_iff, fun _ => configure_eq_error⟩

end

/-- The default file with a text in it. -/
def fileOf (text : String) : Files := Files.ofList [(defaultFile, .file text.toUTF8)]

theorem load_accepts_level :
    ∃ content, readContent Yaml.read (fileOf "log_level: info") defaultFile = .ok content ∧
      IsDocument content ∧ IsFlag " Yes " := by
  obtain ⟨content, read, isTrue⟩ : ∃ content,
      readContent Yaml.read (fileOf "log_level: info") defaultFile = .ok content ∧
        content.isTruthy = true :=
    exists_of_toOption (by decide +kernel)
  obtain ⟨settings, loaded, -⟩ : ∃ settings,
      load Yaml.read (fileOf "log_level: info") [(flagName, " Yes ")] none = .ok settings ∧
        decide (settings.level = .info) = true :=
    exists_of_toOption (by decide +kernel)
  obtain ⟨accepted, flag⟩ :=
    (@load_accepts _ _ none _ read [(flagName, " Yes ")]).1.mp ⟨settings, loaded⟩
  refine ⟨content, read, ?_, flag _ rfl⟩
  rcases accepted with isDocument | isFalse
  · exact isDocument
  · rw [isTrue] at isFalse
    cases isFalse

/-- A key that is no text cannot be listed, and a truth value that counts as false is no
document. -/
theorem exists_load_unfit :
    (∃ content, readContent Yaml.read (fileOf "1: 2") defaultFile = .ok content ∧
      load Yaml.read (fileOf "1: 2") [] none = .error .nameMistyped) ∧
    ∃ content, readContent Yaml.read (fileOf "false") defaultFile = .ok content ∧ ¬IsDocument content ∧
      ∃ settings, load Yaml.read (fileOf "false") [] none = .ok settings := by
  constructor
  · obtain ⟨content, read, mistyped⟩ : ∃ content,
        readContent Yaml.read (fileOf "1: 2") defaultFile = .ok content ∧
          decide (HasMistypedName content) = true :=
      exists_of_toOption (by decide +kernel)
    refine ⟨content, read, ?_⟩
    rw [@load_eq_configure _ _ none _ read []]
    exact configure_eq_nameMistyped_iff.mpr (of_decide_eq_true mistyped)
  · obtain ⟨content, read, counts⟩ : ∃ content,
        readContent Yaml.read (fileOf "false") defaultFile = .ok content ∧
          ((decodeMarkers (some content)).isOk && !content.isTruthy) = true :=
      exists_of_toOption (by decide +kernel)
    rw [Bool.and_eq_true, Bool.not_eq_true'] at counts
    obtain ⟨isOk, isFalse⟩ := counts
    have isMarkers : ∃ markers, decodeMarkers (some content) = .ok markers := by
      cases made : decodeMarkers (some content) with
      | ok markers => exact ⟨markers, rfl⟩
      | error fault => simp [made, Except.isOk, Except.toBool] at isOk
    obtain ⟨written, rfl⟩ := exists_decodeMarkers_iff.mp isMarkers content rfl
    refine ⟨_, read, ?_, ?_⟩
    · simp [IsDocument, Data.null, Data.bare]
    · rw [@load_eq_configure _ _ none _ read []]
      refine exists_configure_iff.mpr ⟨.inr isFalse, fun value named => ?_⟩
      cases named

end Settings

end NodeForms
