import NodeForms.Proofs.Document.Json.Scalars
import NodeForms.Proofs.Document.Keys

/-!
# Reading values that were written

A value that JSON texts can stand for is read back from its text, on one line or on lines of its
own. What follows a value in a text ends each number in it, and the reader takes no more steps
than there are characters.
-/

namespace NodeForms

/-- Members with distinct texts as their keys. -/
structure Entries.IsNamed (entries : Entries) : Prop where
  names : ∀ entry ∈ entries, ∃ name, entry.1 = .text name
  distinct : entries.Distinct

/-- The values that JSON texts stand for. -/
inductive Data.IsJson : Data → Prop
  | scalar {value : Scalar} (isJson : value.IsJson) : (Data.scalar value).IsJson
  | list {items : List Data} (all : ∀ item ∈ items, item.IsJson) : (Data.list items).IsJson
  | map {entries : Entries} (isNamed : entries.IsNamed)
      (all : ∀ entry ∈ entries, entry.2.IsJson) : (Data.map entries).IsJson

theorem Data.isJson_text (value : String) : (Data.text value).IsJson := .scalar trivial

theorem Data.isJson_int (value : Int) : (Data.int value).IsJson := .scalar trivial

namespace Json

theorem skipSpaces_append {gap : List Char} (blank : ∀ c ∈ gap, isSpace c = true)
    (rest : List Char) : skipSpaces (gap ++ rest) = skipSpaces rest :=
  List.dropWhile_append_of_pos blank

namespace Style

variable (style : Style) (level : Nat)

theorem lineStart_blank : ∀ c ∈ style.lineStart level, isSpace c = true := by
  unfold lineStart
  cases style.indent with
  | none => simp
  | some width =>
      rw [List.forall_mem_cons]
      refine ⟨rfl, fun c isMember => ?_⟩
      rw [List.eq_of_mem_replicate isMember]
      rfl

theorem exists_separator :
    ∃ gap, style.separator level = ',' :: gap ∧ ∀ c ∈ gap, isSpace c = true := by
  unfold separator
  cases style.indent with
  | none => exact ⟨[' '], rfl, List.forall_mem_singleton.mpr rfl⟩
  | some width => exact ⟨style.lineStart level, rfl, style.lineStart_blank level⟩

end Style

/-- Characters that start with neither a space nor a closing bracket. -/
def StartsValue (chars : List Char) : Prop :=
  ∃ c others, chars = c :: others ∧ isSpace c = false ∧ c ≠ ']' ∧ c ≠ '\x7d'

theorem StartsValue.append {chars : List Char} (starts : StartsValue chars) (rest : List Char) :
    StartsValue (chars ++ rest) := by
  obtain ⟨c, others, rfl, isFirst⟩ := starts
  exact ⟨c, others ++ rest, rfl, isFirst⟩

theorem StartsValue.skipSpaces_append {chars : List Char} (starts : StartsValue chars)
    (rest : List Char) : skipSpaces (chars ++ rest) = chars ++ rest := by
  obtain ⟨c, others, rfl, noSpace, -, -⟩ := starts
  rw [List.cons_append, skipSpaces, List.dropWhile_cons_of_neg (by simp [noSpace])]

theorem StartsValue.skipSpaces_space {chars : List Char} (starts : StartsValue chars) :
    skipSpaces (' ' :: chars) = chars := by
  have noSpace := starts.skipSpaces_append []
  rw [List.append_nil] at noSpace
  exact noSpace

theorem skipSpaces_textChars (text : String) (rest : List Char) :
    skipSpaces (textChars text ++ rest) = textChars text ++ rest := by
  rw [textChars_append]
  rfl

theorem endsNumber_cons {c : Char} (noDigit : c.isDigit = false)
    (others : c ∉ ['.', 'e', 'E']) (rest : List Char) : EndsNumber (c :: rest) := by
  intro first isFirst
  cases isFirst
  simpa [noDigit] using others

theorem endsNumber_lineStart (style : Style) (level : Nat) {rest : List Char}
    (ends : EndsNumber rest) : EndsNumber (style.lineStart level ++ rest) := by
  unfold Style.lineStart
  cases style.indent with
  | none => exact ends
  | some width => exact endsNumber_cons rfl (by decide) _

theorem endsNumber_separator (style : Style) (level : Nat) (rest : List Char) :
    EndsNumber (style.separator level ++ rest) := by
  obtain ⟨gap, isSeparator, -⟩ := style.exists_separator level
  rw [isSeparator]
  exact endsNumber_cons rfl (by decide) _

/-- A value that is read back from what it is written as, at each level of nesting. -/
structure ReadsBack (style : Style) (value : Data) : Prop where
  starts : ∀ level, StartsValue (writeAt style level value)
  reads : ∀ level fuel rest, (writeAt style level value).length ≤ fuel → EndsNumber rest →
    readValue fuel (writeAt style level value ++ rest) = some (value, rest)

section

variable {fuel : Nat} {chars after : List Char}

theorem readItems_last {item : Data} {gap : List Char} (blank : ∀ c ∈ gap, isSpace c = true)
    (reads : readValue fuel chars = some (item, gap ++ ']' :: after)) :
    readItems (fuel + 1) chars = some ([item], after) := by
  have closing : skipSpaces (gap ++ ']' :: after) = ']' :: after := skipSpaces_append blank _
  simp [readItems, reads, closing]

theorem readItems_more {item : Data} {items : List Data} {more : List Char}
    (reads : readValue fuel chars = some (item, ',' :: more))
    (readsMore : readItems fuel (skipSpaces more) = some (items, after)) :
    readItems (fuel + 1) chars = some (item :: items, after) := by
  have comma : skipSpaces (',' :: more) = ',' :: more := rfl
  simp [readItems, reads, comma, readsMore]

theorem readMembers_last {name : String} {value : Data} {gap : List Char}
    (blank : ∀ c ∈ gap, isSpace c = true) (starts : StartsValue chars)
    (reads : readValue fuel chars = some (value, gap ++ '\x7d' :: after)) :
    readMembers (fuel + 1) (textChars name ++ (':' :: ' ' :: chars)) =
      some ([(.text name, value)], after) := by
  have closing : skipSpaces (gap ++ '\x7d' :: after) = '\x7d' :: after := skipSpaces_append blank _
  have colon : skipSpaces (':' :: ' ' :: chars) = ':' :: ' ' :: chars := rfl
  rw [textChars_append, readMembers]
  simp only [readText_text, colon, starts.skipSpaces_space, reads, closing, Option.bind_eq_bind,
    Option.bind_some, String.ofList_toList]

theorem readMembers_more {name : String} {value : Data} {members : List (Scalar × Data)}
    {more : List Char} (starts : StartsValue chars)
    (reads : readValue fuel chars = some (value, ',' :: more))
    (readsMore : readMembers fuel (skipSpaces more) = some (members, after)) :
    readMembers (fuel + 1) (textChars name ++ (':' :: ' ' :: chars)) =
      some ((.text name, value) :: members, after) := by
  have comma : skipSpaces (',' :: more) = ',' :: more := rfl
  have colon : skipSpaces (':' :: ' ' :: chars) = ':' :: ' ' :: chars := rfl
  rw [textChars_append, readMembers]
  simp only [readText_text, colon, starts.skipSpaces_space, reads, comma, readsMore,
    Option.bind_eq_bind, Option.bind_some, String.ofList_toList]

theorem readValue_items {items : List Data} (starts : StartsValue (skipSpaces chars))
    (reads : readItems fuel (skipSpaces chars) = some (items, after)) :
    readValue (fuel + 1) ('[' :: chars) = some (.list items, after) := by
  obtain ⟨c, others, isFirst, -, noClosing, -⟩ := starts
  rw [isFirst] at reads
  rw [readValue, isFirst]
  split
  · rename_i closing
    exact absurd (List.cons.inj closing).1 noClosing
  · rw [reads]
    rfl

theorem readValue_members {members : List (Scalar × Data)} (starts : StartsValue (skipSpaces chars))
    (reads : readMembers fuel (skipSpaces chars) = some (members, after)) :
    readValue (fuel + 1) ('\x7b' :: chars) = some (.map (Entries.ofList members), after) := by
  obtain ⟨c, others, isFirst, -, -, noClosing⟩ := starts
  rw [isFirst] at reads
  rw [readValue, isFirst]
  split
  · rename_i closing
    exact absurd (List.cons.inj closing).1 noClosing
  · rw [reads]
    rfl

end

section

variable {style : Style} {level : Nat} {rest : List Char}

/-- The elements of a list are read up to its closing bracket. -/
theorem readItems_writeItems {item : Data} {items : List Data} (readsBack : ReadsBack style item)
    (readBack : ∀ other ∈ items, ReadsBack style other) {fuel : Nat}
    (enough : (writeAt style (level + 1) item).length
      + (writeItems style (level + 1) items).length < fuel) :
    readItems fuel (writeAt style (level + 1) item ++ (writeItems style (level + 1) items
      ++ (style.lineStart level ++ ']' :: rest))) = some (item :: items, rest) := by
  induction items generalizing item fuel with
  | nil =>
      obtain ⟨steps, rfl⟩ : ∃ steps, fuel = steps + 1 := ⟨fuel - 1, by omega⟩
      have ends : EndsNumber (style.lineStart level ++ ']' :: rest) :=
        endsNumber_lineStart style level (endsNumber_cons rfl (by decide) rest)
      rw [writeItems, List.nil_append]
      exact readItems_last (style.lineStart_blank level)
        (readsBack.reads (level + 1) steps _ (by omega) ends)
  | cons next items inductionHypothesis =>
      obtain ⟨steps, rfl⟩ : ∃ steps, fuel = steps + 1 := ⟨fuel - 1, by omega⟩
      rw [List.forall_mem_cons] at readBack
      -- The separator ends the first element, and its spaces are skipped before the next.
      have ends := endsNumber_separator style (level + 1) (writeAt style (level + 1) next
        ++ (writeItems style (level + 1) items ++ (style.lineStart level ++ ']' :: rest)))
      obtain ⟨gap, isSeparator, blank⟩ := style.exists_separator (level + 1)
      simp only [writeItems, List.length_append, isSeparator, List.length_cons] at enough
      have reads := readsBack.reads (level + 1) steps _ (by omega) ends
      rw [isSeparator, List.cons_append] at reads
      rw [writeItems, isSeparator, List.append_assoc, List.append_assoc, List.cons_append]
      refine readItems_more reads ?_
      rw [skipSpaces_append blank, (readBack.1.starts (level + 1)).skipSpaces_append]
      exact inductionHypothesis readBack.1 readBack.2 (by omega)

/-- The members of a mapping are read up to its closing brace. -/
theorem readMembers_writeEntries {name : String} {value : Data} {entries : List (Scalar × Data)}
    (names : ∀ entry ∈ entries, ∃ name, entry.1 = .text name)
    (readsBack : ReadsBack style value) (readBack : ∀ entry ∈ entries, ReadsBack style entry.2)
    {fuel : Nat} (enough : (writeAt style (level + 1) value).length
      + (writeEntries style (level + 1) entries).length < fuel) :
    readMembers fuel (textChars name ++ (':' :: ' ' :: (writeAt style (level + 1) value
      ++ (writeEntries style (level + 1) entries ++ (style.lineStart level ++ '\x7d' :: rest))))) =
      some ((.text name, value) :: entries, rest) := by
  induction entries generalizing name value fuel with
  | nil =>
      obtain ⟨steps, rfl⟩ : ∃ steps, fuel = steps + 1 := ⟨fuel - 1, by omega⟩
      have ends : EndsNumber (style.lineStart level ++ '\x7d' :: rest) :=
        endsNumber_lineStart style level (endsNumber_cons rfl (by decide) rest)
      rw [writeEntries, List.nil_append]
      exact readMembers_last (style.lineStart_blank level)
        ((readsBack.starts (level + 1)).append _)
        (readsBack.reads (level + 1) steps _ (by omega) ends)
  | cons next entries inductionHypothesis =>
      obtain ⟨steps, rfl⟩ : ∃ steps, fuel = steps + 1 := ⟨fuel - 1, by omega⟩
      obtain ⟨key, nextValue⟩ := next
      rw [List.forall_mem_cons] at names readBack
      obtain ⟨⟨nextName, isText⟩, names⟩ := names
      cases isText
      have nextReads : ReadsBack style nextValue := readBack.1
      have ends := endsNumber_separator style (level + 1) (textChars nextName
        ++ (':' :: ' ' :: (writeAt style (level + 1) nextValue
          ++ (writeEntries style (level + 1) entries
            ++ (style.lineStart level ++ '\x7d' :: rest)))))
      obtain ⟨gap, isSeparator, blank⟩ := style.exists_separator (level + 1)
      simp only [writeEntries, List.length_append, isSeparator, List.length_cons] at enough
      have reads := readsBack.reads (level + 1) steps _ (by omega) ends
      rw [isSeparator, List.cons_append] at reads
      simp only [writeEntries, isSeparator, List.append_assoc, List.cons_append, scalarWord,
        List.nil_append]
      refine readMembers_more ((readsBack.starts (level + 1)).append _) reads ?_
      rw [skipSpaces_append blank, skipSpaces_textChars]
      exact inductionHypothesis names nextReads readBack.2 (by omega)

end

variable {style : Style}

theorem readsBack_text (text : String) : ReadsBack style (.scalar (.text text)) where
  starts level := ⟨'"', _, rfl, rfl, by decide, by decide⟩
  reads level fuel rest enough _ := by
    cases fuel with
    | zero => simp [writeAt, scalarChars, textChars] at enough
    | succ fuel =>
        rw [writeAt, scalarChars, textChars_append, readValue]
        simp only [readText_text, Option.bind_eq_bind, Option.bind_some, String.ofList_toList]
        rfl

theorem readsBack_scalar {value : Scalar} (isJson : value.IsJson) :
    ReadsBack style (.scalar value) := by
  by_cases isText : ∃ text, value = .text text
  · obtain ⟨text, rfl⟩ := isText
    exact readsBack_text text
  · have noText : ∀ text, value ≠ .text text := fun text same => isText ⟨text, same⟩
    -- A scalar of another sort starts like no text and no collection, so it is read as one.
    have spells := spells_scalarChars isJson noText
    obtain ⟨c, others, isFirst, starts⟩ := spells.starts
    have differs (other : Char) (noStart : startsScalar other = false) : c ≠ other := by
      rintro rfl
      rw [noStart] at starts
      cases starts
    refine ⟨fun level => ⟨c, others, by rw [writeAt, isFirst], ?_, differs _ rfl, differs _ rfl⟩,
      fun level fuel rest enough ends => ?_⟩
    · simp [isSpace, differs ' ' rfl, differs '\t' rfl, differs '\n' rfl, differs '\r' rfl]
    · cases fuel with
      | zero => simp [writeAt, isFirst] at enough
      | succ fuel =>
          have reads := spells.reads rest ends
          rw [isFirst, List.cons_append] at reads
          rw [writeAt, isFirst, List.cons_append, readValue, reads]
          · rfl
          · exact fun _ same => differs '"' rfl (List.cons.inj same).1
          · exact fun _ same => differs '[' rfl (List.cons.inj same).1
          · exact fun _ same => differs '\x7b' rfl (List.cons.inj same).1

theorem readsBack_list {items : List Data} (readBack : ∀ item ∈ items, ReadsBack style item) :
    ReadsBack style (.list items) := by
  cases items with
  | nil =>
      refine ⟨fun level => ⟨'[', _, rfl, rfl, by decide, by decide⟩,
        fun level fuel rest enough _ => ?_⟩
      cases fuel with
      | zero => simp [writeAt] at enough
      | succ fuel => rfl
  | cons item items =>
      rw [List.forall_mem_cons] at readBack
      refine ⟨fun level => ⟨'[', _, rfl, rfl, by decide, by decide⟩,
        fun level fuel rest enough _ => ?_⟩
      cases fuel with
      | zero => simp [writeAt] at enough
      | succ fuel =>
          simp only [writeAt, List.length_cons, List.length_append] at enough
          have starts := readBack.1.starts (level + 1)
          have skipped := skipSpaces_append (style.lineStart_blank (level + 1))
          simp only [writeAt, List.cons_append, List.append_assoc, List.nil_append]
          refine readValue_items ?_ ?_
          · rw [skipped, starts.skipSpaces_append]
            exact starts.append _
          · rw [skipped, starts.skipSpaces_append]
            exact readItems_writeItems readBack.1 readBack.2 (by omega)

theorem readsBack_map {entries : Entries} (isNamed : entries.IsNamed)
    (readBack : ∀ entry ∈ entries, ReadsBack style entry.2) : ReadsBack style (.map entries) := by
  cases entries with
  | nil =>
      refine ⟨fun level => ⟨'\x7b', _, rfl, rfl, by decide, by decide⟩,
        fun level fuel rest enough _ => ?_⟩
      cases fuel with
      | zero => simp [writeAt] at enough
      | succ fuel => rfl
  | cons entry entries =>
      have names := isNamed.names
      have same := Entries.ofList_of_distinct isNamed.distinct
      obtain ⟨key, value⟩ := entry
      rw [List.forall_mem_cons] at names readBack
      obtain ⟨⟨name, isText⟩, names⟩ := names
      cases isText
      refine ⟨fun level => ⟨'\x7b', _, rfl, rfl, by decide, by decide⟩,
        fun level fuel rest enough _ => ?_⟩
      cases fuel with
      | zero => simp [writeAt] at enough
      | succ fuel =>
          have valueReads : ReadsBack style value := readBack.1
          simp only [writeAt, List.length_cons, List.length_append] at enough
          have skipped := skipSpaces_append (style.lineStart_blank (level + 1))
          have starts (rest : List Char) : StartsValue (textChars name ++ rest) :=
            ⟨'"', _, textChars_append name rest, rfl, by decide, by decide⟩
          simp only [writeAt, List.cons_append, List.append_assoc, List.nil_append, scalarWord]
          rw [← same]
          refine readValue_members ?_ ?_
          · rw [skipped, skipSpaces_textChars]
            exact starts _
          · rw [skipped, skipSpaces_textChars]
            exact readMembers_writeEntries names valueReads readBack.2 (by omega)

/-- A value that JSON texts can stand for is read back from its characters. The reader may take as
many steps as there are characters, and each bracket, separator and scalar has one at least. -/
theorem readsBack_of_isJson {value : Data} (isJson : value.IsJson) : ReadsBack style value := by
  induction isJson with
  | scalar isJson => exact readsBack_scalar isJson
  | list all readBack => exact readsBack_list readBack
  | map isNamed all readBack => exact readsBack_map isNamed readBack

theorem itemsFault?_eq_none {items : List Data} (none : ∀ item ∈ items, fault? item = none) :
    itemsFault? items = Option.none := by
  induction items with
  | nil => rfl
  | cons item items inductionHypothesis =>
      rw [List.forall_mem_cons] at none
      rw [itemsFault?, none.1, inductionHypothesis none.2]
      rfl

theorem entriesFault?_eq_none {entries : List (Scalar × Data)}
    (names : ∀ entry ∈ entries, ∃ name, entry.1 = .text name)
    (none : ∀ entry ∈ entries, fault? entry.2 = none) : entriesFault? entries = Option.none := by
  induction entries with
  | nil => rfl
  | cons entry entries inductionHypothesis =>
      obtain ⟨key, value⟩ := entry
      rw [List.forall_mem_cons] at names none
      obtain ⟨⟨name, isText⟩, names⟩ := names
      cases isText
      have noFault : fault? value = Option.none := none.1
      rw [entriesFault?, noFault, inductionHypothesis names none.2]
      rfl

theorem fault?_eq_none {value : Data} (isJson : value.IsJson) : fault? value = none := by
  induction isJson with
  | @scalar value isJson =>
      have form : hasForm value = true := by
        cases value with
        | date | bytes => exact isJson.elim
        | _ => rfl
      rw [fault?, if_pos form]
  | list all none => rw [fault?, itemsFault?_eq_none none]
  | map isNamed all none => rw [fault?, entriesFault?_eq_none isNamed.names none]

theorem read_of_write {style : Style} {value : Data} (isJson : value.IsJson) {text : String}
    (writes : write style value = .ok text) : read text = some value := by
  obtain ⟨starts, reads⟩ : ReadsBack style value := readsBack_of_isJson isJson
  rw [write, fault?_eq_none isJson] at writes
  obtain rfl := Except.ok.inj writes
  have noSpace := (starts 0).skipSpaces_append []
  have whole := reads 0 ((writeAt style 0 value).length + 1) [] (Nat.le_succ _) nofun
  rw [List.append_nil] at noSpace whole
  rw [read, readChars, String.toList_ofList, noSpace, whole]
  rfl

theorem exists_write (style : Style) {value : Data} (isJson : value.IsJson) :
    ∃ text, write style value = .ok text :=
  ⟨String.ofList (writeAt style 0 value), by rw [write, fault?_eq_none isJson]⟩

end Json

end NodeForms
