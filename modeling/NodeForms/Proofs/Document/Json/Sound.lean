import NodeForms.Proofs.Document.Json.RoundTrip

/-!
# What JSON texts stand for

Whatever is read from a text is a value that texts can stand for: the keys of its mappings are
distinct texts, and of the doubles that stand for no number there is one alone. The argument is
on the number of steps that the reader may take.
-/

namespace NodeForms

namespace Json

theorem isJson_ofNotation (negative : Bool) (whole fraction : List Char) (exponent : Int) :
    (Scalar.float (Binary64.ofNotation negative whole fraction exponent)).IsJson := by
  intro isNaN
  have bounded := Binary64.decimalBits_le (naturalOfDigits (whole ++ fraction))
    (exponent - fraction.length)
  rw [Binary64.ofNotation, Binary64.ofDecimal_eq, Binary64.isNaN,
    (Binary64.fields_ofMagnitude negative (bounded.trans_lt (by decide))).2] at isNaN
  exact absurd (of_decide_eq_true isNaN) (Nat.not_lt.mpr bounded)

theorem isJson_of_readMagnitude {negative : Bool} {chars rest : List Char} {value : Scalar}
    (found : readMagnitude negative chars = some (value, rest)) : value.IsJson := by
  unfold readMagnitude at found
  obtain ⟨⟨whole, afterWhole⟩, -, found⟩ := Option.bind_eq_some_iff.mp found
  dsimp only at found
  split at found
  · cases found
    exact trivial
  · cases found
    exact isJson_ofNotation _ _ _ _

theorem isJson_infinity (negative : Bool) : (Scalar.float (Binary64.infinity negative)).IsJson := by
  cases negative with
  | true => exact fun isNaN => absurd isNaN (by decide)
  | false => exact fun isNaN => absurd isNaN (by decide)

theorem isJson_of_readNumber {chars rest : List Char} {value : Scalar}
    (found : readNumber chars = some (value, rest)) : value.IsJson := by
  unfold readNumber at found
  split at found
  · split at found
    · cases found
      exact isJson_infinity true
    · exact isJson_of_readMagnitude found
  · exact isJson_of_readMagnitude found

theorem isJson_of_mem_words {word : String × Scalar} (isMember : word ∈ words) :
    word.2.IsJson := by
  simp only [words, List.mem_cons, List.not_mem_nil, or_false] at isMember
  rcases isMember with rfl | rfl | rfl | rfl | rfl
  · exact trivial
  · exact trivial
  · exact trivial
  · exact fun _ => rfl
  · exact isJson_infinity false

theorem isJson_of_readScalar {chars rest : List Char} {value : Scalar}
    (found : readScalar chars = some (value, rest)) : value.IsJson := by
  unfold readScalar at found
  split at found
  · rename_i word isWord
    cases found
    obtain ⟨word, isMember, isFound⟩ := List.exists_of_findSome?_eq_some isWord
    obtain ⟨after, -, same⟩ := Option.map_eq_some_iff.mp isFound
    cases same
    exact isJson_of_mem_words isMember
  · exact isJson_of_readNumber found

/-- A member as JSON texts have them: a value by the name of a text. -/
def IsMember (member : Scalar × Data) : Prop :=
  (∃ name, member.1 = .text name) ∧ member.2.IsJson

/-- What is read within so many steps is what JSON texts stand for. -/
structure GivesJson (fuel : Nat) : Prop where
  value {chars : List Char} {value : Data} {rest : List Char} :
    readValue fuel chars = some (value, rest) → value.IsJson
  items {chars : List Char} {items : List Data} {rest : List Char} :
    readItems fuel chars = some (items, rest) → ∀ item ∈ items, item.IsJson
  members {chars : List Char} {members : List (Scalar × Data)} {rest : List Char} :
    readMembers fuel chars = some (members, rest) → ∀ member ∈ members, IsMember member

theorem isJson_map {members : List (Scalar × Data)} (all : ∀ member ∈ members, IsMember member) :
    (Data.map (Entries.ofList members)).IsJson := by
  have kept := Entries.forall_mem_ofList (fun key => ∃ name, key = .text name) Data.IsJson all
  exact .map ⟨fun entry isEntry => (kept entry isEntry).1, Entries.distinct_ofList members⟩
    fun entry isEntry => (kept entry isEntry).2

namespace GivesJson

variable {fuel : Nat} {chars rest : List Char}

theorem value_succ (gives : GivesJson fuel) {value : Data}
    (found : readValue (fuel + 1) chars = some (value, rest)) : value.IsJson := by
  unfold readValue at found
  split at found
  case h_1 =>
    obtain ⟨⟨content, after⟩, -, found⟩ := Option.bind_eq_some_iff.mp found
    cases found
    exact .scalar trivial
  case h_2 =>
    split at found
    · cases found
      exact .list (by simp)
    · obtain ⟨⟨items, after⟩, read, found⟩ := Option.bind_eq_some_iff.mp found
      cases found
      exact .list (gives.items read)
  case h_3 =>
    split at found
    · cases found
      exact .map ⟨by simp, List.Pairwise.nil⟩ (by simp)
    · obtain ⟨⟨members, after⟩, read, found⟩ := Option.bind_eq_some_iff.mp found
      cases found
      exact isJson_map (gives.members read)
  case h_4 =>
    obtain ⟨⟨value, after⟩, read, found⟩ := Option.bind_eq_some_iff.mp found
    cases found
    exact .scalar (isJson_of_readScalar read)

theorem items_succ (gives : GivesJson fuel) {items : List Data}
    (found : readItems (fuel + 1) chars = some (items, rest)) : ∀ item ∈ items, item.IsJson := by
  unfold readItems at found
  obtain ⟨⟨item, after⟩, read, found⟩ := Option.bind_eq_some_iff.mp found
  dsimp only at found
  split at found
  · cases found
    simpa using gives.value read
  · obtain ⟨⟨more, after⟩, readMore, found⟩ := Option.bind_eq_some_iff.mp found
    cases found
    rw [List.forall_mem_cons]
    exact ⟨gives.value read, gives.items readMore⟩
  · cases found

theorem members_succ (gives : GivesJson fuel) {members : List (Scalar × Data)}
    (found : readMembers (fuel + 1) chars = some (members, rest)) :
    ∀ member ∈ members, IsMember member := by
  unfold readMembers at found
  split at found
  · obtain ⟨⟨name, afterName⟩, -, found⟩ := Option.bind_eq_some_iff.mp found
    dsimp only at found
    split at found
    · obtain ⟨⟨value, afterValue⟩, read, found⟩ := Option.bind_eq_some_iff.mp found
      have isMember : IsMember (Scalar.text (String.ofList name), value) :=
        ⟨⟨_, rfl⟩, gives.value read⟩
      dsimp only at found
      split at found
      · cases found
        simpa using isMember
      · obtain ⟨⟨more, after⟩, readMore, found⟩ := Option.bind_eq_some_iff.mp found
        cases found
        rw [List.forall_mem_cons]
        exact ⟨isMember, gives.members readMore⟩
      · cases found
    · cases found
  · cases found

end GivesJson

theorem givesJson (fuel : Nat) : GivesJson fuel := by
  induction fuel with
  | zero => exact ⟨nofun, nofun, nofun⟩
  | succ fuel gives => exact ⟨gives.value_succ, gives.items_succ, gives.members_succ⟩

theorem isJson_of_read {text : String} {value : Data} (found : read text = some value) :
    value.IsJson := by
  unfold read readChars at found
  split at found
  · rename_i value rest isRead
    split at found
    · cases found
      exact (givesJson _).value isRead
    · cases found
  · cases found

end Json

end NodeForms
