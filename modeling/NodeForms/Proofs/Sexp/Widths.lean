import NodeForms.Proofs.Sexp.Layout
import Mathlib.Data.List.Nodup

/-!
# The width pass and the pretty form

The pretty form looks widths up in a table that is filled before anything is written. A
list that stands in several places is entered once, so what the pass keeps is stated for
tables over all lists of one value: the widths in the table are those of compact texts, and
with a list all lists in it are there. From this the writer with its stack is the recursion
that measures compact texts where it stands.
-/

namespace NodeForms

namespace Sexp

namespace Labelled

mutual
/-- The lists in a value with their labels, each list before those in it. -/
def lists : Labelled → List (Nat × List Labelled)
  | .scalar _ _ => []
  | .seq label items => (label, items) :: itemLists items
def itemLists : List Labelled → List (Nat × List Labelled)
  | [] => []
  | item :: items => lists item ++ itemLists items
end

theorem mem_itemLists {items : List Labelled} {item : Labelled} (member : item ∈ items)
    {entry : Nat × List Labelled} (found : entry ∈ item.lists) : entry ∈ itemLists items := by
  induction items with
  | nil => cases member
  | cons first items ih =>
      rw [itemLists, List.mem_append]
      rcases List.mem_cons.mp member with rfl | later
      · exact .inl found
      · exact .inr (ih later)

mutual
theorem itemsWeight_lt_of_mem_lists : (labelled : Labelled) → ∀ {entry},
    entry ∈ labelled.lists → itemsWeight entry.2 < labelled.weight
  | .scalar _ _, _, member => by cases member
  | .seq label items, entry, member => by
      rw [weight]
      rcases List.mem_cons.mp member with rfl | inner
      · simp only
        omega
      · have lighter := itemsWeight_lt_of_mem_itemLists items inner
        omega
theorem itemsWeight_lt_of_mem_itemLists : (items : List Labelled) → ∀ {entry},
    entry ∈ itemLists items → itemsWeight entry.2 < itemsWeight items
  | [], _, member => by cases member
  | item :: items, entry, member => by
      rw [itemsWeight]
      rcases List.mem_append.mp member with first | later
      · have lighter := itemsWeight_lt_of_mem_lists item first
        omega
      · have lighter := itemsWeight_lt_of_mem_itemLists items later
        omega
end

/-- Lists with labels in which one label stands for one list. -/
def OneList (lists : List (Nat × List Labelled)) : Prop :=
  ∀ {label first second}, (label, first) ∈ lists → (label, second) ∈ lists → first = second

theorem OneList.not_inside {known : List (Nat × List Labelled)} (one : OneList known)
    {label : Nat} {items : List Labelled} (listed : (label, items) ∈ known)
    (inside : itemLists items ⊆ known) : label ∉ (itemLists items).map Prod.fst := by
  intro again
  obtain ⟨⟨_, others⟩, member, rfl⟩ := List.mem_map.mp again
  obtain rfl : items = others := one listed (inside member)
  exact absurd (itemsWeight_lt_of_mem_itemLists items member) (Nat.lt_irrefl _)

end Labelled

open Labelled

def compactWidth (items : List Labelled) : Nat :=
  (compact (.seq (itemValues items))).length

theorem length_flatRest (items : List Labelled) :
    (flatRest (itemValues items)).length =
      items.length + totalWidth (fun item => item.value.compact.length) items := by
  induction items with
  | nil => rfl
  | cons item items ih =>
      rw [itemValues, flatRest, String.length_append, String.length_append, ih, totalWidth,
        List.length_cons, compact_eq_flatText]
      change 1 + _ = _
      omega

theorem compactWidth_eq (items : List Labelled) :
    compactWidth items =
      2 + (items.length - 1) + totalWidth (fun item => item.value.compact.length) items := by
  rw [compactWidth, compact_eq_flatText, flatText, String.length_append, String.length_append]
  cases items with
  | nil => rfl
  | cons item items =>
      rw [itemValues, flatItems, String.length_append, length_flatRest, totalWidth,
        List.length_cons, compact_eq_flatText]
      change 1 + _ + 1 = _
      omega

theorem totalWidth_congr {first second : Labelled → Nat} {items : List Labelled}
    (same : ∀ item ∈ items, first item = second item) :
    totalWidth first items = totalWidth second items := by
  induction items with
  | nil => rfl
  | cons item items ih =>
      rw [List.forall_mem_cons] at same
      rw [totalWidth, totalWidth, same.1, ih same.2]

namespace WidthTable

def labels (table : WidthTable) : List Nat := table.map Prod.fst

theorem mem_labels_iff {table : WidthTable} {label : Nat} :
    label ∈ table.labels ↔ (table.lookup label).isSome = true := by
  rw [List.lookup_isSome_iff, labels, List.mem_map]
  exact exists_congr fun entry => and_congr_right fun _ => by rw [beq_iff_eq, eq_comm]

/-- What the width pass keeps of a table, for the lists of one value. -/
structure Fits (known : List (Nat × List Labelled)) (table : WidthTable) : Prop where
  /-- Each entry is a known list with the width of its compact text. -/
  exact : ∀ {label width}, (label, width) ∈ table →
    ∃ items, (label, items) ∈ known ∧ width = compactWidth items
  closed : ∀ {label items}, (label, items) ∈ known → label ∈ table.labels →
    (itemLists items).map Prod.fst ⊆ table.labels
  once : table.labels.Nodup

theorem fits_nil (known : List (Nat × List Labelled)) : Fits known [] where
  exact found := by cases found
  closed _ found := by cases found
  once := List.nodup_nil

namespace Fits

variable {known : List (Nat × List Labelled)} {table : WidthTable}

theorem lookup_eq (fits : Fits known table) (one : OneList known) {label : Nat}
    {items : List Labelled} (listed : (label, items) ∈ known) (found : label ∈ table.labels) :
    table.lookup label = some (compactWidth items) := by
  obtain ⟨width, lookup⟩ := Option.isSome_iff_exists.mp (mem_labels_iff.mp found)
  have entry : (label, width) ∈ table := by
    obtain ⟨before, after, rfl, -⟩ := List.lookup_eq_some_iff.mp lookup
    simp
  obtain ⟨others, known', rfl⟩ := fits.exact entry
  rw [lookup, one listed known']

theorem width_eq (fits : Fits known table) (one : OneList known) (labelled : Labelled)
    (listed : labelled.lists ⊆ known) (found : labelled.lists.map Prod.fst ⊆ table.labels) :
    table.width labelled = labelled.value.compact.length := by
  cases labelled with
  | scalar value noSeq => rw [width, Labelled.value, compact_scalar noSeq]
  | seq label items =>
      rw [width, fits.lookup_eq one (listed List.mem_cons_self) (found List.mem_cons_self)]
      rfl

theorem listWidth_eq (fits : Fits known table) (one : OneList known) {items : List Labelled}
    (listed : itemLists items ⊆ known)
    (found : (itemLists items).map Prod.fst ⊆ table.labels) :
    table.listWidth items = compactWidth items := by
  rw [listWidth, compactWidth_eq, totalWidth_congr fun item member => fits.width_eq one item ?_ ?_]
  · exact fun _ inner => listed (mem_itemLists member inner)
  · exact fun _ inner => found (List.map_subset Prod.fst (fun _ => mem_itemLists member) inner)

theorem enter (fits : Fits known table) (one : OneList known) {label : Nat}
    {items : List Labelled} (listed : (label, items) ∈ known)
    (found : (itemLists items).map Prod.fst ⊆ table.labels) (fresh : label ∉ table.labels) :
    Fits known ((label, compactWidth items) :: table) where
  exact entered := by
    rcases List.mem_cons.mp entered with same | earlier
    · cases same
      exact ⟨items, listed, rfl⟩
    · exact fits.exact earlier
  closed known' entered := by
    refine List.Subset.trans ?_ (List.subset_cons_self label table.labels)
    rcases List.mem_cons.mp entered with rfl | earlier
    · rwa [one known' listed]
    · exact fits.closed known' earlier
  once := List.nodup_cons.mpr ⟨fresh, fits.once⟩

end Fits

end WidthTable

open WidthTable

/-- The pass over some lists turns a table into another one: whatever is left to measure then
goes on from the new table, which holds these lists and what it held before. -/
structure Measures (known : List (Nat × List Labelled)) (before : WidthTable)
    (tasks : List MeasureTask → List MeasureTask) (lists : List (Nat × List Labelled))
    (after : WidthTable) : Prop where
  goes : ∀ rest, measureAll before (tasks rest) = measureAll after rest
  fits : Fits known after
  /-- The new table holds the lists of the tasks and those of the old one. -/
  holds : ∀ label, label ∈ after.labels ↔ label ∈ before.labels ∨ label ∈ lists.map Prod.fst

section

variable {known : List (Nat × List Labelled)} {before middle : WidthTable} {label : Nat}
  {items : List Labelled}

theorem measures_entered (fits : Fits known before) (listed : (label, items) ∈ known)
    (entered : label ∈ before.labels) :
    Measures known before (.visit (.seq label items) :: ·) (lists (.seq label items)) before where
  goes rest := by rw [measureAll, if_pos (mem_labels_iff.mp entered)]
  fits := fits
  holds other := by
    refine ⟨.inl, ?_⟩
    rintro (old | inner)
    · exact old
    · rcases List.mem_cons.mp inner with rfl | inner
      · exact entered
      · exact fits.closed listed entered inner

/-- A list that is not in the table is entered once its elements are measured; as it does not
stand in itself, they do not bring it into the table. -/
theorem Measures.enter (measured : Measures known before (visitAll items) (itemLists items) middle)
    (one : OneList known) (listed : (label, items) ∈ known) (inside : itemLists items ⊆ known)
    (fresh : label ∉ before.labels) :
    Measures known before (.visit (.seq label items) :: ·) (lists (.seq label items))
      ((label, compactWidth items) :: middle) := by
  have found : (itemLists items).map Prod.fst ⊆ middle.labels :=
    fun other inner => (measured.holds other).mpr (.inr inner)
  have stillFresh : label ∉ middle.labels := by
    rw [measured.holds]
    exact not_or.mpr ⟨fresh, one.not_inside listed inside⟩
  refine ⟨fun rest => ?_, measured.fits.enter one listed found stillFresh, fun other => ?_⟩
  · rw [measureAll, if_neg (by rwa [← mem_labels_iff]), measured.goes, measureAll,
      measured.fits.listWidth_eq one inside found]
  · rw [labels, List.map_cons, List.mem_cons, lists, List.map_cons, List.mem_cons]
    exact (or_congr_right (measured.holds other)).trans or_left_comm

end

mutual
theorem exists_measures {known : List (Nat × List Labelled)} (one : OneList known) :
    (labelled : Labelled) → labelled.lists ⊆ known → ∀ {before : WidthTable},
      Fits known before → ∃ after, Measures known before (.visit labelled :: ·) labelled.lists after
  | .scalar value noSeq, _, before, fits =>
      ⟨before, fun rest => by rw [measureAll], fits, fun label => by simp [lists]⟩
  | .seq label items, listed, before, fits => by
      have self : (label, items) ∈ known := listed List.mem_cons_self
      have inside : itemLists items ⊆ known :=
        fun _ inner => listed (List.mem_cons_of_mem _ inner)
      by_cases entered : label ∈ before.labels
      · exact ⟨before, measures_entered fits self entered⟩
      · obtain ⟨middle, measured⟩ := exists_measures_items one items inside fits
        exact ⟨_, measured.enter one self inside entered⟩
theorem exists_measures_items {known : List (Nat × List Labelled)} (one : OneList known) :
    (items : List Labelled) → itemLists items ⊆ known → ∀ {before : WidthTable},
      Fits known before → ∃ after, Measures known before (visitAll items) (itemLists items) after
  | [], _, before, fits => ⟨before, fun _ => rfl, fits, fun label => by simp [itemLists]⟩
  | item :: items, listed, before, fits => by
      rw [itemLists, List.append_subset] at listed
      -- The later elements lie above the first one on the stack.
      obtain ⟨middle, later⟩ := exists_measures_items one items listed.2 fits
      obtain ⟨after, first⟩ := exists_measures one item listed.1 later.fits
      refine ⟨after, fun rest => ?_, first.fits, fun label => ?_⟩
      · rw [visitAll, later.goes, first.goes]
      · rw [first.holds, later.holds, itemLists, List.map_append, List.mem_append, or_right_comm,
          or_assoc]
end

theorem fits_widths {labelled : Labelled} (one : OneList labelled.lists) :
    Fits labelled.lists labelled.widths ∧
      ∀ label, label ∈ labelled.widths.labels ↔ label ∈ labelled.lists.map Prod.fst := by
  obtain ⟨after, measured⟩ := exists_measures one labelled (List.Subset.refl _) (fits_nil _)
  have table : labelled.widths = after := by
    rw [Labelled.widths, measured.goes, measureAll]
  rw [table]
  exact ⟨measured.fits, fun label => (measured.holds label).trans (or_iff_right List.not_mem_nil)⟩

theorem mem_widths_iff {labelled : Labelled} (one : OneList labelled.lists) {label width : Nat} :
    (label, width) ∈ labelled.widths ↔
      ∃ items, (label, items) ∈ labelled.lists ∧ width = compactWidth items := by
  obtain ⟨fits, holds⟩ := fits_widths one
  refine ⟨fits.exact, ?_⟩
  rintro ⟨items, listed, rfl⟩
  obtain ⟨⟨_, width⟩, entry, rfl⟩ :=
    List.mem_map.mp ((holds label).mpr (List.mem_map_of_mem listed))
  obtain ⟨others, known, rfl⟩ := fits.exact entry
  rwa [one listed known]

mutual
theorem labelFrom_eq : (value : Sexp) → (next : Nat) →
    (labelFrom next value).1.value = value ∧
      ∃ count, (labelFrom next value).1.lists.map Prod.fst = List.range' next count ∧
        (labelFrom next value).2 = next + count
  | .atom _, _ | .int _, _ | .text _, _ | .foreign _, _ => ⟨rfl, 0, rfl, rfl⟩
  | .seq items, next => by
      obtain ⟨values, count, labels, after⟩ := labelItemsFrom_eq items (next + 1)
      refine ⟨by rw [labelFrom, Labelled.value, values], count + 1, ?_, ?_⟩
      · rw [labelFrom, lists, List.map_cons, labels, List.range'_succ]
      · rw [labelFrom, after]
        omega
theorem labelItemsFrom_eq : (items : List Sexp) → (next : Nat) →
    itemValues (labelItemsFrom next items).1 = items ∧
      ∃ count, (itemLists (labelItemsFrom next items).1).map Prod.fst = List.range' next count ∧
        (labelItemsFrom next items).2 = next + count
  | [], _ => ⟨rfl, 0, rfl, rfl⟩
  | item :: items, next => by
      obtain ⟨value, width, labels, middle⟩ := labelFrom_eq item next
      obtain ⟨values, count, others, after⟩ := labelItemsFrom_eq items (next + width)
      rw [← middle] at values others after
      refine ⟨by rw [labelItemsFrom, itemValues, value, values], width + count, ?_, ?_⟩
      · rw [labelItemsFrom, itemLists, List.map_append, labels, others, middle,
          List.range'_append_1]
      · rw [labelItemsFrom, after, middle, Nat.add_assoc]
end

theorem value_labelled (value : Sexp) : value.labelled.value = value := (labelFrom_eq value 0).1

theorem oneList_labelled (value : Sexp) : OneList value.labelled.lists := by
  obtain ⟨-, count, labels, -⟩ := labelFrom_eq value 0
  have distinct : (value.labelled.lists.map Prod.fst).Nodup := by
    rw [Sexp.labelled, labels]
    exact List.nodup_range'
  intro label first second inFirst inSecond
  exact congrArg Prod.snd (List.inj_on_of_nodup_map distinct inFirst inSecond rfl)

def WidthTable.Covers (table : WidthTable) (labelled : Labelled) : Prop :=
  ∀ {label items}, (label, items) ∈ labelled.lists → table.lookup label = some (compactWidth items)

theorem covers_widths {labelled : Labelled} (one : OneList labelled.lists) :
    labelled.widths.Covers labelled := by
  obtain ⟨fits, holds⟩ := fits_widths one
  exact fun listed =>
    fits.lookup_eq one listed ((holds _).mpr (List.mem_map_of_mem listed))

theorem length_itemValues (items : List Labelled) :
    (itemValues items).length = items.length := by
  induction items with
  | nil => rfl
  | cons item items ih => rw [itemValues, List.length_cons, List.length_cons, ih]

namespace WidthTable.Covers

variable {table : WidthTable} {labelled : Labelled}

/-- With the right widths a list is broken exactly if its compact text does not fit. -/
theorem keepsLine_eq (covers : table.Covers labelled) (options : LayoutOptions) (level : Nat) :
    options.keepsLine table labelled level = options.fitsLine labelled.value level := by
  rw [LayoutOptions.keepsLine, LayoutOptions.fitsLine]
  cases labelled with
  | scalar value noSeq =>
      have noItems : value.items = [] := by
        cases value with
        | seq items => simp [isSeq] at noSeq
        | _ => rfl
      simp [Labelled.items, Labelled.value, noItems]
  | seq label items =>
      rw [Labelled.items, Labelled.value, Sexp.items, length_itemValues, width,
        covers List.mem_cons_self]
      rfl

theorem item {label : Nat} {items : List Labelled} (covers : table.Covers (.seq label items))
    {item : Labelled} (member : item ∈ items) : table.Covers item :=
  fun listed => covers (List.mem_cons_of_mem _ (mem_itemLists member listed))

end WidthTable.Covers

namespace PrettyPiece

/-- The text of one piece of a pretty stack. -/
def text (options : LayoutOptions) : PrettyPiece → String
  | .word ready => ready
  | .value labelled level => laidOut options level labelled.value

/-- Whether a table has the widths of all lists in a piece. -/
def IsCovered (table : WidthTable) : PrettyPiece → Prop
  | .word _ => True
  | .value labelled _ => table.Covers labelled

end PrettyPiece

def prettyText (options : LayoutOptions) : List PrettyPiece → String
  | [] => ""
  | piece :: pieces => piece.text options ++ prettyText options pieces

theorem prettyText_append (options : LayoutOptions) (first second : List PrettyPiece) :
    prettyText options (first ++ second) =
      prettyText options first ++ prettyText options second := by
  induction first with
  | nil => simp [prettyText]
  | cons piece pieces ih => simp [prettyText, ih, String.append_assoc]

theorem prettyText_brokenItems (options : LayoutOptions) (level : Nat) (items : List Labelled) :
    prettyText options (brokenItems (options.lineStart level) level items) =
      laidOutRest options level (itemValues items) := by
  induction items with
  | nil => rfl
  | cons item items ih =>
      simp only [brokenItems, List.flatMap_cons, prettyText_append] at ih ⊢
      rw [ih]
      simp [prettyText, PrettyPiece.text, itemValues, laidOutRest, String.append_assoc]

theorem prettyText_brokenSeq {options : LayoutOptions} {labelled : Labelled} {level : Nat}
    (breaks : ¬ options.fitsLine labelled.value level = true) :
    prettyText options
        (brokenSeq (options.lineStart (level + 1)) (level + 1) labelled.items) =
      laidOut options level labelled.value := by
  cases labelled with
  | scalar value noSeq =>
      refine absurd ?_ breaks
      cases value with
      | seq items => simp [isSeq] at noSeq
      | _ => rfl
  | seq label items =>
      cases items with
      | nil => exact absurd rfl breaks
      | cons item items =>
          rw [Labelled.value, itemValues] at breaks ⊢
          rw [laidOut_of_not_fitsLine breaks]
          simp [Labelled.items, brokenSeq, prettyText, prettyText_append, prettyText_brokenItems,
            PrettyPiece.text, String.append_assoc]

theorem isCovered_brokenSeq {table : WidthTable} {labelled : Labelled}
    (covers : table.Covers labelled) (lineStart : String) (level : Nat) :
    ∀ piece ∈ brokenSeq lineStart level labelled.items, piece.IsCovered table := by
  cases labelled with
  | scalar value noSeq => simp [Labelled.items, brokenSeq, PrettyPiece.IsCovered]
  | seq label items =>
      cases items with
      | nil => simp [Labelled.items, brokenSeq, PrettyPiece.IsCovered]
      | cons item items =>
          have inner {member : Labelled} (isMember : member ∈ item :: items) :
              (PrettyPiece.value member level).IsCovered table := covers.item isMember
          intro piece isPiece
          simp only [Labelled.items, brokenSeq, brokenItems, List.mem_cons, List.mem_append,
            List.mem_flatMap, List.not_mem_nil, or_false] at isPiece
          obtain rfl | rfl | ⟨member, isMember, rfl | rfl⟩ | rfl := isPiece
          · trivial
          · exact inner List.mem_cons_self
          · trivial
          · exact inner (List.mem_cons_of_mem _ isMember)
          · trivial

theorem writePretty_eq (options : LayoutOptions) (table : WidthTable) (out : String)
    (pieces : List PrettyPiece) (covered : ∀ piece ∈ pieces, piece.IsCovered table) :
    writePretty options table out pieces = out ++ prettyText options pieces := by
  induction out, pieces using writePretty.induct options table with
  | case1 out => simp [writePretty, prettyText]
  | case2 out ready rest ih =>
      rw [writePretty, ih fun piece member => covered piece (List.mem_cons_of_mem _ member),
        prettyText, PrettyPiece.text, String.append_assoc]
  | case3 out labelled level rest keeps ih =>
      have covers : table.Covers labelled := covered (.value labelled level) List.mem_cons_self
      have fits : options.fitsLine labelled.value level = true :=
        covers.keepsLine_eq options level ▸ keeps
      rw [writePretty, if_pos keeps,
        ih fun piece member => covered piece (List.mem_cons_of_mem _ member), prettyText,
        PrettyPiece.text, laidOut_of_fitsLine fits, String.append_assoc]
  | case4 out labelled level rest breaks ih =>
      have covers : table.Covers labelled := covered (.value labelled level) List.mem_cons_self
      have tooWide : ¬ options.fitsLine labelled.value level = true :=
        covers.keepsLine_eq options level ▸ breaks
      rw [writePretty, if_neg breaks, ih, prettyText_append, prettyText_brokenSeq tooWide,
        prettyText, PrettyPiece.text]
      intro piece member
      rcases List.mem_append.mp member with broken | later
      · exact isCovered_brokenSeq covers _ _ piece broken
      · exact covered piece (List.mem_cons_of_mem _ later)

theorem pretty_labelled_eq (options : LayoutOptions) {labelled : Labelled}
    (one : OneList labelled.lists) :
    labelled.pretty options = laidOut options 0 labelled.value := by
  rw [Labelled.pretty, writePretty_eq]
  · simp [prettyText, PrettyPiece.text]
  · intro piece member
    obtain rfl := List.mem_singleton.mp member
    exact covers_widths one

theorem pretty_eq_laidOut (options : LayoutOptions) (value : Sexp) :
    value.pretty options = laidOut options 0 value := by
  rw [pretty, pretty_labelled_eq options (oneList_labelled value), value_labelled]

end Sexp

end NodeForms
