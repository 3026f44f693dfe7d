import NodeForms.CommandLine.Run
import NodeForms.Proofs.CommandLine.Reports
import NodeForms.Proofs.CommandLine.Standard
import NodeForms.Proofs.Registry.Selection

/-!
# What a dump delivers

A dump ends with status zero exactly if settings and document are loaded, each name leads to a
type, a method is asked for of a single type, no selected method fails, and the tree can be put out
and announced. The tree goes to the screen or to a file, never to both, and it is delivered with the
types that did not fail even where others did. Nothing is delivered in any other case.

Three things keep a run without a failure from the status zero. An integer of the tree may have more
digits than are converted. The text may have a part that cannot be put out: a surrogate, or what the
screen refuses. And the notice that tells which file was written is marked up, while the name of a
file can hold tags that cannot be followed.
-/

namespace NodeForms

/-- Work comes to a value or to an error of serialization, and the numbers in its diagnostics can be
converted. -/
structure Surroundings.Reports (surroundings : Surroundings) {α : Type} (run : Run α) : Prop where
  failure : ∀ reason, run.result = .error reason → ∃ error, reason = .error error
  numbers : ∀ finding ∈ run.findings,
    exceedsDigits surroundings.digitLimit (integerChars finding.kindNumber) = false

namespace DumpRequest

section

variable (request : DumpRequest) (surroundings : Surroundings) (files : Files)
  (environment : Environment)

/-- Settings and document are loaded and the types are selected. -/
structure Prepares (settings : Settings) (registry : Registry) (types : List HostType) : Prop where
  settings :
    Settings.load surroundings.readYaml files environment request.settingsFile = .ok settings
  document : (Registry.load surroundings.readYaml files request.file).result = .ok registry
  selected : registry.Selects request.types types

/-- No selected method fails: neither a method of a selected type, nor the one that is asked for,
of a single type. -/
def Completes (settings : Settings) (types : List HostType) : Prop :=
  match request.method with
  | none => ∀ type ∈ types, ∀ name ∈ type.methodNames,
      ∃ form, (type.methodForm (request.options settings) name).result = .ok form
  | some name => ∃ type form, types = [type] ∧
      (type.methodForm (request.options settings) name).result = .ok form

/-- Settings and document are loaded, the types are selected, and no selected method fails. -/
def Succeeds : Prop :=
  ∃ settings registry types,
    request.Prepares surroundings files environment settings registry types ∧
      request.Completes settings types

/-- The work on the selected types comes to a tree: the forms of those that do not fail, or the form
of the one method. -/
def ComesTo (settings : Settings) (types : List HostType) (tree : Sexp) : Prop :=
  match request.method with
  | none => tree = .seq
      (types.filterMap fun type => (type.form (request.options settings)).result.toOption)
  | some name => ∃ type, types = [type] ∧
      (type.methodForm (request.options settings) name).result = .ok tree

/-- Some method whose form is in the tree names a surrogate. -/
def NamesSurrogate (settings : Settings) (types : List HostType) : Prop :=
  match request.method with
  | none => ∃ type ∈ types, (∃ form, (type.form (request.options settings)).result = .ok form) ∧
      ∃ name ∈ type.methodNames, type.namesSurrogate (request.options settings) name = true
  | some name => ∃ type, types = [type] ∧
      type.namesSurrogate (request.options settings) name = true

/-- Settings and document are loaded, the types are selected, and the work on them comes to a
tree. -/
def Yields (tree : Sexp) : Prop :=
  ∃ settings registry types,
    request.Prepares surroundings files environment settings registry types ∧
      request.ComesTo settings types tree

/-- The work comes to a tree that has a text, and the text can be put out: no surrogate is named in
it, and the screen shows it if it goes there. -/
def Puts (tree : Sexp) (text : String) : Prop :=
  ∃ settings registry types,
    request.Prepares surroundings files environment settings registry types ∧
      request.ComesTo settings types tree ∧ ¬request.NamesSurrogate settings types ∧
        tree.writeWithin surroundings.digitLimit request.layout = .ok text ∧
          (request.outputFile = none → ∃ shown, surroundings.echo text = .ok shown)

/-- What a dump relies on: the file for the tree can be written, every method comes to a form or to
an error of serialization, and the diagnostics can be shown. -/
structure IsServed : Prop where
  output : request.CanWrite files
  bodies : ∀ settings registry types,
    request.Prepares surroundings files environment settings registry types →
      ∀ type ∈ types, ∀ name,
        surroundings.Reports (type.methodForm (request.options settings) name)
  diagnostics : ∀ settings registry types run,
    request.Prepares surroundings files environment settings registry types →
      request.work? settings types = some run → request.CanShow surroundings run.findings

end

variable {request : DumpRequest} {surroundings : Surroundings} {files : Files}
  {environment : Environment}

theorem Succeeds.exists_yields (succeeds : request.Succeeds surroundings files environment) :
    ∃ tree, request.Yields surroundings files environment tree := by
  obtain ⟨settings, registry, types, prepares, completes⟩ := succeeds
  have comes : ∃ tree, request.ComesTo settings types tree := by
    unfold Completes at completes
    unfold ComesTo
    cases asked : request.method with
    | none => exact ⟨_, rfl⟩
    | some name =>
        rw [asked] at completes
        obtain ⟨type, form, single, formed⟩ := completes
        exact ⟨form, type, single, formed⟩
  obtain ⟨tree, comesTo⟩ := comes
  exact ⟨tree, settings, registry, types, prepares, comesTo⟩

section

variable {options : SerializeOptions} {types : List HostType}

theorem exists_form_iff {type : HostType} :
    (∃ form, (type.form options).result = .ok form) ↔
      ∀ name ∈ type.methodNames, ∃ form, (type.methodForm options name).result = .ok form := by
  have isMethod (name : String) : name ∈ type.sortedMethodNames ↔ name ∈ type.methodNames :=
    (sortedTexts_perm type.methodNames).mem_iff
  rcases type.form_cases options with
    ⟨methods, ok, related, -⟩ | ⟨before, name, after, reason, split, -, fails, failed, -⟩
  · simp only [ok, Except.ok.injEq, exists_eq', true_iff]
    intro name isName
    obtain ⟨form, -, formed⟩ := exists_right_of_forall₂ related ((isMethod name).mpr isName)
    exact ⟨form, formed⟩
  · simp only [failed, reduceCtorEq, exists_false, false_iff]
    intro formed
    obtain ⟨form, ok⟩ := formed name ((isMethod name).mp (split ▸ by simp))
    rw [ok] at fails
    cases fails

theorem exists_dumpTypes (reported : ∀ type ∈ types, ∀ name reason,
      (type.methodForm options name).result = .error reason → ∃ error, reason = .error error) :
    ∃ dump, (dumpTypes options types).result = .ok dump := by
  -- A type fails with an error of serialization if it fails at all, so the others get their turn.
  induction types with
  | nil => exact ⟨{}, rfl⟩
  | cons type types inductionHypothesis =>
      rw [List.forall_mem_cons] at reported
      obtain ⟨rest, later⟩ := inductionHypothesis reported.2
      rw [dumpTypes]
      rcases type.form_cases options with
        ⟨methods, ok, -⟩ | ⟨before, name, after, reason, -, -, fails, failed, -⟩
      · rw [ok]
        exact ⟨_, map_eq_ok.mpr ⟨rest, later, rfl⟩⟩
      · obtain ⟨error, rfl⟩ := reported.1 name reason fails
        rw [failed]
        exact ⟨_, map_eq_ok.mpr ⟨rest, later, rfl⟩⟩

theorem failures_eq_nil_iff {dump : Dump} (collects : dump.Collects options types) :
    dump.failures = [] ↔ ∀ type ∈ types, ∃ form, (type.form options).result = .ok form := by
  induction collects with
  | nothing => simp
  | form ok _ inductionHypothesis => simp [Dump.withForm, ok, inductionHypothesis]
  | failure failed _ _ => simp [Dump.withFailure, failed]

end

section

variable {settings : Settings} {registry : Registry} {types : List HostType}

theorem Prepares.unique
    (prepares : request.Prepares surroundings files environment settings registry types)
    {otherSettings : Settings} {otherRegistry : Registry} {others : List HostType}
    (again : request.Prepares surroundings files environment otherSettings otherRegistry others) :
    settings = otherSettings ∧ types = others := by
  obtain rfl := Except.ok.inj (prepares.settings.symm.trans again.settings)
  obtain rfl := Except.ok.inj (prepares.document.symm.trans again.document)
  exact ⟨rfl, prepares.selected.unique again.selected⟩

theorem exists_prepares_iff :
    (∃ settings registry types,
        request.Prepares surroundings files environment settings registry types) ↔
      (∃ settings, Settings.load surroundings.readYaml files environment request.settingsFile =
        .ok settings) ∧
        ∃ registry, (Registry.load surroundings.readYaml files request.file).result = .ok registry ∧
          ∀ name ∈ request.types, registry.contains name = true := by
  constructor
  · rintro ⟨settings, registry, types, prepares⟩
    exact ⟨⟨settings, prepares.settings⟩, registry, prepares.document,
      Registry.exists_selects_iff.mp ⟨types, prepares.selected⟩⟩
  · rintro ⟨⟨settings, loaded⟩, registry, read, contained⟩
    obtain ⟨types, selected⟩ := Registry.exists_selects_iff.mpr contained
    exact ⟨settings, registry, types, loaded, read, selected⟩

theorem Prepares.isRead
    (prepares : request.Prepares surroundings files environment settings registry types) :
    ∀ type ∈ types, type.IsRead := fun type isSelected =>
  (Registry.isRead_of_load prepares.document).types type (prepares.selected.mem isSelected)

theorem run_of_unprepared (unprepared : ∀ settings registry types,
      ¬request.Prepares surroundings files environment settings registry types) :
    (request.run surroundings files environment).Fails := by
  unfold run
  -- Something fails to load, or else the names lead to no types.
  cases loaded : Settings.load surroundings.readYaml files environment request.settingsFile with
  | error failure =>
      cases failure with
      | error error => apply Exit.fails_failed
      | _ => apply Exit.fails_crashed
  | ok settings =>
      apply Exit.Fails.recordedFrom
      apply Exit.Fails.noting
      cases read : (Registry.load surroundings.readYaml files request.file).result with
      | error fault =>
          cases fault with
          | document error => apply Exit.fails_failed
          | _ => apply Exit.fails_crashed
      | ok registry =>
          simp only [runOn]
          cases selected : registry.selection request.types with
          | error unknown => apply Exit.fails_failed
          | ok types =>
              have prepares :
                  request.Prepares surroundings files environment settings registry types :=
                ⟨loaded, read, Registry.selection_eq_ok_iff.mp selected⟩
              exact absurd prepares (unprepared settings registry types)

/-- Once the types are selected, what is left is what the work on them leaves, apart from log
records. -/
theorem run_of_prepares
    (prepares : request.Prepares surroundings files environment settings registry types) :
    let left := match request.work? settings types with
      | none => surroundings.refused "--method needs exactly one --type"
      | some run => request.finish surroundings files run
    (request.run surroundings files environment).code = left.code ∧
      left.Keeps (request.run surroundings files environment) := by
  have selected := Registry.selection_eq_ok_iff.mpr prepares.selected
  simp only [run, prepares.settings, runWith, prepares.document, runOn, selected]
  cases request.work? settings types <;> exact ⟨rfl, ⟨rfl, rfl⟩⟩

/-- What the work comes to: its tree, which can be written, the failures that are left out, and
whether a surrogate is named. -/
structure IsProduct (request : DumpRequest) (settings : Settings) (types : List HostType)
    (product : Product) : Prop where
  tree : ∀ tree, request.ComesTo settings types tree ↔ tree = product.tree
  writable : product.tree.IsWritable
  failures : product.failures = [] ↔ request.Completes settings types
  surrogate : product.namesSurrogate = true ↔ request.NamesSurrogate settings types

theorem work?_of_none (unasked : request.method = none)
    (served : request.IsServed surroundings files environment)
    (prepares : request.Prepares surroundings files environment settings registry types) :
    ∃ run product, request.work? settings types = some run ∧ run.result = .ok product ∧
      request.IsProduct settings types product := by
  obtain ⟨dump, ok⟩ := exists_dumpTypes fun type isSelected name =>
    (served.bodies settings registry types prepares type isSelected name).failure
  have collects := dumpTypes_collects ok
  refine ⟨_, ⟨dump.tree, dump.failures,
    types.any (HostType.formNamesSurrogate (request.options settings))⟩, by
      simp only [work?, unasked]; rfl, map_eq_ok.mpr ⟨dump, ok, rfl⟩, ?_⟩
  constructor
  case tree =>
    intro tree
    simp only [ComesTo, unasked, Dump.tree, collects.forms_eq]
  case writable =>
    apply Sexp.IsWritable.seq
    rw [collects.forms_eq]
    intro form isForm
    obtain ⟨type, isSelected, isFormed⟩ := List.mem_filterMap.mp isForm
    cases formed : (type.form (request.options settings)).result with
    | error reason =>
        rw [formed] at isFormed
        cases isFormed
    | ok made =>
        rw [formed] at isFormed
        obtain rfl := Option.some.inj isFormed
        exact (prepares.isRead type isSelected).form_isWritable rfl formed
  case failures =>
    simp only [Completes, unasked, failures_eq_nil_iff collects, exists_form_iff]
  case surrogate =>
    simp only [NamesSurrogate, unasked, List.any_eq_true, HostType.formNamesSurrogate,
      Bool.and_eq_true, isOk_iff]

theorem isProduct_of_single {name : String} {type : HostType} {form : Sexp}
    (asked : request.method = some name)
    (prepares : request.Prepares surroundings files environment settings registry [type])
    (formed : (type.methodForm (request.options settings) name).result = .ok form) :
    request.IsProduct settings [type]
      ⟨form, [], type.namesSurrogate (request.options settings) name⟩ where
  tree tree := by simp [ComesTo, asked, formed, eq_comm]
  writable := (prepares.isRead type List.mem_cons_self).methodForm_isWritable rfl formed
  failures := by simp [Completes, asked, formed]
  surrogate := by simp [NamesSurrogate, asked]

end

/-- What a run leaves agrees with whether it succeeds, which tree it comes to, and which text of the
tree can be put out. -/
structure Accounts (request : DumpRequest) (surroundings : Surroundings) (left : Exit)
    (succeeds : Prop) (yields : Sexp → Prop) (puts : Sexp → String → Prop) : Prop where
  status : left.code = 0 ↔
    succeeds ∧ (∃ tree text, puts tree text) ∧ request.IsAnnounced surroundings
  delivered : ∀ tree text, puts tree text → request.Delivers surroundings left text
  withheld : (∀ tree text, ¬puts tree text) → left.Withholds
  untouched : (∀ tree, yields tree → ∀ text,
    tree.writeWithin surroundings.digitLimit request.layout ≠ .ok text) → left.written = none

namespace Accounts

variable {left : Exit} {succeeds : Prop} {yields : Sexp → Prop} {puts : Sexp → String → Prop}

theorem of_fails (fails : left.Fails) (noText : ∀ tree text, ¬puts tree text) :
    request.Accounts surroundings left succeeds yields puts where
  status := by simp [fails.code, noText]
  delivered tree text put := absurd put (noText tree text)
  withheld _ := fails.withholds
  untouched _ := fails.written

theorem of_keeps (accounts : request.Accounts surroundings left succeeds yields puts) {other : Exit}
    (sameCode : other.code = left.code) (keeps : left.Keeps other) :
    request.Accounts surroundings other succeeds yields puts where
  status := sameCode ▸ accounts.status
  delivered tree text put := (accounts.delivered tree text put).of_keeps keeps
  withheld noText := (accounts.withheld noText).of_keeps keeps
  untouched noText := keeps.written.trans (accounts.untouched noText)

/-- The work comes to one tree, and succeeds if it leaves out no type. -/
theorem finish {run : Run Product} {product : Product} (writable : request.CanWrite files)
    (ok : run.result = .ok product) (shows : request.CanShow surroundings run.findings)
    (clean : product.failures = [] ↔ succeeds) (yielded : yields product.tree)
    (isPut : ∀ tree text, puts tree text ↔ tree = product.tree ∧
      tree.writeWithin surroundings.digitLimit request.layout = .ok text ∧
        request.CanDeliver surroundings text product.namesSurrogate) :
    request.Accounts surroundings (request.finish surroundings files run) succeeds yields
      puts := by
  cases written : product.tree.writeWithin surroundings.digitLimit request.layout with
  | error fault =>
      apply of_fails (fails_finish_of_unwritten ok written)
      rintro tree text put
      obtain ⟨rfl, isText, -⟩ := (isPut tree text).mp put
      rw [written] at isText
      cases isText
  | ok text =>
      have put_iff (tree : Sexp) (other : String) : puts tree other ↔ tree = product.tree ∧
          other = text ∧ request.CanDeliver surroundings text product.namesSurrogate := by
        rw [isPut]
        constructor
        · rintro ⟨rfl, isText, can⟩
          obtain rfl := Except.ok.inj (written.symm.trans isText)
          exact ⟨rfl, rfl, can⟩
        · rintro ⟨rfl, rfl, can⟩
          exact ⟨rfl, written, can⟩
      have keeps : (request.deliver surroundings files text product.namesSurrogate).Keeps
          (request.finish surroundings files run) := deliver_keeps_finish ok written
      constructor
      case status =>
        rw [finish_code_eq_zero_iff ok written writable shows, clean]
        simp [put_iff]
      case delivered =>
        rintro tree other put
        obtain ⟨-, rfl, can⟩ := (put_iff tree other).mp put
        exact (delivers_deliver writable can).of_keeps keeps
      case withheld =>
        intro noText
        refine (withholds_deliver writable fun can => ?_).of_keeps keeps
        exact noText product.tree text ((put_iff _ _).mpr ⟨rfl, rfl, can⟩)
      case untouched => exact fun noText => absurd written (noText product.tree yielded text)

end Accounts

/-- What a run leaves agrees with what the request comes to. -/
def Answers (request : DumpRequest) (surroundings : Surroundings) (files : Files)
    (environment : Environment) (left : Exit) : Prop :=
  request.Accounts surroundings left (request.Succeeds surroundings files environment)
    (request.Yields surroundings files environment) (request.Puts surroundings files environment)

section

variable {settings : Settings} {registry : Registry} {types : List HostType}

theorem Prepares.succeeds_iff
    (prepares : request.Prepares surroundings files environment settings registry types) :
    request.Succeeds surroundings files environment ↔ request.Completes settings types := by
  constructor
  · rintro ⟨otherSettings, otherRegistry, others, again, completes⟩
    obtain ⟨rfl, rfl⟩ := prepares.unique again
    exact completes
  · exact fun completes => ⟨settings, registry, types, prepares, completes⟩

theorem Prepares.yields_iff
    (prepares : request.Prepares surroundings files environment settings registry types) {tree : Sexp} :
    request.Yields surroundings files environment tree ↔ request.ComesTo settings types tree := by
  constructor
  · rintro ⟨otherSettings, otherRegistry, others, again, comesTo⟩
    obtain ⟨rfl, rfl⟩ := prepares.unique again
    exact comesTo
  · exact fun comesTo => ⟨settings, registry, types, prepares, comesTo⟩

theorem Prepares.puts_iff
    (prepares : request.Prepares surroundings files environment settings registry types)
    {tree : Sexp} {text : String} :
    request.Puts surroundings files environment tree text ↔
      request.ComesTo settings types tree ∧ ¬request.NamesSurrogate settings types ∧
        tree.writeWithin surroundings.digitLimit request.layout = .ok text ∧
          (request.outputFile = none → ∃ shown, surroundings.echo text = .ok shown) := by
  constructor
  · rintro ⟨otherSettings, otherRegistry, others, again, puts⟩
    obtain ⟨rfl, rfl⟩ := prepares.unique again
    exact puts
  · exact fun puts => ⟨settings, registry, types, prepares, puts⟩

theorem accounts_of_product
    (served : request.IsServed surroundings files environment)
    (prepares : request.Prepares surroundings files environment settings registry types)
    {run : Run Product} {product : Product} (works : request.work? settings types = some run)
    (ok : run.result = .ok product) (isProduct : request.IsProduct settings types product) :
    request.Answers surroundings files environment
      (request.run surroundings files environment) := by
  obtain ⟨sameCode, keeps⟩ := run_of_prepares prepares
  simp only [works] at sameCode keeps
  apply Accounts.of_keeps _ sameCode keeps
  apply Accounts.finish served.output ok
  · exact served.diagnostics settings registry types run prepares works
  · rw [prepares.succeeds_iff, isProduct.failures]
  · rw [prepares.yields_iff, isProduct.tree]
  · intro tree text
    rw [prepares.puts_iff, isProduct.tree, ← isProduct.surrogate, Bool.not_eq_true]
    constructor
    · exact fun ⟨isTree, encoded, isText, shown⟩ => ⟨isTree, isText, encoded, shown⟩
    · exact fun ⟨isTree, isText, encoded, shown⟩ => ⟨isTree, encoded, isText, shown⟩

theorem accounts_of_fails
    (prepares : request.Prepares surroundings files environment settings registry types)
    {left : Exit} (fails : left.Fails) (noTree : ∀ tree, ¬request.ComesTo settings types tree) :
    request.Answers surroundings files environment left := by
  apply Accounts.of_fails fails
  intro tree text put
  exact noTree tree (prepares.puts_iff.mp put).1

theorem accounts_of_single {name : String} {type : HostType} (asked : request.method = some name)
    (served : request.IsServed surroundings files environment)
    (prepares : request.Prepares surroundings files environment settings registry [type]) :
    request.Answers surroundings files environment
      (request.run surroundings files environment) := by
  have works : request.work? settings [type] = some
      ((type.methodForm (request.options settings) name).map fun form =>
        ⟨form, [], type.namesSurrogate (request.options settings) name⟩) := by
    simp only [work?, asked]
  cases formed : (type.methodForm (request.options settings) name).result with
  | error reason =>
      obtain ⟨sameCode, keeps⟩ := run_of_prepares prepares
      simp only [works] at sameCode keeps
      apply Accounts.of_keeps _ sameCode keeps
      apply accounts_of_fails prepares (fails_finish (map_eq_error.mpr formed))
      simp [ComesTo, asked, formed]
  | ok form =>
      exact accounts_of_product served prepares works (map_eq_ok.mpr ⟨form, formed, rfl⟩)
        (isProduct_of_single asked prepares formed)

theorem accounts_of_not_single {name : String} (asked : request.method = some name)
    (notSingle : ∀ type, types ≠ [type])
    (prepares : request.Prepares surroundings files environment settings registry types) :
    request.Answers surroundings files environment
      (request.run surroundings files environment) := by
  obtain ⟨sameCode, keeps⟩ := run_of_prepares prepares
  have idle : request.work? settings types = none := by
    unfold work?
    split
    case h_1 unasked => simp [asked] at unasked
    case h_2 => exact absurd rfl (notSingle _)
    case h_3 => rfl
  simp only [idle] at sameCode keeps
  apply Accounts.of_keeps _ sameCode keeps
  apply accounts_of_fails prepares (Exit.fails_failed _)
  simp [ComesTo, asked, notSingle]

end

theorem run_answers (served : request.IsServed surroundings files environment) :
    request.Answers surroundings files environment
      (request.run surroundings files environment) := by
  -- The cases follow the run: nothing to work on, all methods, one method of a single type, or of
  -- another number of types.
  by_cases prepared : ∃ settings registry types,
      request.Prepares surroundings files environment settings registry types
  · obtain ⟨settings, registry, types, prepares⟩ := prepared
    cases asked : request.method with
    | none =>
        obtain ⟨run, product, works, ok, isProduct⟩ := work?_of_none asked served prepares
        exact accounts_of_product served prepares works ok isProduct
    | some name =>
        by_cases single : ∃ type, types = [type]
        · obtain ⟨type, rfl⟩ := single
          exact accounts_of_single asked served prepares
        · exact accounts_of_not_single asked (not_exists.mp single) prepares
  · simp only [not_exists] at prepared
    apply Accounts.of_fails (run_of_unprepared prepared)
    rintro tree text ⟨settings, registry, types, prepares, -⟩
    exact prepared settings registry types prepares

theorem Yields.writeWithin_iff (served : request.IsServed surroundings files environment)
    {tree : Sexp} (yields : request.Yields surroundings files environment tree) :
    (∃ text, tree.writeWithin surroundings.digitLimit request.layout = .ok text) ↔
      tree.IntegersFit surroundings.digitLimit := by
  have isWritable : tree.IsWritable := by
    obtain ⟨settings, registry, types, prepares, comesTo⟩ := yields
    cases asked : request.method with
    | none =>
        obtain ⟨-, product, -, -, isProduct⟩ := work?_of_none asked served prepares
        rw [(isProduct.tree tree).mp comesTo]
        exact isProduct.writable
    | some name =>
        have single := comesTo
        simp only [ComesTo, asked] at single
        obtain ⟨type, rfl, formed⟩ := single
        exact (isProduct_of_single asked prepares formed).writable
  have written := isWritable.isClear.writeWithin_eq surroundings.digitLimit request.layout
  constructor
  · rintro ⟨text, isText⟩
    by_contra tooMany
    rw [written.2 tooMany] at isText
    cases isText
  · exact fun fits => ⟨_, written.1 fits⟩

theorem form_of_methods_eq_nil {type : HostType} (empty : type.methods = [])
    (options : SerializeOptions) : type.form options = Run.done (.seq type.header) := by
  simp [HostType.form, HostType.sortedMethodNames, HostType.methodNames, empty, sortedTexts,
    Run.each, Run.map, Run.done, Except.map]

theorem served_of_methods_eq_nil {settings : Settings} {registry : Registry}
    (prepares :
      request.Prepares surroundings files environment settings registry registry.types)
    (unasked : request.method = none) (empty : ∀ type ∈ registry.types, type.methods = [])
    (writable : request.CanWrite files) :
    request.IsServed surroundings files environment ∧
      request.Completes settings registry.types ∧
        ¬request.NamesSurrogate settings registry.types := by
  have reports (options : SerializeOptions) : ∀ type ∈ registry.types, ∀ name,
      surroundings.Reports (type.methodForm options name) := by
    intro type isSelected name
    constructor <;> simp [HostType.methodForm, HostType.method?, empty type isSelected, Run.noting,
      Run.done]
  refine ⟨⟨writable, ?bodies, ?diagnostics⟩, ?completes, ?encoded⟩
  case bodies =>
    intro otherSettings otherRegistry types again
    obtain ⟨-, rfl⟩ := prepares.unique again
    exact reports _
  case diagnostics =>
    intro otherSettings otherRegistry types run again works
    obtain ⟨-, rfl⟩ := prepares.unique again
    obtain ⟨dump, ok⟩ := exists_dumpTypes fun type isSelected name =>
      (reports (request.options otherSettings) type isSelected name).failure
    simp only [work?, unasked, Option.some.injEq] at works
    left
    rw [← works, Run.map, findings_dumpTypes ok, List.flatMap_eq_nil_iff]
    intro type isSelected
    rw [form_of_methods_eq_nil (empty type isSelected)]
    rfl
  case completes =>
    simp only [Completes, unasked]
    intro type isSelected name isName
    rw [HostType.methodNames, empty type isSelected] at isName
    cases isName
  case encoded =>
    simp only [NamesSurrogate, unasked]
    rintro ⟨type, isSelected, -, name, isName, -⟩
    rw [HostType.methodNames, empty type isSelected] at isName
    cases isName

def pairFiles : Files := Files.ofList
  [("d.yaml", .file "types:\n- name: A\n- name: B\n  module: true\n".toUTF8), ("[", .directory)]

def pairRequest (path : String) : DumpRequest := { file := "d.yaml", output := some path }

def pairTree : Sexp :=
  .seq [.seq [.atom "class", .atom "A", .nil], .seq [.atom "module", .atom "B"]]

theorem outputFile_pairRequest {path other : String}
    (named : (pairRequest path).outputFile = some other) : path = other :=
  (Option.filter_eq_some_iff.mp named).1 |> Option.some.inj

theorem pairRequest_served {path : String} (isPath : path ≠ "")
    (writable : ∃ place, pairFiles.target path = .ok place) :
    (pairRequest path).IsServed .standard pairFiles [] ∧
      (pairRequest path).Succeeds .standard pairFiles [] ∧
        (pairRequest path).Puts .standard pairFiles [] pairTree "((class A nil) (module B))" := by
  obtain ⟨settings, loaded, -⟩ : ∃ settings,
      Settings.load Yaml.read pairFiles [] none = .ok settings ∧
        decide (settings.limit = none) = true := exists_of_toOption (by decide +kernel)
  obtain ⟨registry, read, isPair⟩ : ∃ registry,
      (Registry.load Yaml.read pairFiles "d.yaml").result = .ok registry ∧
        (registry.types.all (fun type => type.methods.isEmpty) &&
          decide (registry.types.map HostType.header =
            [[.atom "class", .atom "A", .nil], [.atom "module", .atom "B"]])) = true :=
    exists_of_toOption (by decide +kernel)
  simp only [Bool.and_eq_true, List.all_eq_true, List.isEmpty_iff, decide_eq_true_eq] at isPair
  obtain ⟨empty, headers⟩ := isPair
  have prepares :
      (pairRequest path).Prepares .standard pairFiles [] settings registry registry.types := by
    constructor
    · exact loaded
    · exact read
    · exact Registry.selects_nil
  have canWrite : (pairRequest path).CanWrite pairFiles := by
    intro other named
    obtain rfl := outputFile_pairRequest named
    exact writable
  obtain ⟨served, completes, encoded⟩ := served_of_methods_eq_nil prepares rfl empty canWrite
  refine ⟨served, ⟨_, _, _, prepares, completes⟩, _, _, _, prepares, ?tree, encoded, ?text, ?shown⟩
  case tree =>
    have forms : registry.types.filterMap (fun type =>
        (type.form ((pairRequest path).options settings)).result.toOption) =
          (registry.types.map HostType.header).map Sexp.seq := by
      rw [List.map_map, ← List.filterMap_eq_map]
      apply List.filterMap_congr
      intro type isType
      rw [form_of_methods_eq_nil (empty type isType)]
      rfl
    simp only [ComesTo, pairRequest]
    rw [pairRequest] at forms
    rw [forms, headers]
    rfl
  case text =>
    have isText : pairTree.writeWithin (some 4300) none = .ok "((class A nil) (module B))" := by
      decide +kernel
    exact isText
  case shown =>
    intro unnamed
    simp [outputFile, pairRequest, isPath] at unnamed

end DumpRequest

end NodeForms
