import SearchFilter.CommandLine
import SearchFilter.Proofs.ConditionTree.Contents
import SearchFilter.Proofs.ConditionTree.Placeholders
import SearchFilter.Proofs.Json.Nulls
/-!
# The binds that are printed

A report has a value for every question mark of its template, and none of the values is lost on the way to the output. Null is what a value would be lost to, because that is how numbers are written that JSON has no form for. No such number gets into the parameters, coercion makes none, and what is bound is never null itself. So nothing in the printed values is null, at any depth.
-/

namespace SearchFilter

namespace CommandLine

open Json (Leaf NullFree)

variable {v : Value} {values : List Value} {document : Json} {documents : List Json}

/-! ### Values -/

theorem forall₂_of_bindsJson (h : bindsJson values = .ok documents) :
    List.Forall₂ (fun v document => bindJson v = .ok document) values documents := by
  induction values generalizing documents with
  | nil =>
    rw [bindsJson] at h
    cases h
    exact .nil
  | cons v values ih =>
    rw [bindsJson] at h
    obtain ⟨document, hdocument, h⟩ := Outcome.bind_eq_ok_iff.mp h
    obtain ⟨rest, hrest, h⟩ := Outcome.bind_eq_ok_iff.mp h
    cases h
    exact .cons hdocument (ih hrest)

theorem nullFree_of_scalar (hscalar : v.isScalar = true) (hfinite : v.FloatsFinite)
    (h : bindJson v = .ok document) : document.NullFree := by
  cases v with
  | null | array items => cases hscalar
  | bool b =>
    cases h
    exact (Json.nullFree_leaf_iff (.bool b)).mpr id
  | integer i =>
    cases h
    exact (Json.nullFree_leaf_iff (.number _)).mpr id
  | float x =>
    have hx : x.isFinite = true := hfinite x .self
    rw [bindJson, if_pos hx] at h
    cases h
    refine (Json.nullFree_leaf_iff (.number _)).mpr fun hnull => ?_
    cases hx.symm.trans hnull
  | string s =>
    cases h
    exact (Json.nullFree_leaf_iff (.string s)).mpr id
  | timestamp t =>
    obtain ⟨s, _, rfl⟩ := Outcome.map_eq_ok_iff.mp h
    exact (Json.nullFree_leaf_iff (.string s)).mpr id

theorem nullFree_of_bindsJson (hvalues : ∀ v ∈ values, ∀ document, bindJson v = .ok document →
    document.NullFree) (h : bindsJson values = .ok documents) : (Json.array documents).NullFree := by
  refine Json.nullFree_array_iff.mpr fun document hmem => ?_
  obtain ⟨v, hv, hdocument⟩ := Params.exists_left_of_mem (forall₂_of_bindsJson h) hmem
  exact hvalues v hv document hdocument

theorem nullFree_of_bindJson (hflat : v.IsFlat) (hfinite : v.FloatsFinite)
    (h : bindJson v = .ok document) : document.NullFree := by
  cases hflat with
  | scalar hscalar => exact nullFree_of_scalar hscalar hfinite h
  | list hscalar =>
    rw [bindJson] at h
    obtain ⟨documents, hdocuments, rfl⟩ := Outcome.map_eq_ok_iff.mp h
    refine nullFree_of_bindsJson (fun item hitem document hdocument => ?_) hdocuments
    exact nullFree_of_scalar (hscalar item hitem) (Value.floatsFinite_array_iff.mp hfinite item hitem)
      hdocument

/-! ### Trees -/

variable {tree : ConditionTree}

structure FilterReport where
  binds : List Json
  entity : Json
  includes : Json
  scope : Json
  template : String

def FilterReport.toJson (report : FilterReport) : Json :=
  .object
    [("binds", .array report.binds), ("entity", report.entity), ("includes", report.includes),
      ("scope", report.scope), ("template", .string report.template)]

theorem exists_filterReport (h : filterReport tree = .ok document) :
    ∃ report : FilterReport, document = report.toJson ∧
      bindsJson tree.compile.binds = .ok report.binds ∧ report.template = tree.compile.template := by
  obtain ⟨binds, hbinds, h⟩ := Outcome.bind_eq_ok_iff.mp h
  cases h
  exact ⟨⟨binds, _, _, _, _⟩, rfl, hbinds, rfl⟩

theorem orFail_eq_ok_iff {ε α : Type} {failure : ε → Failure} {x : Except ε α} {a : α} :
    orFail failure x = .ok a ↔ x = .ok a := by
  cases x with
  | ok | error => simp [orFail]

/-- A tree that the command compiles: it was made for a schema, and parameters were applied that were read from text. -/
structure Prepared (catalog : Catalog) (tree : ConditionTree) : Prop where
  built : ∃ (schema : Schema) (policies : List PolicyLists),
    Catalog.build .standard schema.source policies = .ok catalog
  applied : ∃ entity isProtected start text params,
    ConditionTree.forEntity catalog entity isProtected = .ok start ∧
    Params.ofText text = .ok params ∧ start.apply catalog params = .ok tree

theorem exists_prepared {arguments : Arguments} {file input : Except ReadError String}
    (hnames : arguments.names = false) (h : arguments.report file input = .ok document) :
    ∃ catalog tree, Prepared catalog tree ∧ filterReport tree = .ok document := by
  unfold Arguments.report at h
  rw [hnames] at h
  obtain ⟨source, _, h⟩ := Outcome.bind_eq_ok_iff.mp h
  obtain ⟨catalog, hcatalog, h⟩ := Outcome.bind_eq_ok_iff.mp h
  obtain ⟨start, hstart, h⟩ := Outcome.bind_eq_ok_iff.mp h
  obtain ⟨text, _, h⟩ := Outcome.bind_eq_ok_iff.mp h
  obtain ⟨params, hparams, h⟩ := Outcome.bind_eq_ok_iff.mp h
  obtain ⟨tree, htree, h⟩ := Outcome.bind_eq_ok_iff.mp h
  rw [orFail_eq_ok_iff] at hcatalog hstart hparams htree h
  obtain ⟨schema, _, hbuild⟩ := Outcome.bind_eq_ok_iff.mp hcatalog
  exact ⟨catalog, tree, ⟨⟨schema, _, hbuild⟩, ⟨_, _, start, text, params, hstart, hparams, htree⟩⟩, h⟩

section Prepared

variable {catalog : Catalog} (h : Prepared catalog tree)

include h

theorem Prepared.consistent : ConditionTree.Everywhere (ConditionTree.Consistent catalog) tree := by
  obtain ⟨entity, isProtected, start, text, params, hstart, hparams, htree⟩ := h.applied
  exact ((ConditionTree.Reachable.start hstart).run (.apply params) htree).consistent

theorem Prepared.balanced : tree.compile.Balanced := by
  obtain ⟨schema, policies, hbuild⟩ := h.built
  exact ConditionTree.balanced_compile h.consistent
    { built := Catalog.built_of_build hbuild
      plain := ⟨fun _ hkind => .inl hkind, fun _ hmodifier => .inl hmodifier⟩
      quote := fun _ hs => Identifier.quote_mark_free hs }

theorem Prepared.isFlat : ∀ bind ∈ tree.compile.binds, bind.IsFlat := by
  obtain ⟨schema, policies, hbuild⟩ := h.built
  refine ConditionTree.binds_induction (h.consistent.imp fun node hnode key v hmem bind hbind => ?_)
  exact (hnode.bindsTyped (Catalog.built_of_build hbuild) hmem).isFlat hbind

theorem Prepared.floatsFinite : ∀ bind ∈ tree.compile.binds, bind.FloatsFinite := by
  obtain ⟨entity, isProtected, start, text, params, hstart, hparams, htree⟩ := h.applied
  obtain ⟨vocabulary, _, hfresh⟩ := Outcome.bind_eq_ok_iff.mp hstart
  cases hfresh
  exact ConditionTree.floatsFinite_of_apply (Params.floatsFinite_of_ofText hparams)
    (ConditionTree.everywhere_fresh fun _ _ hmem => absurd hmem List.not_mem_nil) htree

end Prepared

/-! ### Output -/

theorem Arguments.exists_report {arguments : Arguments} {file input : Except ReadError String}
    (h : (arguments.run file input).code = 0) :
    ∃ document, arguments.report file input = .ok document ∧
      (arguments.run file input).stdout =
        (if arguments.pretty then document.pretty else document.compact) ++ "\n" := by
  unfold Arguments.run at h ⊢
  cases hreport : arguments.report file input with
  | ok document => exact ⟨document, rfl, rfl⟩
  | error failure =>
    rw [hreport] at h
    cases h

/-- Where the command compiles a filter, it prints as many binds as the template has question marks, and no null in them. -/
theorem Arguments.run_binds (arguments : Arguments) (file input : Except ReadError String)
    (hnames : arguments.names = false) (h : (arguments.run file input).code = 0) :
    ∃ report : FilterReport,
      (arguments.run file input).stdout =
        (if arguments.pretty then report.toJson.pretty else report.toJson.compact) ++ "\n" ∧
      report.binds.length = report.template.toList.count '?' ∧ (Json.array report.binds).NullFree := by
  obtain ⟨document, hdocument, hstdout⟩ := Arguments.exists_report h
  obtain ⟨catalog, tree, hprepared, hfilter⟩ := exists_prepared hnames hdocument
  obtain ⟨report, rfl, hbinds, htemplate⟩ := exists_filterReport hfilter
  refine ⟨report, hstdout, ?_, ?_⟩
  · calc report.binds.length
      _ = tree.compile.binds.length := (forall₂_of_bindsJson hbinds).length_eq.symm
      _ = tree.compile.template.toList.count '?' := hprepared.balanced.symm
      _ = report.template.toList.count '?' := by rw [htemplate]
  · refine nullFree_of_bindsJson (fun v hv document hdocument => ?_) hbinds
    exact nullFree_of_bindJson (hprepared.isFlat v hv) (hprepared.floatsFinite v hv) hdocument

def gaugeSource : String :=
  "\n".intercalate
    ["[[entity]]", "name = \"Gauge\"", "[[entity.column]]", "name = \"level\"", "type = \"float\""]

def gaugeArguments : Arguments where
  schema := "gauge.toml"
  entity := "Gauge"
  params := "\x7b\"level_between\": [\" 5e-1\", 70], \"level_in\": [-0.0]\x7d"
  isProtected := true
  names := false
  pretty := false

def gaugeOutput : String :=
  "\x7b\"binds\":[0.5,70.0,[-0.0]],\"entity\":\"Gauge\",\"includes\":[],\"scope\":null," ++
    "\"template\":\"(\\\"gauges\\\".\\\"level\\\" BETWEEN ? AND ?)" ++
    " AND (\\\"gauges\\\".\\\"level\\\" IN (?))\"\x7d\n"

/-- A range, with a text and a whole number for its bounds, and a set. -/
theorem Arguments.run_binds_gauge :
    gaugeArguments.run (.ok gaugeSource) (.ok "") = ⟨0, gaugeOutput, ""⟩ ∧
    ∃ report : FilterReport, gaugeOutput = report.toJson.compact ++ "\n" ∧
      report.binds.length = report.template.toList.count '?' ∧ (Json.array report.binds).NullFree := by
  have houtcome : gaugeArguments.run (.ok gaugeSource) (.ok "") = ⟨0, gaugeOutput, ""⟩ := by
    decide +kernel
  have hprinted := Arguments.run_binds gaugeArguments (.ok gaugeSource) (.ok "") rfl
    (by rw [houtcome])
  rw [houtcome] at hprinted
  exact ⟨houtcome, hprinted⟩

end CommandLine

end SearchFilter
