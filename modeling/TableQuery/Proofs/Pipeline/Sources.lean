import TableQuery.Proofs.Declarative.Spans
import TableQuery.Proofs.Pipeline.Compilation
import TableQuery.Proofs.Pipeline.Declarative
import TableQuery.Report

/-!
# Sources of faults

A fault knows a source text just if it points into one. Parameters are no text, and the faults of a
text point at whole characters of it, so that a report shows them where they are.
-/

namespace TableQuery

open Outcome

/-!
## Reports
-/

theorem Span.LiesIn.shownRange {text : String} {span : Span} (h : span.LiesIn text) :
    Report.shownRange text.utf8ByteSize span = (span.offset, span.stop) := by
  have hoffset : span.offset ≤ text.utf8ByteSize := h.offset.le_utf8ByteSize
  have hstop : span.stop ≤ text.utf8ByteSize := h.stop.le_utf8ByteSize
  simp only [Report.shownRange, Nat.min_eq_left hoffset, Nat.min_eq_left hstop,
    Nat.max_eq_left span.offset_le_stop]

/-!
## Faults without a text

Planning and rendering know of no text. Their faults point at a span that the query came with, or at
none.
-/

structure Fault.Unsourced (p : Span → Prop) (fault : Fault) : Prop where
  source : fault.source = none
  span : ∀ span, fault.span = some span → p span

variable {p : Span → Prop}

theorem Fault.Points.unsourced {fault : Fault} (h : fault.Points p) : fault.Unsourced p := by
  cases h with
  | located cause h =>
      constructor
      · rfl
      · intro span hspan
        cases hspan
        exact h

theorem Sql.IsUnplaced.unsourced {fault : Fault} (h : IsUnplaced fault) : fault.Unsourced p := by
  constructor
  · exact h.source
  · intro span hspan
    rw [h.span] at hspan
    cases hspan

theorem Catalog.failsIn_entity (catalog : Catalog) (name : String) {span : Option Span}
    (hspan : ∀ found, span = some found → p found) :
    FailsIn (Fault.Unsourced p) (catalog.entity name span) := by
  unfold Catalog.entity
  split
  · exact FailsIn.error ⟨rfl, hspan⟩
  · split
    · exact FailsIn.error ⟨rfl, hspan⟩
    · exact FailsIn.ok _

theorem Criterion.failsIn_checked (criterion : Criterion) :
    FailsIn (Fault.Unsourced p) criterion.checked := by
  apply FailsIn.map
  intro fault hfault
  exact (Sql.failsIn_check _ _ _ fault hfault).toIsUnplaced.unsourced

theorem Catalog.failsIn_planRest (catalog : Catalog) (query : Rest.Query) (entity : String) :
    FailsIn (Fault.Unsourced p) (catalog.planRest query entity) := by
  have hnowhere : ∀ found, (none : Option Span) = some found → p found := by
    intro found hfound
    cases hfound
  apply FailsIn.bind (catalog.failsIn_entity entity hnowhere)
  intro found
  apply FailsIn.bind (FailsIn.mapM (fun filter => filter.criterion.failsIn_checked) query.filters)
  intro filters
  exact FailsIn.ok _

namespace Declarative

theorem failsIn_ofValue_scalar {value : Value} (h : value.Within p) (field : String) :
    FailsIn (Fault.Unsourced p) (Scalar.ofValue field value) := by
  cases h with
  | list h hitems => exact FailsIn.error (Fault.Points.located _ h).unsourced
  | object h hkeys hvalues => exact FailsIn.error (Fault.Points.located _ h).unsourced
  | _ => exact FailsIn.ok _

theorem Filter.failsIn_criterion {filter : Filter} (h : filter.value.Within p) :
    FailsIn (Fault.Unsourced p) filter.criterion := by
  apply FailsIn.bind (failsIn_ofValue_scalar h filter.field)
  intro value
  exact Criterion.failsIn_checked _

theorem Query.failsIn_plan {query : Query} (h : query.Within p) (entity : Entity) :
    FailsIn (Fault.Unsourced p) (query.plan entity) := by
  intro fault hfault
  rcases bind_eq_error.mp hfault with hfilters | ⟨filters, _, hplan⟩
  · rcases exists_of_mapM_eq_error hfilters with ⟨filter, hfilter, hcriterion⟩
    exact Filter.failsIn_criterion (h.filters filter hfilter) fault hcriterion
  · cases hplan

end Declarative

theorem Catalog.failsIn_planDeclarative (catalog : Catalog) {query : Declarative.Query}
    (h : query.Within p) : FailsIn (Fault.Unsourced p) (catalog.planDeclarative query) := by
  have hresource : ∀ found, some query.resource.span = some found → p found := by
    intro found hfound
    cases hfound
    exact h.resource
  apply FailsIn.bind (catalog.failsIn_entity _ hresource)
  intro entity
  exact Declarative.Query.failsIn_plan h entity

/-!
## Faults of a text
-/

/-- A fault points at a span of a text and knows the text, or it points nowhere and knows none. -/
inductive Fault.Sourced (text : String) : Fault → Prop where
  | placed (cause : Cause) {span : Span} (h : span.LiesIn text) :
    Sourced text { cause, span := some span, source := some (Declarative.Query.source text) }
  | unplaced (cause : Cause) : Sourced text { cause }

theorem Fault.Points.sourced {text : String} {fault : Fault} (h : fault.Points (Span.LiesIn text)) :
    (fault.attach (Declarative.Query.source text)).Sourced text := by
  cases h with
  | located cause h => exact .placed cause h

theorem Fault.Unsourced.sourced {text : String} {fault : Fault}
    (h : fault.Unsourced (Span.LiesIn text)) :
    ((Input.declarative text).attachTo fault).Sourced text := by
  obtain ⟨cause, span, source⟩ := fault
  cases h.source
  cases span with
  | none => exact .unplaced cause
  | some span => exact .placed cause (h.span span rfl)

theorem Declarative.Query.ends_ofText (text : String) :
    Ends (Fault.Sourced text) (Query.Within (Span.LiesIn text)) (Query.ofText text) := by
  have hread : Ends (Fault.Points (Span.LiesIn text)) (Query.Within (Span.LiesIn text))
      (Document.ofText text >>= ofDocument) := by
    apply (Document.ends_ofText text).bind
    intro document hdocument
    exact ends_ofDocument hdocument
  apply hread.mapError
  intro fault hfault
  exact hfault.sourced

namespace Pipeline

theorem failsIn_compile_rest (catalog : Catalog) (entity : String)
    (parameters : OrderedMap String (Option String)) :
    FailsIn (Fault.Unsourced p) (compile ⟨.standard, catalog⟩ (.rest entity parameters)) := by
  intro fault hfault
  rcases compile_eq_error hfault with hread | ⟨model, hmodel, hplan | ⟨plan, _, hrender⟩⟩
  · cases hread
  · rw [read_rest] at hmodel
    cases hmodel
    rw [plan_rest] at hplan
    exact catalog.failsIn_planRest _ _ fault hplan
  · rw [renderPlan_rest] at hrender
    exact (Sql.failsIn_renderPlan _ _ fault hrender).unsourced

theorem failsIn_compile_declarative (catalog : Catalog) (text : String) :
    FailsIn (Fault.Sourced text) (compile ⟨.standard, catalog⟩ (.declarative text)) := by
  have hends := Declarative.Query.ends_ofText text
  intro fault hfault
  rcases compile_eq_error hfault with hread | ⟨model, hmodel, hplan | ⟨plan, _, hrender⟩⟩
  · rw [read_declarative] at hread
    exact hends.failsIn fault (map_eq_error.mp hread)
  · rw [read_declarative] at hmodel
    rcases map_eq_ok.mp hmodel with ⟨query, hquery, rfl⟩
    rcases mapError_eq_error.mp hplan with ⟨cause, hcause, rfl⟩
    exact (catalog.failsIn_planDeclarative (hends.of_eq_ok hquery) cause hcause).sourced
  · rcases mapError_eq_error.mp hrender with ⟨cause, hcause, rfl⟩
    exact (Sql.failsIn_renderPlan _ _ cause hcause).unsourced.sourced

/-- A fault of compiling knows a source text just if it points at a span. With parameters it has
neither. With a text the source is the text, and the span starts and stops between two characters of
it, so that it is shown as it is. -/
theorem compile_source_iff_span (catalog : Catalog) (input : Input) (fault : Fault)
    (h : compile ⟨.standard, catalog⟩ input = .error fault) :
    (fault.source.isSome ↔ fault.span.isSome) ∧
    (∀ entity parameters, input = .rest entity parameters →
      fault.source = none ∧ fault.span = none) ∧
    ∀ text, input = .declarative text →
      (∀ source, fault.source = some source → source = ⟨Declarative.Query.sourceName, text⟩) ∧
      ∀ span, fault.span = some span →
        span.offset ≤ text.utf8ByteSize ∧ span.stop ≤ text.utf8ByteSize ∧
        (⟨span.offset⟩ : String.Pos.Raw).IsValid text ∧
        (⟨span.stop⟩ : String.Pos.Raw).IsValid text ∧
        Report.shownRange text.utf8ByteSize span = (span.offset, span.stop) := by
  cases input with
  | rest entity parameters =>
      have hunsourced : fault.Unsourced fun _ => False :=
        failsIn_compile_rest catalog entity parameters fault h
      have hspan : fault.span = none := Option.eq_none_iff_forall_ne_some.mpr hunsourced.span
      refine ⟨?_, ?_, ?_⟩
      · simp [hunsourced.source, hspan]
      · intro _ _ _
        exact ⟨hunsourced.source, hspan⟩
      · intro text htext
        cases htext
  | declarative text =>
      have hsourced := failsIn_compile_declarative catalog text fault h
      cases hsourced with
      | unplaced cause => simp
      | @placed cause span hlies =>
          refine ⟨by simp, ?_, ?_⟩
          · intro entity parameters hrest
            cases hrest
          · intro text' htext
            cases htext
            constructor
            · intro source hsource
              cases hsource
              rfl
            · intro found hfound
              cases hfound
              exact ⟨hlies.offset.le_utf8ByteSize, hlies.stop.le_utf8ByteSize, hlies.offset,
                hlies.stop, hlies.shownRange⟩

def filteredCatalog : Catalog :=
  .ofSchema (.ofTables [filteredTable])

def accentedText : String :=
  "\x7bé b"

/-- A text that selects a field which the table does not have. -/
def undeclaredText : String :=
  "\x7bt\x7bx\x7d\x7d"

def undeclaredTree : Declarative.DocumentTree where
  keyword := none
  opened := ⟨0, 1⟩
  resource := ⟨"t", ⟨1, 1⟩⟩
  arguments := none
  selecting := ⟨2, 1⟩
  selections := [(⟨"x", ⟨3, 1⟩⟩, none)]
  selected := ⟨4, 1⟩
  closed := ⟨5, 1⟩

/-- One fault points behind a character of two bytes, one comes from rendering and points nowhere,
and one is a fault of parameters. -/
theorem compile_source_iff_span_accented :
    (∃ fault, compile ⟨.standard, filteredCatalog⟩ (.declarative accentedText) = .error fault ∧
        fault.source = some ⟨Declarative.Query.sourceName, accentedText⟩ ∧
        fault.span = some ⟨4, 1⟩ ∧ (⟨4⟩ : String.Pos.Raw).IsValid accentedText ∧
        Report.shownRange accentedText.utf8ByteSize ⟨4, 1⟩ = (4, 5)) ∧
      (∃ fault, compile ⟨.standard, filteredCatalog⟩ (.declarative undeclaredText) = .error fault ∧
        fault.cause = .unknownColumn "t" "x" ∧
        (fault.source.isSome ↔ fault.span.isSome)) ∧
      ∃ fault, compile ⟨.standard, filteredCatalog⟩ (.rest " " (.ofList [])) = .error fault ∧
        fault.source = none ∧ fault.span = none := by
  have haccented : compile ⟨.standard, filteredCatalog⟩ (.declarative accentedText) = .error
      ((Fault.located (.unexpectedToken (.mark .openBrace) (some (.word "b"))) ⟨4, 1⟩).attach
        (Declarative.Query.source accentedText)) := by
    have htokens : (Declarative.Cursor.ofText accentedText).tokens.1 =
        [Declarative.Mark.openBrace.token ⟨0, 1⟩, ⟨.word "é", ⟨1, 2⟩⟩, ⟨.word "b", ⟨4, 1⟩⟩] := by
      decide +kernel
    have hdocument : Declarative.Document.ofText accentedText =
        Declarative.State.start.read (Declarative.Cursor.ofText accentedText).tokens.2
          (Declarative.Cursor.ofText accentedText).tokens.1 := rfl
    unfold compile
    rw [read_declarative, Declarative.Query.ofText, hdocument, htokens]
    rfl
  have hundeclared : compile ⟨.standard, filteredCatalog⟩ (.declarative undeclaredText) =
      .error { cause := .unknownColumn "t" "x" } := by
    have hderives : Declarative.Derives undeclaredText undeclaredTree :=
      .of_toOption (by decide +kernel) (by decide +kernel : _ = some ⟨6, 0⟩)
    unfold compile
    rw [read_declarative, Declarative.Query.ofText_of_derives hderives]
    rfl
  have hrest : compile ⟨.standard, filteredCatalog⟩ (.rest " " (.ofList [])) =
      .error { cause := .blankEntity } := by
    rfl
  rcases (compile_source_iff_span filteredCatalog _ _ haccented).2.2 _ rfl with ⟨_, hspan⟩
  rcases hspan ⟨4, 1⟩ rfl with ⟨_, _, hoffset, _, hshown⟩
  refine ⟨⟨_, haccented, rfl, rfl, hoffset, hshown⟩, ?_, ?_⟩
  · exact ⟨_, hundeclared, rfl, (compile_source_iff_span filteredCatalog _ _ hundeclared).1⟩
  · exact ⟨_, hrest, (compile_source_iff_span filteredCatalog _ _ hrest).2.1 _ _ rfl⟩

end Pipeline

end TableQuery
