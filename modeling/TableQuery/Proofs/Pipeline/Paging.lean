import TableQuery.Proofs.Decimal.Exactness
import TableQuery.Proofs.Declarative.Acceptance
import TableQuery.Proofs.Sql.Injection
import TableQuery.Proofs.Sql.Statement

/-!
# Paging

The page and its size go from the text of a query to its statement without a change. A number is
taken just if it is an integer that a word of 32 bits holds, whatever zeros it is written with. The
statement then has the window of that page, computed without overflow, and nothing else of a query
has to do with the window.
-/

namespace TableQuery

open Outcome

/-!
## Whole numbers
-/

namespace Decimal

theorem whole?_eq_some_iff {d : Decimal} {k : Int} : d.whole? = some k ↔ d.value = k := by
  have hpos : (0 : Int) < (Nat.pow 10 d.scale : Nat) := by
    exact_mod_cast Nat.pow_pos (by decide)
  have hvalue : d.value = k ↔ d.coefficient = k * (Nat.pow 10 d.scale : Nat) := by
    have hpower : ((Nat.pow 10 d.scale : Nat) : ℚ) = 10 ^ d.scale := by
      exact_mod_cast Nat.cast_pow 10 d.scale
    rw [value, div_eq_iff (by positivity), ← hpower]
    exact_mod_cast Iff.rfl
  rw [hvalue, whole?]
  generalize (Nat.pow 10 d.scale : Nat) = power at hpos
  constructor
  · intro h
    split at h
    · next hzero =>
        cases h
        exact (Int.ediv_mul_cancel (Int.dvd_of_emod_eq_zero hzero)).symm
    · cases h
  · intro h
    rw [h, if_pos (Int.mul_emod_left _ _), Int.mul_ediv_cancel _ hpos.ne']

/-- A number that can be the number of a page or the size of pages. -/
def IsPageNumber (d : Decimal) : Prop :=
  ∃ k : Int, d.value = k ∧ 0 ≤ k ∧ k ≤ 2 ^ 32 - 1

end Decimal

/-!
## Numbers of pages

A field of the page is taken or refused by its number alone. A number that is taken is the number
that was written.
-/

theorem pageWord?_eq_some_iff {n : Nat} {word : UInt32} :
    pageWord? n = some word ↔ n = word.toNat := by
  constructor
  · intro h
    unfold pageWord? at h
    split at h
    · next hlt =>
        cases h
        exact (UInt32.toNat_ofNat_of_lt' hlt).symm
    · cases h
  · rintro rfl
    exact pageWord?_toNat word

namespace Declarative
namespace Value

theorem pageNumber?_eq_some_iff {d : Decimal} {word : UInt32} :
    pageNumber? d = some word ↔ d.value = (word.toNat : Int) := by
  rw [← Decimal.whole?_eq_some_iff, pageNumber?]
  constructor
  · intro h
    rcases Option.bind_eq_some_iff.mp h with ⟨n, hn, hword⟩
    rcases Option.bind_eq_some_iff.mp hn with ⟨k, hk, hnat⟩
    rw [hk, ← pageWord?_eq_some_iff.mp hword, Int.mem_toNat?.mp hnat]
  · intro h
    rw [h]
    exact pageWord?_toNat word

theorem isPageNumber_iff {d : Decimal} : d.IsPageNumber ↔ ∃ word, pageNumber? d = some word := by
  simp only [pageNumber?_eq_some_iff]
  constructor
  · rintro ⟨k, hk, hnonneg, hle⟩
    have hlt : k.toNat < 2 ^ 32 := by omega
    refine ⟨.ofNat k.toNat, ?_⟩
    rw [hk, UInt32.toNat_ofNat_of_lt' hlt, Int.toNat_of_nonneg hnonneg]
  · rintro ⟨word, hword⟩
    have hlt := word.toNat_lt
    exact ⟨word.toNat, hword, by omega, by omega⟩

/-- A field that may be left out, and the word that is taken from it: the value of its number. -/
inductive TakenAs : Option Value → Option UInt32 → Prop where
  | absent : TakenAs none none
  | number {span : Span} {d : Decimal} {word : UInt32} (h : d.value = (word.toNat : Int)) :
    TakenAs (some (.number span d)) (some word)

theorem TakenAs.unique {found : Option Value} {word word' : Option UInt32} (h : TakenAs found word)
    (h' : TakenAs found word') : word = word' := by
  cases h with
  | absent =>
      cases h'
      rfl
  | number hvalue =>
      cases h' with
      | number hvalue' =>
          rw [← pageNumber?_eq_some_iff.mpr hvalue, pageNumber?_eq_some_iff.mpr hvalue']

theorem ends_asPageWord (field : String) (span : Span) (d : Decimal) :
    Ends (fun fault => ¬ d.IsPageNumber ∧ fault = .located (.invalidInteger field d) span)
      (fun word => d.value = (word.toNat : Int)) (asPageWord field (.number span d)) := by
  simp only [asPageWord]
  split
  · next word hword => exact .ok (pageNumber?_eq_some_iff.mp hword)
  · next hnone =>
      refine .error ⟨?_, rfl⟩
      intro hnumber
      rcases isPageNumber_iff.mp hnumber with ⟨word, hword⟩
      cases hnone.symm.trans hword

end Value

namespace Fields

def GivesNumber (fields : Fields) (name : String) : Prop :=
  ∀ value, fields.get? name = some value → value.shape = .number

/-- A fault that is right about a number of a page: the field is there, and its number is none that a
page can have. -/
def RefusesPage (fields : Fields) (fault : Fault) : Prop :=
  ∃ name ∈ ["page", "pageSize"], ∃ span d, fields.get? name = some (.number span d) ∧
    ¬ d.IsPageNumber ∧ fault = .located (.invalidInteger ("pagination." ++ name) d) span

/-- A page takes its number and its size from fields. -/
structure ChoosePage (fields : Fields) (paging : Paging) : Prop where
  page : Value.TakenAs (fields.get? "page") paging.page
  size : Value.TakenAs (fields.get? "pageSize") paging.size

theorem ends_optionalField {fields : Fields} {name : String} (hname : name ∈ ["page", "pageSize"])
    (hnumber : fields.GivesNumber name) :
    Ends fields.RefusesPage (Value.TakenAs (fields.get? name))
      (optionalField fields name (Value.asPageWord ("pagination." ++ name))) := by
  unfold optionalField
  cases hget : fields.get? name with
  | none => exact .ok .absent
  | some value =>
      cases value with
      | number span d =>
          refine ((Value.ends_asPageWord _ span d).imp ?_).map fun word => .number
          rintro fault ⟨hrefused, hfault⟩
          exact ⟨name, hname, span, d, hget, hrefused, hfault⟩
      | _ => cases hnumber _ hget

theorem ends_toPaging {fields : Fields} (place : Span) (hpage : fields.GivesNumber "page")
    (hsize : fields.GivesNumber "pageSize") :
    Ends fields.RefusesPage fields.ChoosePage (Value.object place fields).toPaging := by
  apply (ends_optionalField (by simp) hpage).bind
  intro page htakenPage
  apply (ends_optionalField (by simp) hsize).bind
  intro size htakenSize
  exact .ok ⟨htakenPage, htakenSize⟩

theorem ChoosePage.isPageNumber {fields : Fields} {paging : Paging} (h : fields.ChoosePage paging) :
    ∀ name ∈ ["page", "pageSize"], ∀ span d, fields.get? name = some (.number span d) →
      d.IsPageNumber := by
  have htaken : ∀ {found : Option Value} {word : Option UInt32}, Value.TakenAs found word →
      ∀ span d, found = some (.number span d) → d.IsPageNumber := by
    intro found word htaken span d hfound
    cases htaken with
    | absent => cases hfound
    | number hvalue =>
        cases hfound
        exact Value.isPageNumber_iff.mpr ⟨_, Value.pageNumber?_eq_some_iff.mpr hvalue⟩
  simp only [List.forall_mem_cons]
  exact ⟨htaken h.page, htaken h.size, fun _ h => nomatch h⟩

/-!
## Arguments

The other arguments have nothing to do with the page. So a document is understood like the document
without its page, and the page is put in.
-/

theorem nodup_merged (entries : List (Key × Value)) :
    ((merged entries).map fun entry => entry.1.name).Nodup := by
  induction entries with
  | nil => exact List.nodup_nil
  | cons entry entries ih =>
      obtain ⟨key, value⟩ := entry
      rw [merged, List.map_cons, List.nodup_cons]
      constructor
      · simp
      · exact ih.sublist (List.filter_sublist.map _)

end Fields

def Document.without (name : String) (document : Document) : Document :=
  { document with arguments := document.arguments.filter fun entry => entry.1.name ≠ name }

namespace Query

theorem argument_pagination {query : Query} {entry : Key × Value}
    (h : entry.1.name = "pagination") :
    argument query entry =
      entry.2.toPaging.map fun paging => { query with paging := some paging } := by
  obtain ⟨⟨name, span⟩, value⟩ := entry
  cases h
  simp only [argument]
  cases value.toPaging <;> rfl

theorem argument_setPaging {query : Query} {entry : Key × Value} (paging : Option Paging)
    (h : entry.1.name ≠ "pagination") :
    argument { query with paging } entry =
      (argument query entry).map fun query => { query with paging } := by
  have hmap : ∀ {α : Type} (x : Except Fault α) (f : α → Except Fault Query) (g : Query → Query),
      (x >>= f).map g = x >>= fun a => (f a).map g := by
    intro α x f g
    cases x <;> rfl
  obtain ⟨key, value⟩ := entry
  simp only [argument]
  split
  case h_1 hname => exact absurd hname h
  case h_10 => rfl
  all_goals
    rw [hmap]
    rfl

theorem foldlM_setPaging {entries : Fields}
    (h : ∀ entry ∈ entries, entry.1.name ≠ "pagination") (query : Query) (paging : Option Paging) :
    entries.foldlM argument { query with paging } =
      (entries.foldlM argument query).map fun query => { query with paging } := by
  induction entries generalizing query with
  | nil => rfl
  | cons entry entries ih =>
      rw [List.forall_mem_cons] at h
      rw [List.foldlM_cons, List.foldlM_cons, argument_setPaging paging h.1]
      cases argument query entry with
      | error fault => rfl
      | ok next => exact ih h.2 next

theorem foldlM_argument {entries : Fields} (hnodup : (entries.map fun entry => entry.1.name).Nodup)
    {value : Value} (hget : entries.get? "pagination" = some value) {query rest : Query}
    (hrest : (entries.filter fun entry => entry.1.name ≠ "pagination").foldlM argument query =
      .ok rest) :
    entries.foldlM argument query =
      value.toPaging.map fun paging => { rest with paging := some paging } := by
  induction entries generalizing query with
  | nil => cases hget
  | cons entry entries ih =>
      rw [List.map_cons, List.nodup_cons] at hnodup
      rw [Fields.get?_cons] at hget
      rw [List.foldlM_cons]
      split at hget
      · next hname =>
          cases hget
          -- The page comes here, so what is left has to leave it as it is.
          have hothers : ∀ other ∈ entries, other.1.name ≠ "pagination" := by
            intro other hother hsame
            apply hnodup.1
            rw [hname, ← hsame]
            exact List.mem_map_of_mem hother
          rw [List.filter_cons_of_neg (by simp [hname]),
            List.filter_eq_self.mpr (by simpa using hothers)] at hrest
          rw [argument_pagination hname]
          cases entry.2.toPaging with
          | error fault => rfl
          | ok paging =>
              refine (foldlM_setPaging hothers query (some paging)).trans ?_
              rw [hrest]
              rfl
      · next hname =>
          rw [List.filter_cons_of_pos (by simpa using hname), List.foldlM_cons] at hrest
          rcases bind_eq_ok.mp hrest with ⟨next, hnext, hrest⟩
          rw [hnext]
          exact ih hnodup.2 hget hrest

theorem ofText_of_paging {text : String} {tree : DocumentTree} (h : Derives text tree)
    {value : Value} (hget : tree.document.arguments.get? "pagination" = some value) {rest : Query}
    (hrest : ofDocument (tree.document.without "pagination") = .ok rest) :
    ofText text =
      (value.toPaging.map fun paging => { rest with paging := some paging }).mapError
        fun fault => fault.attach (source text) := by
  rw [ofText_of_derives h]
  exact congrArg _ (foldlM_argument (Fields.nodup_merged _) hget hrest)

theorem paging_of_plan {query : Query} {entity : Entity} {plan : Plan}
    (h : query.plan entity = .ok plan) : plan.paging = query.paging.getD {} := by
  rcases bind_eq_ok.mp h with ⟨filters, _, hplan⟩
  cases hplan
  rfl

end Query
end Declarative

/-!
## Windows
-/

def Paging.skipped? : Paging → Option Nat
  | ⟨some page, some size⟩ => some ((page.toNat - 1) * size.toNat)
  | _ => none

theorem Paging.toNat_offset_eq (paging : Paging) :
    paging.offset.map UInt64.toNat = paging.skipped? := by
  obtain ⟨page, size⟩ := paging
  cases page with
  | none => rfl
  | some page =>
      cases size with
      | none => rfl
      | some size => exact toNat_offset page size

namespace Sql

/-- A statement ends with the window of a page. A reader of the statement finds this window, and
finds none if the page has no size. -/
structure HasWindow (sql : String) (paging : Paging) : Prop where
  ending : ∃ front, sql = front ++ paging.sql
  found : ∃ content, Content.ofSql? sql = some content ∧
    content.limit.map UInt64.toNat = paging.size.map UInt32.toNat ∧
    content.offset.map UInt64.toNat = paging.skipped?

theorem hasWindow_renderPlan {table : Option Handle} {plan : Plan} {rendered : Rendered}
    (h : renderPlan table plan = .ok rendered) : HasWindow rendered.sql plan.paging := by
  rcases bind_eq_ok.mp h with ⟨select, hselect, hrendered⟩
  cases hrendered
  constructor
  · rcases Select.parts_of_ofPlan hselect with ⟨_, _, _, _, _, _, _, _, _, rfl⟩
    rw [Select.render, String.append_assoc, clause_paging]
    exact ⟨_, rfl⟩
  · rcases Select.ofPlan_eq_ok hselect with ⟨hplain, hlexemes, hcomplete⟩
    refine ⟨plan.content, ?_, plan.paging.toNat_limit, plan.paging.toNat_offset_eq⟩
    rw [Content.ofSql?, Select.lexemes?_render hplain, hlexemes]
    exact Content.ofLexemes?_lexemes hcomplete

end Sql

namespace Declarative
namespace Query

/-- A page is taken exactly or refused. Let a text be a query apart from its page, and let the page
and its size be any numbers, as far as they are given. Then the text is a query just if these numbers
are integers of 32 bits, and the query has just these integers. Otherwise the fault is that of a
number that is no such integer. The statement of every query has the window of its page. -/
theorem ofText_pagination (text : String) :
    (∀ (tree : DocumentTree) (place : Span) (fields : Fields) (rest : Query), Derives text tree →
      tree.document.arguments.get? "pagination" = some (.object place fields) →
      fields.GivesNumber "page" → fields.GivesNumber "pageSize" →
      ofDocument (tree.document.without "pagination") = .ok rest →
      ((∃ query, ofText text = .ok query) ↔
        ∀ name ∈ ["page", "pageSize"], ∀ span d, fields.get? name = some (.number span d) →
          d.IsPageNumber) ∧
      (∀ query, ofText text = .ok query →
        ∃ paging, fields.ChoosePage paging ∧ query = { rest with paging := some paging }) ∧
      ∀ fault, ofText text = .error fault →
        ∃ refusal, fields.RefusesPage refusal ∧ fault = refusal.attach (source text)) ∧
    ∀ (query : Query) (entity : Entity) (plan : Plan) (table : Option Handle)
      (rendered : Sql.Rendered), ofText text = .ok query → query.plan entity = .ok plan →
      Sql.renderPlan table plan = .ok rendered →
      Sql.HasWindow rendered.sql (query.paging.getD {}) := by
  constructor
  · intro tree place fields rest hderives hget hpage hsize hrest
    rw [ofText_of_paging hderives hget hrest]
    have hends := Fields.ends_toPaging place hpage hsize
    generalize (Value.object place fields).toPaging = outcome at hends
    cases hends with
    | ok hchoose =>
        refine ⟨⟨fun _ => hchoose.isPageNumber, fun _ => ⟨_, rfl⟩⟩, ?_, ?_⟩
        · rintro query ⟨⟩
          exact ⟨_, hchoose, rfl⟩
        · rintro fault ⟨⟩
    | error hrefuses =>
        refine ⟨⟨?_, ?_⟩, ?_, ?_⟩
        · rintro ⟨query, ⟨⟩⟩
        · intro hnumbers
          rcases hrefuses with ⟨name, hname, span, d, hget, hnot, _⟩
          exact absurd (hnumbers name hname span d hget) hnot
        · rintro query ⟨⟩
        · rintro fault ⟨⟩
          exact ⟨_, hrefuses, rfl⟩
  · intro query entity plan table rendered _ hplan hrendered
    rw [← paging_of_plan hplan]
    exact Sql.hasWindow_renderPlan hrendered

/-- A text with the last page that there can be. The size of pages is a numeral of nine bytes. -/
def pagedText (numeral : String) : String :=
  "\x7bhalls(pagination:\x7bpageSize:" ++ numeral ++ ",page:4294967295\x7d)\x7bc\x7d\x7d"

def pagedTree (numeral : String) (size : Decimal) : DocumentTree where
  keyword := none
  opened := ⟨0, 1⟩
  resource := ⟨"halls", ⟨1, 5⟩⟩
  arguments := some
    { opened := ⟨6, 1⟩
      fields :=
        .cons ⟨"pagination", ⟨7, 10⟩⟩ ⟨17, 1⟩
          (.object ⟨18, 1⟩
            (.cons ⟨"pageSize", ⟨19, 8⟩⟩ ⟨27, 1⟩ (.number ⟨28, 9⟩ numeral size) (some ⟨37, 1⟩)
              (.cons ⟨"page", ⟨38, 4⟩⟩ ⟨42, 1⟩
                (.number ⟨43, 10⟩ "4294967295" (.ofUInt64 4294967295)) none .nil))
            ⟨53, 1⟩)
          none .nil
      closed := ⟨54, 1⟩ }
  selecting := ⟨55, 1⟩
  selections := [(⟨"c", ⟨56, 1⟩⟩, none)]
  selected := ⟨57, 1⟩
  closed := ⟨58, 1⟩

def wholeSize : Decimal :=
  ⟨false, 50000000, 6, by decide, by decide⟩

def brokenSize : Decimal :=
  ⟨false, 50000001, 6, by decide, by decide⟩

def pagedFields (size : Decimal) : Fields :=
  [(⟨"pageSize", ⟨19, 8⟩⟩, .number ⟨28, 9⟩ size),
    (⟨"page", ⟨38, 4⟩⟩, .number ⟨43, 10⟩ (.ofUInt64 4294967295))]

def unpagedQuery : Query where
  resource := ⟨"halls", ⟨1, 5⟩⟩
  selections := ["c"]

theorem givesNumber_pagedFields (size : Decimal) (name : String) :
    (pagedFields size).GivesNumber name := by
  intro value hvalue
  rcases Fields.exists_of_get? hvalue with ⟨entry, hentry, rfl⟩
  simp only [pagedFields, List.mem_cons, List.not_mem_nil, or_false] at hentry
  rcases hentry with rfl | rfl <;> rfl

theorem derives_wholeText : Derives (pagedText "50.000000") (pagedTree "50.000000" wholeSize) :=
  Derives.of_toOption (by decide +kernel)
    (show (Cursor.ofText (pagedText "50.000000")).tokens.2.toOption = some ⟨59, 0⟩ by decide +kernel)

theorem derives_brokenText : Derives (pagedText "50.000001") (pagedTree "50.000001" brokenSize) :=
  Derives.of_toOption (by decide +kernel)
    (show (Cursor.ofText (pagedText "50.000001")).tokens.2.toOption = some ⟨59, 0⟩ by decide +kernel)

theorem choosePage_pagedFields :
    (pagedFields wholeSize).ChoosePage ⟨some 4294967295, some 50⟩ where
  page := .number (Value.pageNumber?_eq_some_iff.mp (by decide +kernel))
  size := .number (Value.pageNumber?_eq_some_iff.mp (by decide +kernel))

theorem ofText_pagination_halls :
    ofText (pagedText "50.000000") =
        .ok { unpagedQuery with paging := some ⟨some 4294967295, some 50⟩ } ∧
      Sql.HasWindow "SELECT c FROM halls LIMIT 50 OFFSET 214748364700" ⟨some 4294967295, some 50⟩ ∧
      ∃ fault, ofText (pagedText "50.000001") = .error fault ∧
        fault.cause = .invalidInteger "pagination.pageSize" brokenSize := by
  rcases ofText_pagination (pagedText "50.000000") with ⟨hpaged, hwindow⟩
  rcases hpaged _ ⟨18, 36⟩ (pagedFields wholeSize) unpagedQuery derives_wholeText rfl
    (givesNumber_pagedFields _ _) (givesNumber_pagedFields _ _) rfl with ⟨hiff, htaken, _⟩
  have hquery : ofText (pagedText "50.000000") =
      .ok { unpagedQuery with paging := some ⟨some 4294967295, some 50⟩ } := by
    rcases hiff.mpr choosePage_pagedFields.isPageNumber with ⟨query, hquery⟩
    rcases htaken query hquery with ⟨⟨page, size⟩, hchoose, rfl⟩
    cases hchoose.page.unique choosePage_pagedFields.page
    cases hchoose.size.unique choosePage_pagedFields.size
    exact hquery
  refine ⟨hquery, ?_, ?_⟩
  · exact hwindow _ ⟨"halls", by decide⟩ _ none ⟨_, ["c"]⟩ hquery rfl rfl
  · rcases (ofText_pagination (pagedText "50.000001")).1 _ ⟨18, 36⟩ (pagedFields brokenSize)
      unpagedQuery derives_brokenText rfl (givesNumber_pagedFields _ _)
      (givesNumber_pagedFields _ _) rfl with ⟨hiff, _, hrefused⟩
    cases hbroken : ofText (pagedText "50.000001") with
    | ok query =>
        have hnumber := hiff.mp ⟨query, hbroken⟩ "pageSize" (by simp) _ _ rfl
        rcases Value.isPageNumber_iff.mp hnumber with ⟨word, hword⟩
        cases hword
    | error fault =>
        refine ⟨fault, rfl, ?_⟩
        rcases hrefused fault hbroken with ⟨_, ⟨name, hname, span, d, hget, hnot, rfl⟩, rfl⟩
        rcases List.mem_pair.mp hname with rfl | rfl
        · cases hget
          exact absurd (choosePage_pagedFields.isPageNumber "page" (by simp) _ _ rfl) hnot
        · cases hget
          rfl

end Query
end Declarative
end TableQuery
