import TableQuery.Proofs.Declarative.Delimiting
import TableQuery.Proofs.Declarative.Erasure

/-!
# Overwritten values

Where two entries of the same brackets have one name, the value of the earlier one is overwritten. It
must be a value, but which one it is has no influence on what the text is read as, or on why it is
refused. The value that is left stands at the place and under the name of the earlier entry.
-/

namespace TableQuery
namespace Declarative

open Outcome
open Fault (Points)
open Text (isBlank)

/-!
## Fields

A value that is set last could as well be set first, in the place of all others of its name.
-/

namespace Fields

theorem insert_insert (fields : Fields) {key later : Key} (h : later.name = key.name)
    (value value' : Value) :
    (fields.insert key value).insert later value' = fields.insert key value' := by
  induction fields with
  | nil => simp [insert, h]
  | cons field fields ih =>
      obtain ⟨found, old⟩ := field
      by_cases hfound : found.name = key.name
      · simp [insert, hfound, h]
      · simp [insert, hfound, h, ih]

section

variable {fields : Fields} {key : Key} (hset : (fields.get? key.name).isSome)

include hset

theorem insert_of_isSome {other : Key} (hname : other.name = key.name) (value : Value) :
    fields.insert other value = fields.insert key value := by
  induction fields with
  | nil => cases hset
  | cons field fields ih =>
      obtain ⟨found, old⟩ := field
      by_cases hfound : found.name = key.name
      · simp [insert, hfound, hname]
      · rw [get?_cons, if_neg hfound] at hset
        simp [insert, hfound, hname, ih hset]

theorem insert_comm_of_isSome {other : Key} (hname : other.name ≠ key.name) (value value' : Value) :
    (fields.insert other value').insert key value =
      (fields.insert key value).insert other value' := by
  induction fields with
  | nil => cases hset
  | cons field fields ih =>
      obtain ⟨found, old⟩ := field
      by_cases hfound : found.name = key.name
      · simp [insert, hfound, hname.symm]
      · rw [get?_cons, if_neg hfound] at hset
        by_cases hother : found.name = other.name
        · simp [insert, hother, hname]
        · simp [insert, hfound, hother, ih hset]

theorem insertAll_insert (entries : List (Key × Value)) (value : Value) :
    (fields.insertAll entries).insert key value =
      (fields.insert key value).insertAll (entries.filter fun entry => entry.1.name ≠ key.name) := by
  induction entries generalizing fields with
  | nil => rfl
  | cons entry entries ih =>
      obtain ⟨other, value'⟩ := entry
      have hkept : ((fields.insert other value').get? key.name).isSome := by
        rw [get?_insert]
        split
        · rfl
        · exact hset
      rw [insertAll_cons, ih hkept]
      by_cases hname : other.name = key.name
      · rw [List.filter_cons_of_neg (by simp [hname]), insert_insert fields hname.symm,
          insert_of_isSome hset hname]
      · rw [List.filter_cons_of_pos (by simp [hname]), insertAll_cons,
          insert_comm_of_isSome hset hname]

end

end Fields

/-!
## Tokens

The state behind the later entry has the value of that entry in the place of the earlier one,
whatever the earlier one was. The same state is reached if the value that is left stands in the
earlier entry and the later entries of the name are not there.

A name and a colon are read only where an entry can stand. So whatever surrounds the two entries,
the tokens in front of the first value lead to a place that waits for this value, or they are
refused without a look at it.
-/

def FieldsTree.without (name : String) : FieldsTree → FieldsTree
  | .nil => .nil
  | .cons key colon value comma rest =>
    if key.name = name then rest.without name
    else .cons key colon value comma (rest.without name)

theorem FieldsTree.entries_without (name : String) (fields : FieldsTree) :
    (fields.without name).entries = fields.entries.filter fun entry => entry.1.name ≠ name := by
  cases fields with
  | nil => rfl
  | cons key colon value comma rest =>
      have hrest := rest.entries_without name
      by_cases h : key.name = name
      · rw [without, if_pos h, entries, List.filter_cons_of_neg (by simp [h]), hrest]
      · rw [without, if_neg h, entries, entries, List.filter_cons_of_pos (by simp [h]), hrest]

/-- Tokens with two entries of one name in the same brackets. -/
structure Overwriting where
  before : List Token
  -- the earlier entry, whose value is overwritten
  key : Key
  colon : Span
  value : ValueTree
  comma : Option Span
  between : FieldsTree
  -- the later entry, whose value is left
  later : Key
  laterColon : Span
  survivor : ValueTree
  laterComma : Option Span
  rest : List Token
  same_name : later.name = key.name

namespace Overwriting

variable (entry : Overwriting)

def opening : List Token :=
  entry.before ++ [entry.key.token, Mark.colon.token entry.colon]

def overwriting : List Token :=
  commaYield entry.comma ++ (entry.between.yield ++
    entry.later.token :: Mark.colon.token entry.laterColon :: entry.survivor.yield)

def closing : List Token :=
  entry.overwriting ++ (commaYield entry.laterComma ++ entry.rest)

def yieldWith (value : ValueTree) : List Token :=
  entry.opening ++ (value.yield ++ entry.closing)

def yield : List Token :=
  entry.yieldWith entry.value

/-- The tokens with the value that is left in the place of the one that is overwritten, and without
the later entries of the name. -/
def resolved : List Token :=
  entry.opening ++ (entry.survivor.yield ++
    (commaYield entry.comma ++ ((entry.between.without entry.key.name).yield ++ entry.rest)))

def fields (done : Fields) : Fields :=
  (done.insert entry.key entry.survivor.value).insertAll
    (entry.between.entries.filter fun field => field.1.name ≠ entry.key.name)

end Overwriting

namespace State

variable {resource : Key}

theorem run?_entry {state last : State} {key : Key} {colon : Span}
    (h : state.run? [key.token, Mark.colon.token colon] = some last) :
    ∃ resource opened entries outer,
      last = arguments resource ⟨opened, .operand entries key, outer⟩ := by
  rcases run?_cons_eq_some h with ⟨named, hname, h⟩
  rcases run?_cons_eq_some h with ⟨next, hcolon, hlast⟩
  cases hlast
  -- In all other states the name is refused, or the colon behind it.
  cases state with
  | start =>
      by_cases hquery : key.name = "query"
      · simp only [step?, Key.token, hquery] at hname
        cases hname
        cases hcolon
      · simp [step?, Key.token, hquery] at hname
  | arguments resource place =>
      obtain ⟨opened, focus, outer⟩ := place
      cases focus with
      | fields entries comma =>
          cases hname
          cases hcolon
          exact ⟨resource, opened, entries, outer, rfl⟩
      | colon entries key => cases hname
      | operand entries key =>
          cases hname
          cases hcolon
      | items entries comma =>
          cases hname
          cases hcolon
  | body =>
      cases hname
      cases hcolon
  | selecting resource entries selections comma =>
      cases comma <;> cases hname <;> cases hcolon
  | _ => cases hname

theorem run?_overwritten (entry : Overwriting) (value : ValueTree) (opened : Span) (done : Fields)
    (outer : List Hole) :
    (arguments resource ⟨opened, .operand done entry.key, outer⟩).run?
        (value.yield ++ entry.overwriting) =
      some (arguments resource ⟨opened, .fields (entry.fields done) true, outer⟩) := by
  rcases @run?_fields resource entry.between opened (done.insert entry.key value.value)
    entry.comma.isNone outer
    (entry.later.token :: Mark.colon.token entry.laterColon :: entry.survivor.yield) with
    ⟨comma, hbetween⟩
  have hset : ((done.insert entry.key value.value).get? entry.later.name).isSome := by
    rw [Fields.get?_insert, if_pos entry.same_name.symm]
    rfl
  -- The later entry finds its name set, so it does not count what it was set to.
  have hfields : ((done.insert entry.key value.value).insertAll entry.between.entries).insert
      entry.later entry.survivor.value = entry.fields done := by
    rw [Fields.insertAll_insert hset, Fields.insert_insert done entry.same_name, entry.same_name]
    rfl
  have hlater := @run?_value resource entry.survivor _ _ outer
    (.operand opened ((done.insert entry.key value.value).insertAll entry.between.entries)
      entry.later) []
  rw [List.append_nil] at hlater
  rw [run?_value value (.operand opened done entry.key), Overwriting.overwriting]
  simp only [Place.leave, Hole.opened, Hole.fill, hfields] at hlater ⊢
  rw [run?_fields_comma, hbetween]
  exact hlater

theorem run?_resolved (entry : Overwriting) (opened : Span) (done : Fields) (outer : List Hole) :
    ∃ comma : Bool,
      (arguments resource ⟨opened, .operand done entry.key, outer⟩).run?
          (entry.survivor.yield ++
            (commaYield entry.comma ++ (entry.between.without entry.key.name).yield)) =
        some (arguments resource ⟨opened, .fields (entry.fields done) comma, outer⟩) := by
  rcases @run?_fields resource (entry.between.without entry.key.name) opened
    (done.insert entry.key entry.survivor.value) entry.comma.isNone outer [] with ⟨comma, hbetween⟩
  refine ⟨comma, ?_⟩
  rw [List.append_nil, FieldsTree.entries_without] at hbetween
  rw [run?_value entry.survivor (.operand opened done entry.key)]
  simp only [Place.leave, Hole.opened, Hole.fill]
  rw [run?_fields_comma, hbetween]
  rfl

theorem read_fields_comma (opened : Span) (entries : Fields) (outer : List Hole)
    (comma : Option Span) (ending : Except Fault Span) (rest : List Token) :
    (arguments resource ⟨opened, .fields entries true, outer⟩).read ending
        (commaYield comma ++ rest) =
      (arguments resource ⟨opened, .fields entries comma.isNone, outer⟩).read ending rest := by
  cases comma <;> rfl

theorem read_fields_of_noComma {tokens : List Token} (h : NoComma tokens) (opened : Span)
    (entries : Fields) (outer : List Hole) (comma : Bool) (ending : Except Fault Span) :
    (arguments resource ⟨opened, .fields entries comma, outer⟩).read ending tokens =
      (arguments resource ⟨opened, .fields entries true, outer⟩).read ending tokens := by
  cases comma with
  | true => rfl
  | false =>
      cases tokens with
      | nil => cases ending <;> rfl
      | cons token tokens =>
          rw [read, read, step?_fields_of_ne_comma opened entries outer token (h token rfl)]
          rfl

end State

namespace Overwriting

variable (entry : Overwriting) (ending : Except Fault Span)

theorem read_opening_congr {back back' : List Token}
    (h : ∀ resource opened done outer,
      (State.arguments resource ⟨opened, .operand done entry.key, outer⟩).read ending back =
        (State.arguments resource ⟨opened, .operand done entry.key, outer⟩).read ending back') :
    State.start.read ending (entry.opening ++ back) =
      State.start.read ending (entry.opening ++ back') := by
  rw [opening, List.append_assoc, List.append_assoc]
  apply State.read_congr
  intro state _
  apply State.read_congr
  intro last hentry
  rcases State.run?_entry hentry with ⟨resource, opened, done, outer, rfl⟩
  exact h resource opened done outer

theorem read_closing (value : ValueTree) (resource : Key) (opened : Span) (done : Fields)
    (outer : List Hole) :
    (State.arguments resource ⟨opened, .operand done entry.key, outer⟩).read ending
        (value.yield ++ entry.closing) =
      (State.arguments resource ⟨opened, .fields (entry.fields done) true, outer⟩).read ending
        (commaYield entry.laterComma ++ entry.rest) := by
  rw [closing, ← List.append_assoc,
    State.read_append (State.run?_overwritten entry value opened done outer)]

theorem read_yieldWith (value : ValueTree) :
    State.start.read ending (entry.yieldWith value) = State.start.read ending entry.yield := by
  apply entry.read_opening_congr
  intro resource opened done outer
  rw [read_closing, read_closing]

theorem read_resolved (h : NoComma entry.rest) :
    State.start.read ending entry.yield = State.start.read ending entry.resolved := by
  apply entry.read_opening_congr
  intro resource opened done outer
  rcases @State.run?_resolved resource entry opened done outer with ⟨comma, hresolved⟩
  rw [read_closing, State.read_fields_comma, State.read_fields_of_noComma h,
    ← List.append_assoc (commaYield entry.comma), ← List.append_assoc entry.survivor.yield,
    State.read_append hresolved, State.read_fields_of_noComma h _ _ _ comma]

end Overwriting

/-!
## Values in a text

A value of a text is exchanged for another one at its span. The tokens of the other one take the place
of its tokens, if blanks keep them apart from the tokens around them.
-/

def splitBytes (count : Nat) : List Char → List Char × List Char
  | [] => ([], [])
  | c :: rest =>
    if c.utf8Size ≤ count then
      ((c :: (splitBytes (count - c.utf8Size) rest).1), (splitBytes (count - c.utf8Size) rest).2)
    else ([], c :: rest)

/-- A text with another one in the place of a span. -/
def replaced (span : Span) (text other : String) : String :=
  .ofList ((splitBytes span.offset text.toList).1 ++
    (other.toList ++ (splitBytes span.stop text.toList).2))

theorem splitBytes_append (front back : List Char) :
    splitBytes (byteLength front) (front ++ back) = (front, back) := by
  induction front with
  | nil =>
      cases back with
      | nil => rfl
      | cons c back =>
          have hsize := c.utf8Size_pos
          rw [List.nil_append, splitBytes, if_neg]
          rw [byteLength_nil]
          omega
  | cons c front ih =>
      rw [List.cons_append, splitBytes, byteLength_cons, if_pos (Nat.le_add_right _ _),
        Nat.add_sub_cancel_left, ih]

theorem toList_replaced {text : String} {front piece back : List Char}
    (h : text.toList = front ++ (piece ++ back)) (other : String) :
    (replaced ⟨byteLength front, byteLength piece⟩ text other).toList =
      front ++ (other.toList ++ back) := by
  have hstop : (splitBytes (byteLength front + byteLength piece) text.toList).2 = back := by
    rw [h, ← List.append_assoc, ← byteLength_append, splitBytes_append]
  rw [replaced, String.toList_ofList, Span.stop, hstop, h, splitBytes_append]

variable {κ : Type} {kind : Cause → κ}

theorem Cursor.scannedAlike_blank {gap : List Char} (hgap : ∀ c ∈ gap, isBlank c = true)
    (cs : List Char) (offset offset' : Nat) :
    ScannedAlike kind (Cursor.mk offset cs).tokens (Cursor.mk offset' (gap ++ cs)).tokens := by
  have hskip : (gap ++ cs).dropWhile isBlank = cs.dropWhile isBlank :=
    List.dropWhile_append_of_pos hgap
  have hlength : (cs.dropWhile isBlank).length ≤ cs.length :=
    (List.dropWhile_suffix isBlank).length_le
  rw [tokens_eq, tokens_eq (Cursor.mk offset' _)]
  simp only [next, skipBlanks, hskip]
  cases hdrop : cs.dropWhile isBlank with
  | nil => exact ⟨rfl, .ok trivial⟩
  | cons c rest =>
      simp only
      cases (scan c rest).outcome with
      | error cause => exact ⟨rfl, .error rfl⟩
      | ok lexeme =>
          have hshorter : (scan c rest).rest.length < cs.length := by
            rw [hdrop, List.length_cons] at hlength
            exact Nat.lt_of_le_of_lt (length_rest_scan c rest) hlength
          have hrest : ∀ start start', ScannedAlike kind (Cursor.mk start (scan c rest).rest).tokens
              (Cursor.mk start' (scan c rest).rest).tokens :=
            scannedAlike_blank (List.forall_mem_nil _) (scan c rest).rest
          exact ⟨congrArg (Token.bare ⟨lexeme, nowhere⟩ :: ·) (hrest _ _).tokens, (hrest _ _).ending⟩
termination_by cs.length

theorem ValueTree.scannedAlike_replaced {text other : String} (tree alone : ValueTree)
    {before behind : List Token}
    (h : (Cursor.ofText text).tokens.1 = before ++ (tree.yield ++ behind))
    (hother : Scans 0 other.toList alone.yield) :
    ScannedAlike kind (before ++ (alone.yield ++ behind), (Cursor.ofText text).tokens.2)
      (Cursor.ofText (replaced tree.value.span text (" " ++ other ++ " "))).tokens := by
  rcases tree.exists_slice h with
    ⟨front, gap, piece, back, htext, hgap, hfront, _, hback, hspan⟩
  rcases hother.exists_leads with ⟨inner, last, hinner, hlast, halone⟩
  have hspace : ∀ c ∈ [' '], isBlank c = true := List.forall_mem_singleton.mpr (by decide)
  have hreplaced : Cursor.ofText (replaced tree.value.span text (" " ++ other ++ " ")) =
      ⟨0, front ++ (gap ++ ' ' :: (inner ++ (last ++ ' ' :: back)))⟩ := by
    rw [← List.append_assoc] at htext
    rw [Cursor.ofText, hspan, toList_replaced htext]
    simp [hinner]
  have hbehind : ScannedAlike kind (behind, (Cursor.ofText text).tokens.2)
      (Cursor.mk (0 + byteLength inner) (last ++ ' ' :: back)).tokens := by
    have hmoved := @Cursor.scannedAlike_blank κ kind _
      (List.forall_mem_append.mpr ⟨hlast, hspace⟩) back
      (byteLength (front ++ (gap ++ piece))) (0 + byteLength inner)
    rwa [hback, List.append_assoc] at hmoved
  have hvalue := (halone.replace (.of_blank hlast last back)).tokens_eq
  have hmiddle : ScannedAlike kind (alone.yield ++ behind, (Cursor.ofText text).tokens.2)
      (Cursor.mk (0 + byteLength front)
        (gap ++ ' ' :: (inner ++ (last ++ ' ' :: back)))).tokens := by
    have hmoved := @Cursor.scannedAlike_blank κ kind _
      (List.forall_mem_append.mpr ⟨hgap, hspace⟩)
      (inner ++ (last ++ ' ' :: back)) 0 (0 + byteLength front)
    rw [hvalue, List.append_assoc] at hmoved
    exact (hbehind.append alone.yield).trans hmoved
  rw [hreplaced,
    (hfront.replace (.of_blank hgap _ (inner ++ (last ++ ' ' :: back)))).tokens_eq]
  exact hmiddle.append before

/-!
## Reading

The value that is overwritten can be exchanged for a word at the place of its name, without a change
of what is read. So nothing that is read starts inside the value.
-/

theorem Cursor.tokens_behind {bound : Nat} (cursor : Cursor) (hbound : bound ≤ cursor.offset) :
    (∀ token ∈ cursor.tokens.1, bound ≤ token.span.offset) ∧
      Ends (Points fun span => bound ≤ span.offset) (fun span => bound ≤ span.offset)
        cursor.tokens.2 := by
  rw [tokens_eq]
  rcases cursor.next_cases with
    ⟨_, hnext⟩ | ⟨gap, c, more, behind, outcome, hrest, _, _, _, hnext⟩
  · rw [hnext]
    exact ⟨List.forall_mem_nil _, .ok (Nat.le_trans hbound (Nat.le_add_right _ _))⟩
  · have hstart : bound ≤ cursor.offset + byteLength gap :=
      Nat.le_trans hbound (Nat.le_add_right _ _)
    rw [hnext]
    cases outcome with
    | error cause => exact ⟨List.forall_mem_nil _, .error (.located cause hstart)⟩
    | ok lexeme =>
        have hshorter : behind.length < cursor.rest.length := by
          simp only [hrest, List.length_append, List.length_cons]
          omega
        rcases tokens_behind ⟨cursor.offset + byteLength gap + byteLength (c :: more), behind⟩
          (Nat.le_trans hstart (Nat.le_add_right _ _)) with ⟨htokens, hending⟩
        exact ⟨List.forall_mem_cons.mpr ⟨hstart, htokens⟩, hending⟩
termination_by cursor.rest.length

namespace Overwriting

variable {text : String} (entry : Overwriting)
  (h : (Cursor.ofText text).tokens.1 = entry.yield)

include h

theorem ofText_eq (value : ValueTree) :
    Document.ofText text = State.start.read (Cursor.ofText text).tokens.2 (entry.yieldWith value) := by
  rw [entry.read_yieldWith, ← h]
  rfl

theorem agree_ofText {other : String} {alone : Value} (hother : alone.ReadAlone other) :
    Agree (SameKind kind) (fun document document' => document.bare = document'.bare)
      (Document.ofText text)
      (Document.ofText (replaced entry.value.value.span text (" " ++ other ++ " "))) := by
  rcases hother.scanned with ⟨span, hending⟩
  rcases hother.derived with ⟨tree, htree, _⟩
  have hscans := Scans.of_tokens hending
  rw [htree] at hscans
  rw [entry.ofText_eq h tree]
  exact (entry.value.scannedAlike_replaced tree h hscans).agree_read

theorem ends_ofText :
    Ends (Points fun span => ¬ entry.value.value.span.Covers span.offset)
      (Document.Within fun span => ¬ entry.value.value.span.Covers span.offset)
      (Document.ofText text) := by
  rcases entry.value.exists_slice h with
    ⟨front, gap, piece, back, _, _, hfront, _, hback, hspan⟩
  rcases Cursor.tokens_behind ⟨byteLength (front ++ (gap ++ piece)), back⟩ (Nat.le_refl _) with
    ⟨hbehind, hending⟩
  have hafter : ∀ span : Span, byteLength (front ++ (gap ++ piece)) ≤ span.offset →
      ¬ entry.value.value.span.Covers span.offset := by
    intro span hle hcovers
    simp only [hspan, Span.Covers, Span.stop, byteLength_append] at hle hcovers
    omega
  have hopening : ∀ token ∈ entry.opening, ¬ entry.value.value.span.Covers token.span.offset := by
    intro token htoken hcovers
    have hsolid := hfront.scans.ordered.solid token htoken
    have hstop := hfront.scans.stop_le token htoken
    simp only [hspan, Span.Covers, byteLength_append] at hstop hcovers
    omega
  rw [hback] at hbehind hending
  -- A word at the place of the name can stand for the value.
  rw [entry.ofText_eq h (.word entry.key.span entry.key.name)]
  apply State.ends_read
  · intro a b ha hb
    rw [Span.offset_cover, Nat.min_def]
    split
    · exact ha
    · exact hb
  · exact (hending.imp fun _ => Points.imp hafter).implies hafter
  · intro token htoken
    rcases List.mem_append.mp htoken with hmem | hmem
    · exact hopening token hmem
    · rcases List.mem_cons.mp hmem with rfl | hmem
      · exact hopening entry.key.token (by simp [opening])
      · exact hafter _ (hbehind token hmem)
  · trivial

end Overwriting

namespace Query

/-- Overwritten values have no influence. Let a text have two entries of one name in the same brackets,
at any depth, and go on in any way. If any other value is put in the place of the earlier one, between
blanks, then both texts are read as queries that differ in places only or refused for the same cause.
No fault and no part of the query starts inside the value that is overwritten. The text is read as if
the value that is left stood in the earlier entry, under its name, and the later one were not there. -/
theorem ofText_overwritten {text : String} (entry : Overwriting)
    (h : (Cursor.ofText text).tokens.1 = entry.yield) :
    (∀ (other : String) (alone : Value), alone.ReadAlone other →
      Agree SameCause (fun query query' => query.bare = query'.bare) (ofText text)
        (ofText (replaced entry.value.value.span text (" " ++ other ++ " ")))) ∧
    Ends
      (fun fault => ∃ span, fault.span = some span ∧ ¬ entry.value.value.span.Covers span.offset)
      (Query.Within fun span => ¬ entry.value.value.span.Covers span.offset) (ofText text) ∧
    (NoComma entry.rest → Document.ofText text =
      State.start.read (Cursor.ofText text).tokens.2 entry.resolved) := by
  refine ⟨?_, ?_, ?_⟩
  · intro other alone hother
    have hdocument := @Overwriting.agree_ofText _ id text entry h other alone hother
    exact agree_ofText_of_document hdocument
  · apply ((entry.ends_ofText h).bind fun document => ends_ofDocument).mapError
    intro fault hfault
    cases hfault with
    | located cause hspan => exact ⟨_, rfl, hspan⟩
  · intro hcomma
    rw [entry.ofText_eq h entry.value]
    exact entry.read_resolved _ hcomma

/-- A text with three values of one name. The first one makes no sense. -/
def overwrittenText : String :=
  "\x7bé(sum:\x7bk:\"v\"\x7d,avg:[\"b\"],sum:[],sum:[\"a\"])\x7bx\x7d\x7d"

def overwrittenSum : Overwriting where
  before := [Mark.openBrace.token ⟨0, 1⟩, Key.token ⟨"é", ⟨1, 2⟩⟩, Mark.openParen.token ⟨3, 1⟩]
  key := ⟨"sum", ⟨4, 3⟩⟩
  colon := ⟨7, 1⟩
  value := .object ⟨8, 1⟩ (.cons ⟨"k", ⟨9, 1⟩⟩ ⟨10, 1⟩ (.text ⟨11, 3⟩ "v") none .nil) ⟨14, 1⟩
  comma := some ⟨15, 1⟩
  between :=
    .cons ⟨"avg", ⟨16, 3⟩⟩ ⟨19, 1⟩
      (.list ⟨20, 1⟩ (.cons (.text ⟨21, 3⟩ "b") none .nil) ⟨24, 1⟩) (some ⟨25, 1⟩)
      (.cons ⟨"sum", ⟨26, 3⟩⟩ ⟨29, 1⟩ (.list ⟨30, 1⟩ .nil ⟨31, 1⟩) (some ⟨32, 1⟩) .nil)
  later := ⟨"sum", ⟨33, 3⟩⟩
  laterColon := ⟨36, 1⟩
  survivor := .list ⟨37, 1⟩ (.cons (.text ⟨38, 3⟩ "a") none .nil) ⟨41, 1⟩
  laterComma := none
  rest := [Mark.closeParen.token ⟨42, 1⟩, Mark.openBrace.token ⟨43, 1⟩, Key.token ⟨"x", ⟨44, 1⟩⟩,
    Mark.closeBrace.token ⟨45, 1⟩, Mark.closeBrace.token ⟨46, 1⟩]
  same_name := rfl

def overwrittenOther : ValueTree :=
  .text ⟨0, 4⟩ "é"

theorem ofText_overwritten_sum :
    (Cursor.ofText overwrittenText).tokens.1 = overwrittenSum.yield ∧
      Document.ofText overwrittenText = .ok
        ⟨⟨"é", ⟨1, 2⟩⟩, [(⟨"sum", ⟨4, 3⟩⟩, .list ⟨37, 5⟩ [.string ⟨38, 3⟩ "a"]),
          (⟨"avg", ⟨16, 3⟩⟩, .list ⟨20, 5⟩ [.string ⟨21, 3⟩ "b"])], ["x"]⟩ ∧
      Agree SameCause (fun query query' => query.bare = query'.bare) (ofText overwrittenText)
        (ofText "\x7bé(sum: \"é\" ,avg:[\"b\"],sum:[],sum:[\"a\"])\x7bx\x7d\x7d") := by
  have htokens : (Cursor.ofText overwrittenText).tokens.1 = overwrittenSum.yield := by
    decide +kernel
  have hending : (Cursor.ofText overwrittenText).tokens.2 = .ok ⟨47, 0⟩ :=
    eq_ok_of_toOption (by decide +kernel)
  have hother : overwrittenOther.value.ReadAlone "\"é\"" := by
    have hscanned : (Cursor.ofText "\"é\"").tokens.2 = .ok ⟨4, 0⟩ :=
      eq_ok_of_toOption (by decide +kernel)
    have hyield : (Cursor.ofText "\"é\"").tokens.1 = overwrittenOther.yield := by
      decide +kernel
    have hscans := Scans.of_tokens hscanned
    rw [hyield] at hscans
    have hread := overwrittenOther.readAlone hscans
    rwa [Cursor.ofText, String.ofList_toList] at hread
  have hreplaced : replaced overwrittenSum.value.value.span overwrittenText (" " ++ "\"é\"" ++ " ") =
      "\x7bé(sum: \"é\" ,avg:[\"b\"],sum:[],sum:[\"a\"])\x7bx\x7d\x7d" := by
    decide +kernel
  rcases ofText_overwritten overwrittenSum htokens with ⟨hagree, _, hresolved⟩
  refine ⟨htokens, ?_, ?_⟩
  · rw [hresolved (noComma_closer rfl _), hending]
    rfl
  · rw [← hreplaced]
    exact hagree "\"é\"" overwrittenOther.value hother

end Query

end Declarative
end TableQuery
