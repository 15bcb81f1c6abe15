import TableQuery.Proofs.Declarative.Spelling

/-!
# Partition

Scanning cuts a text into pieces. Every piece is a token or a fault, blanks stand between the pieces,
and behind the last piece scanning stays at the end of the text.
-/

namespace TableQuery

def Span.Covers (span : Span) (position : Nat) : Prop :=
  span.offset ≤ position ∧ position < span.stop

theorem utf8ByteSize_ofList (cs : List Char) : (String.ofList cs).utf8ByteSize = byteLength cs := by
  induction cs with
  | nil => rfl
  | cons c cs ih =>
      rw [String.ofList_cons, String.utf8ByteSize_append, String.utf8ByteSize_singleton, ih,
        byteLength_cons]

theorem byteLength_toList (text : String) : byteLength text.toList = text.utf8ByteSize := by
  rw [← utf8ByteSize_ofList, String.ofList_toList]

namespace Declarative

open Text (isBlank)

/-!
## What a piece says

There is one case for each way out of the scanner. The characters behind a piece count where the
piece has to be as long as possible.
-/

/-- The characters between two quotes, and the content they stand for: a backslash stands for the
character behind it, and no other quote is inside. -/
inductive Unescapes : List Char → List Char → Prop where
  | nil : Unescapes [] []
  | plain {c : Char} {body content : List Char} (hquote : c ≠ '"') (hslash : c ≠ '\\')
    (h : Unescapes body content) : Unescapes (c :: body) (c :: content)
  | escaped (c : Char) {body content : List Char} (h : Unescapes body content) :
    Unescapes ('\\' :: c :: body) (c :: content)

def isNumeral (literal : String) : Bool :=
  match literal.toList with
  | [] => false
  | c :: rest => isNumberStart c && rest.all isNumberPart

def startsLexeme (c : Char) : Bool :=
  (Mark.ofChar? c).isSome || c = '"' || isWordStart c || isNumberStart c

def StopsAt (p : Char → Bool) (behind : List Char) : Prop :=
  ∀ c ∈ behind.head?, p c = false

/-- What a piece says in front of other characters: a lexeme, or why there is none. -/
inductive Says : Except Cause Lexeme → List Char → List Char → Prop where
  | mark (mark : Mark) (behind : List Char) : Says (.ok (.mark mark)) [mark.char] behind
  | word {name : String} {behind : List Char} (hname : isWord name = true)
    (hstops : StopsAt isWordPart behind) : Says (.ok (.word name)) name.toList behind
  | number {literal : String} {value : Decimal} {behind : List Char}
    (hliteral : isNumeral literal = true) (hvalue : Decimal.ofChars? literal.toList = some value)
    (hstops : StopsAt isNumberPart behind) :
    Says (.ok (.number literal value)) literal.toList behind
  | text {content : String} {body : List Char} (hbody : Unescapes body content.toList)
    (behind : List Char) : Says (.ok (.text content)) ('"' :: (body ++ ['"'])) behind
  | unexpected {c : Char} (h : startsLexeme c = false) (behind : List Char) :
    Says (.error (.unexpectedCharacter c)) [c] behind
  | invalid {literal : String} {behind : List Char}
    (hliteral : isNumeral literal = true) (hvalue : Decimal.ofChars? literal.toList = none)
    (hstops : StopsAt isNumberPart behind) :
    Says (.error (.invalidNumber literal)) literal.toList behind
  | unterminated {body : List Char}
    (hopen : ∀ quoted content behind, Unescapes quoted content → body ≠ quoted ++ '"' :: behind) :
    Says (.error .unterminatedString) ('"' :: body) []

theorem stopsAt_dropWhile (p : Char → Bool) (cs : List Char) : StopsAt p (cs.dropWhile p) :=
  Text.head?_dropWhile p cs

theorem TextBody.unescapes {cs : List Char} {body : TextBody} (h : read? cs = some body) :
    ∃ quoted, body.taken = quoted ++ ['"'] ∧ Unescapes quoted body.content := by
  fun_induction read? cs generalizing body with
  | case1 => cases h
  | case2 rest =>
      cases h
      exact ⟨[], rfl, .nil⟩
  | case3 => cases h
  | case4 c rest ih =>
      rcases Option.map_eq_some_iff.mp h with ⟨inner, hinner, heq⟩
      rcases ih hinner with ⟨quoted, htaken, hunescapes⟩
      subst heq
      exact ⟨'\\' :: c :: quoted, by simp [htaken], .escaped c hunescapes⟩
  | case5 c rest hquote hend hescape ih =>
      rcases Option.map_eq_some_iff.mp h with ⟨inner, hinner, heq⟩
      rcases ih hinner with ⟨quoted, htaken, hunescapes⟩
      subst heq
      have hslash : c ≠ '\\' := by
        intro hc
        cases rest with
        | nil => exact hend hc rfl
        | cons d rest => exact hescape d rest hc rfl
      exact ⟨c :: quoted, by simp [htaken], .plain hquote hslash hunescapes⟩

theorem TextBody.read?_of_unescapes {quoted content : List Char} (h : Unescapes quoted content)
    (behind : List Char) :
    read? (quoted ++ '"' :: behind) = some ⟨content, quoted ++ ['"'], behind⟩ := by
  induction h with
  | nil => rfl
  | @plain c body content hquote hslash _ ih =>
      have hread : read? (c :: (body ++ '"' :: behind)) =
          (read? (body ++ '"' :: behind)).map fun found =>
            ⟨c :: found.content, c :: found.taken, found.rest⟩ := by
        rw [read?.eq_5]
        · exact hquote
        · exact fun heq _ => hslash heq
        · exact fun _ _ heq _ => hslash heq
      rw [List.cons_append, hread, ih]
      rfl
  | escaped c _ ih =>
      rw [List.cons_append, List.cons_append, read?, ih]
      rfl

theorem says_scanText (rest : List Char) :
    Says (scanText rest).outcome (scanText rest).taken (scanText rest).rest := by
  unfold scanText
  split
  · rename_i body hbody
    rcases TextBody.unescapes hbody with ⟨quoted, htaken, hunescapes⟩
    simp only [htaken]
    exact .text (by rwa [String.toList_ofList]) body.rest
  · rename_i hnone
    apply Says.unterminated
    intro quoted content behind hunescapes hrest
    rw [hrest, TextBody.read?_of_unescapes hunescapes] at hnone
    cases hnone

theorem says_scanWord {c : Char} (h : isWordStart c = true) (rest : List Char) :
    Says (scanWord c rest).outcome (scanWord c rest).taken (scanWord c rest).rest := by
  have hname : isWord (.ofList (c :: rest.takeWhile isWordPart)) = true := by
    simp only [isWord, String.toList_ofList, h, List.all_takeWhile, Bool.and_self]
  have hword := Says.word hname (stopsAt_dropWhile isWordPart rest)
  rwa [String.toList_ofList] at hword

theorem says_scanNumber {c : Char} (h : isNumberStart c = true) (rest : List Char) :
    Says (scanNumber c rest).outcome (scanNumber c rest).taken (scanNumber c rest).rest := by
  have hstops := stopsAt_dropWhile isNumberPart rest
  have hliteral : isNumeral (.ofList (c :: rest.takeWhile isNumberPart)) = true := by
    simp only [isNumeral, String.toList_ofList, h, List.all_takeWhile, Bool.and_self]
  simp only [scanNumber]
  generalize c :: rest.takeWhile isNumberPart = taken at hliteral
  have htaken : (String.ofList taken).toList = taken := String.toList_ofList
  cases hvalue : Decimal.ofChars? taken with
  | some value =>
      rw [← htaken] at hvalue
      have hnumber := Says.number hliteral hvalue hstops
      rwa [htaken] at hnumber
  | none =>
      rw [← htaken] at hvalue
      have hinvalid := Says.invalid hliteral hvalue hstops
      rwa [htaken] at hinvalid

theorem says_scan (c : Char) (rest : List Char) :
    Says (scan c rest).outcome (scan c rest).taken (scan c rest).rest := by
  unfold scan
  split
  · rename_i mark hmark
    rw [Mark.eq_char_of_ofChar? hmark]
    exact .mark mark rest
  · rename_i hmark
    split
    · exact says_scanText rest
    · rename_i hquote
      split
      · rename_i hword
        exact says_scanWord hword rest
      · rename_i hword
        split
        · rename_i hnumber
          exact says_scanNumber hnumber rest
        · rename_i hnumber
          exact .unexpected (by simp [startsLexeme, hmark, hquote, hword, hnumber]) rest

/-!
## One item

Either only blanks are left, or the next item takes a piece behind a gap of blanks.
-/

def Item.ofOutcome (span : Span) : Except Cause Lexeme → Item
  | .ok lexeme => .token ⟨lexeme, span⟩
  | .error cause => .fault (.located cause span)

def Item.span : Item → Span
  | .token found => found.span
  | .fault found => found.span.getD default
  | .finish span => span

theorem Item.span_ofOutcome (span : Span) (outcome : Except Cause Lexeme) :
    (Item.ofOutcome span outcome).span = span := by
  cases outcome <;> rfl

theorem exists_taken_scan (c : Char) (rest : List Char) :
    ∃ more, (scan c rest).taken = c :: more := by
  have hsome : (scan c rest).taken ≠ [] := by
    intro hnil
    have happend := taken_append_rest_scan c rest
    have hlength := length_rest_scan c rest
    rw [hnil, List.nil_append] at happend
    rw [happend, List.length_cons] at hlength
    omega
  cases htaken : (scan c rest).taken with
  | nil => exact absurd htaken hsome
  | cons d more =>
      have happend := taken_append_rest_scan c rest
      rw [htaken, List.cons_append, List.cons.injEq] at happend
      exact ⟨more, by rw [happend.1]⟩

namespace Cursor

theorem next_cases (cursor : Cursor) :
    ((∀ c ∈ cursor.rest, isBlank c = true) ∧
      cursor.next = (.finish ⟨cursor.offset + byteLength cursor.rest, 0⟩,
        ⟨cursor.offset + byteLength cursor.rest, []⟩)) ∨
    ∃ gap c more behind outcome, cursor.rest = gap ++ (c :: more ++ behind) ∧
      (∀ d ∈ gap, isBlank d = true) ∧ isBlank c = false ∧ Says outcome (c :: more) behind ∧
      cursor.next = (.ofOutcome ⟨cursor.offset + byteLength gap, byteLength (c :: more)⟩ outcome,
        ⟨cursor.offset + byteLength gap + byteLength (c :: more), behind⟩) := by
  have hrest : cursor.rest.takeWhile isBlank ++ cursor.rest.dropWhile isBlank = cursor.rest :=
    List.takeWhile_append_dropWhile
  have hgap : ∀ d ∈ cursor.rest.takeWhile isBlank, isBlank d = true :=
    fun d hd => List.all_eq_true.mp List.all_takeWhile d hd
  cases hdrop : cursor.rest.dropWhile isBlank with
  | nil =>
      left
      rw [hdrop, List.append_nil] at hrest
      rw [hrest] at hgap
      constructor
      · exact hgap
      · simp only [next, skipBlanks, hdrop, hrest]
  | cons c rest =>
      right
      have hsolid : isBlank c = false := stopsAt_dropWhile isBlank cursor.rest c (by simp [hdrop])
      rcases exists_taken_scan c rest with ⟨more, htaken⟩
      refine ⟨cursor.rest.takeWhile isBlank, c, more, (scan c rest).rest, (scan c rest).outcome,
        ?_, hgap, hsolid, ?_, ?_⟩
      · rw [← htaken, taken_append_rest_scan, ← hdrop, hrest]
      · rw [← htaken]
        exact says_scan c rest
      · rw [← htaken]
        simp only [next, skipBlanks, hdrop]
        cases (scan c rest).outcome <;> rfl

/-!
## All items

The items of a text are read by going on behind each item, behind a fault as well as behind a token.
-/

def after (cursor : Cursor) : Nat → Cursor
  | 0 => cursor
  | n + 1 => (cursor.after n).next.2

/-- The item behind a number of other items. -/
def item (cursor : Cursor) (n : Nat) : Item :=
  (cursor.after n).next.1

theorem after_succ (cursor : Cursor) (n : Nat) : cursor.after (n + 1) = cursor.next.2.after n := by
  induction n with
  | zero => rfl
  | succ n ih => rw [after, ih, after]

theorem item_succ (cursor : Cursor) (n : Nat) : cursor.item (n + 1) = cursor.next.2.item n := by
  rw [item, after_succ, item]

theorem offset_le_span_next (cursor : Cursor) : cursor.offset ≤ cursor.next.1.span.offset := by
  rcases cursor.next_cases with ⟨_, hnext⟩ | ⟨gap, c, more, behind, outcome, _, _, _, _, hnext⟩
  · rw [hnext]
    exact Nat.le_add_right _ _
  · rw [hnext, Item.span_ofOutcome]
    exact Nat.le_add_right _ _

theorem stop_span_next (cursor : Cursor) : cursor.next.1.span.stop = cursor.next.2.offset := by
  rcases cursor.next_cases with ⟨_, hnext⟩ | ⟨gap, c, more, behind, outcome, _, _, _, _, hnext⟩
  · rw [hnext]
    rfl
  · rw [hnext, Item.span_ofOutcome]
    rfl

theorem offset_after_le (cursor : Cursor) {m n : Nat} (h : m ≤ n) :
    (cursor.after m).offset ≤ (cursor.after n).offset := by
  induction h with
  | refl => exact Nat.le_refl _
  | @step n _ ih =>
      have hspan := (cursor.after n).offset_le_span_next
      have hstop := (cursor.after n).stop_span_next
      rw [Span.stop] at hstop
      rw [after]
      omega

/-- A cursor stands in a text: its offset counts the bytes in front of it, and its characters are
those behind it. -/
def StandsIn (text : String) (cursor : Cursor) : Prop :=
  ∃ before, text.toList = before ++ cursor.rest ∧ cursor.offset = byteLength before

theorem StandsIn.next {text : String} {cursor : Cursor} (h : cursor.StandsIn text) :
    cursor.next.2.StandsIn text := by
  rcases h with ⟨before, htext, hoffset⟩
  rcases cursor.next_cases with ⟨_, hnext⟩ | ⟨gap, c, more, behind, outcome, hrest, _, _, _, hnext⟩
  · rw [hnext]
    refine ⟨before ++ cursor.rest, ?_, ?_⟩
    · rw [htext, List.append_nil]
    · rw [byteLength_append, hoffset]
  · rw [hnext]
    refine ⟨before ++ gap ++ (c :: more), ?_, ?_⟩
    · simp only [htext, hrest, List.append_assoc]
    · simp only [byteLength_append, hoffset]

theorem standsIn_after (text : String) (n : Nat) : ((ofText text).after n).StandsIn text := by
  induction n with
  | zero => exact ⟨[], rfl, rfl⟩
  | succ n ih => exact ih.next

def Ended (cursor : Cursor) : Prop :=
  ∀ c ∈ cursor.rest, isBlank c = true

instance (cursor : Cursor) : Decidable cursor.Ended :=
  decidable_of_iff (cursor.rest.all isBlank = true) List.all_eq_true

theorem Ended.next_eq {cursor : Cursor} (h : cursor.Ended) :
    cursor.next = (.finish ⟨cursor.offset + byteLength cursor.rest, 0⟩,
      ⟨cursor.offset + byteLength cursor.rest, []⟩) := by
  rcases cursor.next_cases with ⟨_, hnext⟩ | ⟨gap, c, more, behind, outcome, hrest, _, hsolid, _, _⟩
  · exact hnext
  · have hblank := h c (by simp [hrest])
    rw [hblank] at hsolid
    cases hsolid

theorem Ended.after {cursor : Cursor} {m n : Nat} (h : (cursor.after m).Ended) (hle : m ≤ n) :
    (cursor.after n).Ended := by
  induction hle with
  | refl => exact h
  | step _ ih =>
      rw [Cursor.after, ih.next_eq]
      intro c hc
      cases hc

theorem Ended.item {text : String} {n : Nat} (h : ((ofText text).after n).Ended) :
    (ofText text).item n = .finish ⟨text.utf8ByteSize, 0⟩ := by
  rcases standsIn_after text n with ⟨before, htext, hoffset⟩
  rw [Cursor.item, h.next_eq, hoffset, ← byteLength_append, ← htext, byteLength_toList]

theorem exists_ended (cursor : Cursor) :
    ∃ count ≤ cursor.rest.length, (cursor.after count).Ended ∧
      ∀ n < count, ¬ (cursor.after n).Ended := by
  by_cases hended : cursor.Ended
  · exact ⟨0, Nat.zero_le _, hended, fun n hn => absurd hn (Nat.not_lt_zero n)⟩
  · have hshorter : cursor.next.2.rest.length < cursor.rest.length := by
      rcases cursor.next_cases with ⟨hblank, _⟩ | ⟨gap, c, more, behind, outcome, hrest, _, _, _, hnext⟩
      · exact absurd hblank hended
      · simp only [hnext, hrest, List.length_append, List.length_cons]
        omega
    rcases cursor.next.2.exists_ended with ⟨count, hcount, hlast, hbefore⟩
    refine ⟨count + 1, by omega, ?_, ?_⟩
    · rw [after_succ]
      exact hlast
    · intro n hn
      cases n with
      | zero => exact hended
      | succ n =>
          rw [after_succ]
          exact hbefore n (by omega)
termination_by cursor.rest.length

theorem exists_piece {text : String} {n : Nat} (h : ¬ ((ofText text).after n).Ended) :
    ∃ before c more behind outcome, text.toList = before ++ (c :: more ++ behind) ∧
      isBlank c = false ∧ Says outcome (c :: more) behind ∧
      (ofText text).item n = .ofOutcome ⟨byteLength before, byteLength (c :: more)⟩ outcome := by
  rcases standsIn_after text n with ⟨before, htext, hoffset⟩
  rcases ((ofText text).after n).next_cases with
    ⟨hblank, _⟩ | ⟨gap, c, more, behind, outcome, hrest, _, hsolid, hsays, hnext⟩
  · exact absurd hblank h
  · refine ⟨before ++ gap, c, more, behind, outcome, ?_, hsolid, hsays, ?_⟩
    · rw [htext, hrest, List.append_assoc]
    · rw [item, hnext, hoffset, byteLength_append]

theorem append_cons_cases {before behind front back : List Char} {c : Char}
    (h : before ++ c :: behind = front ++ back) :
    (∃ more, front = before ++ c :: more) ∨
      ∃ more, before = front ++ more ∧ back = more ++ c :: behind := by
  rcases List.append_eq_append_iff.mp h with ⟨more, hfront, hmore⟩ | ⟨more, hbefore, hback⟩
  · cases more with
    | nil => exact Or.inr ⟨[], by simp [hfront], by simpa using hmore.symm⟩
    | cons d more =>
        cases hmore
        exact Or.inl ⟨more, hfront⟩
  · exact Or.inr ⟨more, hbefore, hback⟩

/-- A character that no item covers is a blank. The induction is on the number of items that are left,
so the character is looked for behind the cursor. -/
theorem isBlank_of_not_covers (count : Nat) (cursor : Cursor) (hended : (cursor.after count).Ended)
    {before behind : List Char} {c : Char} (hrest : cursor.rest = before ++ c :: behind)
    (huncovered : ∀ n < count, ¬ (cursor.item n).span.Covers (cursor.offset + byteLength before)) :
    isBlank c = true := by
  induction count generalizing cursor before with
  | zero => exact hended c (by simp [after, hrest])
  | succ count ih =>
      rcases cursor.next_cases with
        ⟨hblank, _⟩ | ⟨gap, first, more, left, outcome, hpiece, hgap, _, _, hnext⟩
      · exact hblank c (by simp [hrest])
      · rw [hrest] at hpiece
        rcases append_cons_cases hpiece with ⟨_, hin⟩ | ⟨behindGap, hbefore, hpiece⟩
        · exact hgap c (by simp [hin])
        · rcases append_cons_cases hpiece.symm with ⟨tail, hin⟩ | ⟨behindPiece, hbehindGap, hleft⟩
          · have hcovers : (cursor.item 0).span.Covers (cursor.offset + byteLength before) := by
              have hsize := c.utf8Size_pos
              have hitem : cursor.item 0 = .ofOutcome
                  ⟨cursor.offset + byteLength gap, byteLength (first :: more)⟩ outcome := by
                rw [item, after, hnext]
              rw [hitem, Item.span_ofOutcome, hin, hbefore]
              simp only [Span.Covers, Span.stop, byteLength_append, byteLength_cons]
              omega
            exact absurd hcovers (huncovered 0 (Nat.zero_lt_succ count))
          · rw [after_succ] at hended
            have hleft' : cursor.next.2.rest = behindPiece ++ c :: behind := by
              rw [hnext, hleft]
            have hposition : cursor.next.2.offset + byteLength behindPiece =
                cursor.offset + byteLength before := by
              rw [hnext, hbefore, hbehindGap]
              simp only [byteLength_append, Nat.add_assoc]
            apply ih cursor.next.2 hended hleft'
            intro n hn
            rw [hposition, ← item_succ]
            exact huncovered (n + 1) (Nat.succ_lt_succ hn)

end Cursor

/-!
## The partition of a text
-/

/-- A text is cut into its first items. Behind them there is only the end of the text. Each of them
stands where its piece does, and says what the piece says. They stand one behind the other, and all
characters between them are blanks. -/
structure Partition (text : String) (item : Nat → Item) (count : Nat) : Prop where
  finish : ∀ n, count ≤ n → item n = .finish ⟨text.utf8ByteSize, 0⟩
  piece : ∀ n < count, ∃ before c more behind outcome,
    text.toList = before ++ (c :: more ++ behind) ∧ isBlank c = false ∧
    Says outcome (c :: more) behind ∧
    item n = .ofOutcome ⟨byteLength before, byteLength (c :: more)⟩ outcome
  ordered : ∀ m n, m < n → n < count → (item m).span.stop ≤ (item n).span.offset
  nonempty : ∀ n < count, 0 < (item n).span.length
  blank : ∀ before c behind, text.toList = before ++ c :: behind →
    (∀ n < count, ¬ (item n).span.Covers (byteLength before)) → isBlank c = true

/-- Scanning cuts every text into at most as many items as it has characters. -/
theorem Cursor.partition_items (text : String) :
    ∃ count ≤ text.length, Partition text (Cursor.ofText text).item count := by
  rcases (ofText text).exists_ended with ⟨count, hcount, hended, hbefore⟩
  have hlength : (ofText text).rest.length = text.length := String.length_toList
  rw [hlength] at hcount
  refine ⟨count, hcount, ?_⟩
  constructor
  · intro n hn
    exact (hended.after hn).item
  · intro n hn
    exact exists_piece (hbefore n hn)
  · intro m n hmn _
    rw [item, item, stop_span_next]
    exact Nat.le_trans ((ofText text).offset_after_le hmn) (offset_le_span_next _)
  · intro n hn
    rcases exists_piece (hbefore n hn) with ⟨before, c, more, behind, outcome, _, _, _, hitem⟩
    have hsize := c.utf8Size_pos
    rw [hitem, Item.span_ofOutcome, byteLength_cons]
    exact Nat.add_pos_left hsize _
  · intro before c behind htext huncovered
    apply isBlank_of_not_covers count (ofText text) hended htext
    intro n hn
    have hoffset : (ofText text).offset + byteLength before = byteLength before := Nat.zero_add _
    rw [hoffset]
    exact huncovered n hn

end Declarative
end TableQuery
