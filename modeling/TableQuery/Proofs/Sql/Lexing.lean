import TableQuery.Proofs.Decimal.PlainNotation
import TableQuery.Sql.Name

/-!
# Lexemes of statements

A statement is read back in two steps, and the first cuts its text into lexemes: words, literals of
texts and numbers, and symbols. The rules are those of SQL. A literal of a text ends at the first
apostrophe that is not doubled, and a doubled apostrophe is the only escape. Words and numbers are as
long as they can be, and blanks between lexemes say nothing.
-/

namespace TableQuery
namespace Sql

inductive Symbol where
  | openParen
  | closeParen
  | comma
  | star
  | equal
  | notEqual
  | less
  | lessEqual
  | greater
  | greaterEqual
deriving DecidableEq, Repr

inductive Lexeme where
  | word (name : String)
  | text (content : String)
  | number (value : Decimal)
  | symbol (symbol : Symbol)
deriving DecidableEq, Repr

/-!
## Cutting a text

A symbol, a word and a number are as long as they can be. A character that starts no lexeme leaves
the text without lexemes, and every lexeme takes a character, so cutting ends.
-/

def symbol? : List Char → Option (Symbol × List Char)
  | '(' :: rest => some (.openParen, rest)
  | ')' :: rest => some (.closeParen, rest)
  | ',' :: rest => some (.comma, rest)
  | '*' :: rest => some (.star, rest)
  | '=' :: rest => some (.equal, rest)
  | '!' :: '=' :: rest => some (.notEqual, rest)
  | '<' :: '=' :: rest => some (.lessEqual, rest)
  | '<' :: rest => some (.less, rest)
  | '>' :: '=' :: rest => some (.greaterEqual, rest)
  | '>' :: rest => some (.greater, rest)
  | _ => none

def textBody? : List Char → Option (List Char × List Char)
  | [] => none
  | '\'' :: '\'' :: rest => (textBody? rest).map fun body => ('\'' :: body.1, body.2)
  | '\'' :: rest => some ([], rest)
  | c :: rest => (textBody? rest).map fun body => (c :: body.1, body.2)

def isNumeralStart (c : Char) : Bool :=
  c.isDigit || c = '-'

def isNumeralPart (c : Char) : Bool :=
  c.isDigit || c = '.'

/-- The decimal that characters write in plain notation, with the sign, the digits and the places
that stand there. -/
def numeral? (cs : List Char) : Option Decimal :=
  match Decimal.Literal.ofChars? cs with
  | some literal =>
    let magnitude := Decimal.digitsValue (literal.whole ++ literal.fraction)
    if h : literal.exponent = 0 ∧ magnitude ≤ Decimal.maxMagnitude ∧
        literal.fraction.length ≤ Decimal.maxScale then
      some ⟨literal.negative, magnitude, literal.fraction.length, h.2.1, h.2.2⟩
    else none
  | none => none

def lexeme? : List Char → Option (Lexeme × List Char)
  | [] => none
  | c :: rest =>
    if c = '\'' then (textBody? rest).map fun body => (.text (.ofList body.1), body.2)
    else if isNameStart c then
      some (.word (.ofList (c :: rest.takeWhile isNamePart)), rest.dropWhile isNamePart)
    else if isNumeralStart c then
      (numeral? (c :: rest.takeWhile isNumeralPart)).map fun value =>
        (.number value, rest.dropWhile isNumeralPart)
    else (symbol? (c :: rest)).map fun found => (.symbol found.1, found.2)

theorem length_symbol? {cs rest : List Char} {symbol : Symbol}
    (h : symbol? cs = some (symbol, rest)) : rest.length < cs.length := by
  unfold symbol? at h
  split at h
  all_goals
    first
      | cases h
        simp only [List.length_cons]
        omega
      | cases h

theorem length_textBody? {cs rest content : List Char}
    (h : textBody? cs = some (content, rest)) : rest.length < cs.length := by
  fun_induction textBody? cs generalizing content with
  | case1 => cases h
  | case2 tail ih =>
      rcases Option.map_eq_some_iff.mp h with ⟨body, hbody, heq⟩
      cases heq
      have hlength := ih hbody
      simp only [List.length_cons]
      omega
  | case3 tail _ =>
      cases h
      simp
  | case4 c tail _ _ ih =>
      rcases Option.map_eq_some_iff.mp h with ⟨body, hbody, heq⟩
      cases heq
      have hlength := ih hbody
      simp only [List.length_cons]
      omega

theorem length_lexeme? {cs rest : List Char} {lexeme : Lexeme}
    (h : lexeme? cs = some (lexeme, rest)) : rest.length < cs.length := by
  unfold lexeme? at h
  split at h
  · cases h
  · rename_i c tail
    rw [List.length_cons, Nat.lt_succ_iff]
    split at h
    · rcases Option.map_eq_some_iff.mp h with ⟨body, hbody, heq⟩
      cases heq
      exact Nat.le_of_lt (length_textBody? hbody)
    · split at h
      · cases h
        exact (List.dropWhile_suffix isNamePart).length_le
      · split at h
        · rcases Option.map_eq_some_iff.mp h with ⟨value, _hvalue, heq⟩
          cases heq
          exact (List.dropWhile_suffix isNumeralPart).length_le
        · rcases Option.map_eq_some_iff.mp h with ⟨found, hfound, heq⟩
          cases heq
          exact Nat.lt_succ_iff.mp (length_symbol? hfound)

def lexemes? (cs : List Char) : Option (List Lexeme) :=
  match _hstart : cs.dropWhile Char.isWhitespace with
  | [] => some []
  | c :: tail =>
    match _hlexeme : lexeme? (c :: tail) with
    | none => none
    | some (lexeme, rest) => (lexemes? rest).map (lexeme :: ·)
termination_by cs.length
decreasing_by
  have hblank := (List.dropWhile_suffix (l := cs) Char.isWhitespace).length_le
  have hrest := length_lexeme? _hlexeme
  rw [_hstart] at hblank
  omega

/-!
## Lexemes that stand alone

A lexeme ends where a blank, a comma or a parenthesis stands, or where the text ends. So characters
that give some lexemes in front of one such place give the same lexemes in front of any other.
-/

def isStop (c : Char) : Bool :=
  c = ' ' || c = ',' || c = '(' || c = ')'

def Stops (rest : List Char) : Prop :=
  ∀ c ∈ rest.head?, isStop c = true

/-- Characters that are these lexemes wherever the lexeme in front of the rest ends. -/
def Lexes (cs : List Char) (lexemes : List Lexeme) : Prop :=
  ∀ rest, Stops rest → lexemes? (cs ++ rest) = (lexemes? rest).map (lexemes ++ ·)

theorem stops_nil : Stops [] := by
  intro c hc
  simp at hc

theorem stops_cons {c : Char} (rest : List Char) (h : isStop c = true) : Stops (c :: rest) := by
  intro d hd
  simp only [List.head?_cons, Option.mem_def, Option.some.injEq] at hd
  rw [← hd]
  exact h

theorem lexemes?_nil : lexemes? [] = some [] := by
  rw [lexemes?]
  simp

theorem lexemes?_blank (cs : List Char) : lexemes? (' ' :: cs) = lexemes? cs := by
  rw [lexemes?, lexemes?]
  have hblank : (' ' :: cs).dropWhile Char.isWhitespace = cs.dropWhile Char.isWhitespace := by
    simp [List.dropWhile]
  rw [hblank]

theorem lexeme?_of_isWhitespace {c : Char} (rest : List Char) (h : c.isWhitespace = true) :
    lexeme? (c :: rest) = none := by
  simp only [Char.isWhitespace, Bool.or_eq_true, decide_eq_true_eq] at h
  rcases h with ((rfl | rfl) | rfl) | rfl
  all_goals rfl

theorem lexemes?_of_lexeme? {cs rest : List Char} {lexeme : Lexeme}
    (h : lexeme? cs = some (lexeme, rest)) :
    lexemes? cs = (lexemes? rest).map (lexeme :: ·) := by
  cases cs with
  | nil => cases h
  | cons c tail =>
      have hblank : c.isWhitespace = false := by
        cases hc : c.isWhitespace with
        | true =>
            rw [lexeme?_of_isWhitespace tail hc] at h
            cases h
        | false => rfl
      have hstart : (c :: tail).dropWhile Char.isWhitespace = c :: tail := by
        simp [List.dropWhile, hblank]
      rw [lexemes?]
      split
      · rename_i hnil
        rw [hstart] at hnil
        cases hnil
      · rename_i c' tail' hcons
        rw [hstart] at hcons
        cases hcons
        split
        · rename_i hnone
          rw [h] at hnone
          cases hnone
        · rename_i hsome
          rw [h] at hsome
          cases hsome
          rfl

/-!
## Words, texts and numbers

A plain name is one word, a decimal is one number, and a literal is one text whatever its content
is: the apostrophes inside are all doubled, so it ends at its own last one.
-/

theorem isNamePart_of_isStop {c : Char} (h : isStop c = true) : isNamePart c = false := by
  simp only [isStop, Bool.or_eq_true, decide_eq_true_eq] at h
  rcases h with ((rfl | rfl) | rfl) | rfl
  all_goals rfl

theorem isNumeralPart_of_isStop {c : Char} (h : isStop c = true) : isNumeralPart c = false := by
  simp only [isStop, Bool.or_eq_true, decide_eq_true_eq] at h
  rcases h with ((rfl | rfl) | rfl) | rfl
  all_goals rfl

theorem lexeme?_name {cs rest : List Char} (hname : isPlainChars cs = true) (hrest : Stops rest) :
    lexeme? (cs ++ rest) = some (.word (.ofList cs), rest) := by
  cases cs with
  | nil => cases hname
  | cons c tail =>
      simp only [isPlainChars, Bool.and_eq_true, List.all_eq_true] at hname
      have hquote : c ≠ '\'' := by
        intro heq
        rw [heq] at hname
        exact absurd hname.1 (by decide)
      have hrun := Text.takeWhile_dropWhile_append hname.2
        (fun d hd => isNamePart_of_isStop (hrest d hd))
      simp only [List.cons_append, lexeme?, hquote, if_false, hname.1, if_true, hrun.1, hrun.2]

theorem textBody?_cons {c : Char} (h : c ≠ '\'') (rest : List Char) :
    textBody? (c :: rest) = (textBody? rest).map fun body => (c :: body.1, body.2) := by
  rw [textBody?]
  · intro _ hquote
    exact absurd hquote h
  · intro hquote
    exact absurd hquote h

theorem textBody?_doubled (cs : List Char) {rest : List Char} (hrest : Stops rest) :
    textBody? (doubled cs ++ '\'' :: rest) = some (cs, rest) := by
  induction cs with
  | nil =>
      cases rest with
      | nil => rfl
      | cons c rest =>
          have hquote : c ≠ '\'' := by
            intro heq
            have hc := hrest c (by simp)
            rw [heq] at hc
            exact absurd hc (by decide)
          simp only [doubled, List.nil_append]
          rw [textBody?]
          intro tail heq
          cases heq
          exact hquote rfl
  | cons c cs ih =>
      by_cases hquote : c = '\''
      · simp only [doubled, hquote, if_true, List.cons_append, textBody?, ih, Option.map_some]
      · simp only [doubled, hquote, if_false, List.cons_append]
        rw [textBody?_cons hquote, ih]
        rfl

theorem numeral?_chars (d : Decimal) : numeral? d.chars = some d := by
  have hvalue : Decimal.digitsValue (d.wholeDigits ++ d.fractionDigits) = d.magnitude := by
    rw [Decimal.wholeDigits_append_fractionDigits, Decimal.digitsValue_paddedDigits]
  have hscale := d.length_fractionDigits
  have hbounds : True ∧ d.magnitude ≤ Decimal.maxMagnitude ∧ d.scale ≤ Decimal.maxScale :=
    ⟨trivial, d.magnitude_le, d.scale_le⟩
  unfold numeral?
  rw [Decimal.Literal.ofChars?_chars]
  simp only [hvalue, hscale]
  rw [dif_pos hbounds]

theorem isNameStart_of_isDigit {c : Char} (h : c.isDigit = true) : isNameStart c = false := by
  simp only [Char.isDigit, Bool.and_eq_true, decide_eq_true_eq] at h
  have hunder : c ≠ '_' := by
    rintro rfl
    exact absurd h (by decide)
  have halpha : c.isAlpha = (decide (c.val ≥ 'A'.val ∧ c.val ≤ 'Z'.val) ||
      (decide (c.val ≥ 'a'.val) && decide (c.val ≤ 'z'.val))) := rfl
  simp only [isNameStart, halpha, hunder, decide_false, Bool.or_false, Bool.or_eq_false_iff,
    Bool.and_eq_false_iff, decide_eq_false_iff_not]
  have hnine : c.val ≤ 57 := h.2
  constructor
  · intro hupper
    exact absurd (UInt32.le_trans hupper.1 hnine) (by decide)
  · left
    intro hlower
    exact absurd (UInt32.le_trans hlower hnine) (by decide)

theorem lexeme?_number (d : Decimal) {rest : List Char} (hrest : Stops rest) :
    lexeme? (d.chars ++ rest) = some (.number d, rest) := by
  have hread := numeral?_chars d
  rcases d.chars_eq_cons with ⟨c, tail, hchars, hstart, htail⟩
  rw [hchars] at hread ⊢
  have hquote : c ≠ '\'' := by
    rcases hstart with hdigit | hminus
    · intro heq
      rw [heq] at hdigit
      exact absurd hdigit (by decide)
    · rw [hminus]
      decide
  have hname : isNameStart c = false := by
    rcases hstart with hdigit | hminus
    · exact isNameStart_of_isDigit hdigit
    · rw [hminus]
      rfl
  have hnumeral : isNumeralStart c = true := by
    rcases hstart with hdigit | hminus
    · simp [isNumeralStart, hdigit]
    · simp [isNumeralStart, hminus]
  have hparts : ∀ x ∈ tail, isNumeralPart x = true := by
    intro x hx
    rcases htail x hx with hdigit | hpoint
    · simp [isNumeralPart, hdigit]
    · simp [isNumeralPart, hpoint]
  have hrun := Text.takeWhile_dropWhile_append hparts
    (fun x hx => isNumeralPart_of_isStop (hrest x hx))
  simp only [List.cons_append, lexeme?, hquote, if_false, hname, hnumeral, if_true, hrun.1,
    hrun.2, hread, Option.map_some]
  rfl

namespace Lexes

theorem of_lexeme? {cs : List Char} {lexeme : Lexeme}
    (h : ∀ rest, Stops rest → lexeme? (cs ++ rest) = some (lexeme, rest)) :
    Lexes cs [lexeme] := by
  intro rest hrest
  exact lexemes?_of_lexeme? (h rest hrest)

theorem nil : Lexes [] [] := by
  intro rest _hrest
  simp

theorem blank {cs : List Char} {lexemes : List Lexeme} (h : Lexes cs lexemes) :
    Lexes (' ' :: cs) lexemes := by
  intro rest hrest
  rw [List.cons_append, lexemes?_blank]
  exact h rest hrest

theorem append {cs ds : List Char} {left right : List Lexeme} (hleft : Lexes cs left)
    (hright : Lexes ds right) (hstop : ∀ rest, Stops rest → Stops (ds ++ rest)) :
    Lexes (cs ++ ds) (left ++ right) := by
  intro rest hrest
  rw [List.append_assoc, hleft (ds ++ rest) (hstop rest hrest), hright rest hrest,
    Option.map_map]
  congr 1
  funext lexemes
  exact (List.append_assoc left right lexemes).symm

theorem append_blank {cs ds : List Char} {left right : List Lexeme} (hleft : Lexes cs left)
    (hright : Lexes ds right) : Lexes (cs ++ ' ' :: ds) (left ++ right) :=
  append hleft hright.blank fun _ _ => stops_cons _ rfl

def Behind (cs : List Char) (lexemes : List Lexeme) : Prop :=
  Lexes cs lexemes ∧ ∀ rest, Stops rest → Stops (cs ++ rest)

theorem append_behind {cs ds : List Char} {left right : List Lexeme} (hleft : Lexes cs left)
    (hright : Behind ds right) : Lexes (cs ++ ds) (left ++ right) :=
  append hleft hright.1 hright.2

theorem Behind.append {cs ds : List Char} {left right : List Lexeme} (hleft : Behind cs left)
    (hright : Behind ds right) : Behind (cs ++ ds) (left ++ right) := by
  constructor
  · exact append_behind hleft.1 hright
  · intro rest hrest
    rw [List.append_assoc]
    exact hleft.2 (ds ++ rest) (hright.2 rest hrest)

theorem Behind.nil : Behind [] [] :=
  ⟨Lexes.nil, fun _ hrest => hrest⟩

theorem Behind.blank {cs : List Char} {lexemes : List Lexeme} (h : Lexes cs lexemes) :
    Behind (' ' :: cs) lexemes :=
  ⟨h.blank, fun _ _ => stops_cons _ rfl⟩

theorem openParen {cs : List Char} {lexemes : List Lexeme} (h : Lexes cs lexemes) :
    Lexes ('(' :: cs) (.symbol .openParen :: lexemes) := by
  intro rest hrest
  have hlexeme : lexeme? ('(' :: (cs ++ rest)) = some (.symbol .openParen, cs ++ rest) := rfl
  rw [List.cons_append, lexemes?_of_lexeme? hlexeme, h rest hrest, Option.map_map]
  rfl

theorem name {name : String} (h : isPlainName name = true) :
    Lexes name.toList [.word name] := by
  apply of_lexeme?
  intro rest hrest
  rw [lexeme?_name h hrest, String.ofList_toList]

theorem literal (content : String) : Lexes (literal content).toList [.text content] := by
  apply of_lexeme?
  intro rest hrest
  have hbody := textBody?_doubled content.toList hrest
  simp only [Sql.literal, String.toList_ofList, List.cons_append, List.append_assoc,
    List.nil_append, lexeme?, if_true, hbody, Option.map_some, String.ofList_toList]

theorem decimal (d : Decimal) : Lexes d.text.toList [.number d] := by
  apply of_lexeme?
  intro rest hrest
  rw [Decimal.text, String.toList_ofList]
  exact lexeme?_number d hrest

theorem closeParen : Lexes [')'] [.symbol .closeParen] :=
  of_lexeme? fun _ _ => rfl

theorem comma : Lexes [','] [.symbol .comma] :=
  of_lexeme? fun _ _ => rfl

theorem star : Lexes ['*'] [.symbol .star] :=
  of_lexeme? fun _ _ => rfl

end Lexes

end Sql
end TableQuery
