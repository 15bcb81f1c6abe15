import TableQuery.Text.Parts

/-!
# Markup

The notation of configuration files. A document is a list of entries, maybe in braces, and an entry
is a key and a value. Entries are separated by commas or new lines. Keys and plain values are bare
words or quoted, and a value can be a list of entries in braces, which may not touch a bare word in
front of it. Two slashes start a comment.
-/

namespace TableQuery
namespace Markup

inductive Node where
  | scalar (content : String)
  | object (entries : List (String × Node))
deriving Inhabited

abbrev Entries := List (String × Node)

/-!
## Pieces

A document is cut into plain texts, braces, commas and new lines. Every quoted text has to be
closed, and only a few characters may stand behind a backslash in it.
-/

inductive Piece where
  | scalar (content : String)
  | opening
  | closing
  | comma
  | newline
deriving DecidableEq, Repr

def isBare (c : Char) : Bool :=
  !(c = ' ' || c = '\t' || c = '\r' || c = '\n' || c = ',' || c = '"' || c = '\x7b' || c = '\x7d')

def isComment (c : Char) : Bool :=
  c ≠ '\n'

def unescape? : Char → Option Char
  | 'n' => some '\n'
  | '"' => some '"'
  | '\\' => some '\\'
  | _ => none

def quotedBody? : List Char → Option (List Char × List Char)
  | [] => none
  | '"' :: rest => some ([], rest)
  | ['\\'] => none
  | '\\' :: c :: rest =>
    match unescape? c, quotedBody? rest with
    | some escaped, some (content, after) => some (escaped :: content, after)
    | _, _ => none
  | c :: rest => (quotedBody? rest).map fun body => (c :: body.1, body.2)

theorem length_quotedBody? {cs content after : List Char}
    (h : quotedBody? cs = some (content, after)) : after.length < cs.length := by
  fun_induction quotedBody? cs generalizing content after with
  | case1 => simp at h
  | case2 rest =>
      simp only [Option.some.injEq, Prod.mk.injEq] at h
      simp [h.2]
  | case3 => simp at h
  | case4 c rest escaped inner rest' hbody _ ih =>
      simp only [Option.some.injEq, Prod.mk.injEq] at h
      have := ih hbody
      rw [← h.2]
      simp only [List.length_cons]
      omega
  | case5 => simp at h
  | case6 c rest _ _ _ ih =>
      obtain ⟨⟨inner, rest'⟩, hinner, heq⟩ := Option.map_eq_some_iff.1 h
      simp only [Prod.mk.injEq] at heq
      have := ih hinner
      rw [← heq.2]
      simp only [List.length_cons]
      omega

def pieces? (cs : List Char) : Option (List Piece) :=
  match cs with
  | [] => some []
  | ' ' :: rest | '\t' :: rest | '\r' :: rest => pieces? rest
  | '\n' :: rest => (pieces? rest).map (.newline :: ·)
  | ',' :: rest => (pieces? rest).map (.comma :: ·)
  | '\x7b' :: rest => (pieces? rest).map (.opening :: ·)
  | '\x7d' :: rest => (pieces? rest).map (.closing :: ·)
  | '/' :: '/' :: rest => pieces? (rest.dropWhile isComment)
  | '"' :: rest =>
    match _h : quotedBody? rest with
    | some (content, after) => (pieces? after).map (.scalar (.ofList content) :: ·)
    | none => none
  | c :: rest =>
    if (rest.dropWhile isBare).head? = some '\x7b' then none
    else (pieces? (rest.dropWhile isBare)).map (.scalar (.ofList (c :: rest.takeWhile isBare)) :: ·)
termination_by cs.length
decreasing_by
  all_goals simp_wf
  · have := (List.dropWhile_suffix (l := rest) isComment).length_le
    omega
  · have := length_quotedBody? _h
    omega
  · have := (List.dropWhile_suffix (l := rest) isBare).length_le
    omega

/-!
## Entries

The pieces are read one by one. While a list in braces is read, the lists around it wait on a stack,
each with the key that the inner list is the value of. No key may come twice in one list.
-/

/-- How far the innermost list of entries has been read: at the start of an entry, behind a key, or
behind an entry, where a separator has to follow. -/
inductive Phase where
  | ready
  | keyed (key : String)
  | done
deriving DecidableEq, Repr

/-- What has been read of a document. Behind the brace that closes the whole document only new lines
may follow. -/
inductive State where
  | reading (braced : Bool) (entries : Entries) (phase : Phase) (outer : List (Entries × String))
  | closed (entries : Entries)

namespace State

def start : State := reading false [] .ready []

def scalar? (braced : Bool) (entries : Entries) (phase : Phase) (outer : List (Entries × String))
    (content : String) : Option State :=
  match phase with
  | .ready =>
    if entries.any fun entry => entry.1 = content then none
    else some (reading braced entries (.keyed content) outer)
  | .keyed key => some (reading braced (entries ++ [(key, .scalar content)]) .done outer)
  | .done => none

def opening? (braced : Bool) (entries : Entries) (phase : Phase)
    (outer : List (Entries × String)) : Option State :=
  match phase with
  | .keyed key => some (reading braced [] .ready ((entries, key) :: outer))
  | .ready =>
    if !braced && entries.isEmpty && outer.isEmpty then some (reading true [] .ready [])
    else none
  | .done => none

def closing? (braced : Bool) (entries : Entries) (phase : Phase)
    (outer : List (Entries × String)) : Option State :=
  match phase, outer with
  | .keyed _, _ => none
  | _, (around, key) :: outer =>
    some (reading braced (around ++ [(key, .object entries)]) .done outer)
  | _, [] => if braced then some (closed entries) else none

def step? : State → Piece → Option State
  | reading braced entries phase outer, .scalar content =>
    scalar? braced entries phase outer content
  | reading braced entries phase outer, .opening => opening? braced entries phase outer
  | reading braced entries phase outer, .closing => closing? braced entries phase outer
  | reading _ _ (.keyed _) _, _ => none
  | reading braced entries _ outer, _ => some (reading braced entries .ready outer)
  | closed entries, .newline => some (closed entries)
  | closed _, _ => none

def entries? : State → Option Entries
  | reading _ _ (.keyed _) _ => none
  | reading false entries _ [] => some entries
  | reading _ _ _ _ => none
  | closed entries => some entries

end State

def ofText? (text : String) : Option Entries := do
  let pieces ← pieces? text.toList
  let state ← pieces.foldlM State.step? State.start
  state.entries?

end Markup
end TableQuery
