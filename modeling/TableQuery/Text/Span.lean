/-!
# Spans

A span is a stretch of bytes in a source text. Positions count bytes of the UTF-8 form, so that a
span can be drawn under the text it came from.
-/

namespace TableQuery

structure Span where
  offset : Nat
  length : Nat
deriving DecidableEq, Repr, Inhabited

namespace Span

def stop (span : Span) : Nat :=
  span.offset + span.length

def between (start stop : Nat) : Span :=
  ⟨start, stop - start⟩

def cover (a b : Span) : Span :=
  between (min a.offset b.offset) (max a.stop b.stop)

end Span

def byteLength (cs : List Char) : Nat :=
  cs.foldr (fun c bytes => c.utf8Size + bytes) 0

@[simp] theorem byteLength_nil : byteLength [] = 0 := rfl

@[simp] theorem byteLength_cons (c : Char) (cs : List Char) :
    byteLength (c :: cs) = c.utf8Size + byteLength cs := rfl

@[simp] theorem byteLength_append (cs ds : List Char) :
    byteLength (cs ++ ds) = byteLength cs + byteLength ds := by
  induction cs with
  | nil => simp
  | cons c cs ih => rw [List.cons_append, byteLength_cons, byteLength_cons, ih, Nat.add_assoc]

end TableQuery
