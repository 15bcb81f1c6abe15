import Mathlib.Data.List.Forall2
import Mathlib.Data.List.Pairwise
import TableQuery.Proofs.Declarative.Acceptance
import TableQuery.Proofs.Declarative.Recasing

/-!
# Keys of operators

An operator is found by its key in letters of any case, but the fields of an object are told apart
by their keys as they are written. So a text whose keys of operators are written in other letters is
read as the same query, as long as the keys that were written alike are still the keys that are.
-/

namespace TableQuery
namespace Declarative

open Outcome
open Text (flipCase)

/-!
## Derivations in other letters

The keys of operators are the keys of the objects under the fields of a condition. Only their
letters are changed.
-/

def Key.recased (chosen : List Nat) (key : Key) : Key :=
  ⟨.ofList (changedFrom flipCase chosen key.span.offset key.name.toList), key.span⟩

def ValueTree.objects : ValueTree → List FieldsTree
  | .object _ fields _ => [fields]
  | _ => []

def ValueTree.mapObject (change : FieldsTree → FieldsTree) : ValueTree → ValueTree
  | .object opened fields closed => .object opened (change fields) closed
  | value => value

namespace FieldsTree

def keys : FieldsTree → List Key
  | .nil => []
  | .cons key _ _ _ rest => key :: rest.keys

def objects (applies : String → Bool) : FieldsTree → List FieldsTree
  | .nil => []
  | .cons key _ value _ rest =>
    (if applies key.name then value.objects else []) ++ rest.objects applies

def mapObjects (applies : String → Bool) (change : FieldsTree → FieldsTree) :
    FieldsTree → FieldsTree
  | .nil => .nil
  | .cons key colon value comma rest =>
    .cons key colon (if applies key.name then value.mapObject change else value) comma
      (rest.mapObjects applies change)

def recasedKeys (chosen : List Nat) : FieldsTree → FieldsTree
  | .nil => .nil
  | .cons key colon value comma rest =>
    .cons (key.recased chosen) colon value comma (rest.recasedKeys chosen)

end FieldsTree

def isWhere (name : String) : Bool :=
  name = "where"

namespace DocumentTree

def fieldObjects (tree : DocumentTree) : List FieldsTree :=
  ((tree.arguments.map fun arguments => arguments.fields.objects isWhere).getD []).flatMap
    (FieldsTree.objects fun _ => true)

def operatorKeys (tree : DocumentTree) : List Key :=
  tree.fieldObjects.flatMap FieldsTree.keys

def recased (chosen : List Nat) (tree : DocumentTree) : DocumentTree :=
  { tree with
    arguments := tree.arguments.map fun arguments =>
      { arguments with
        fields := arguments.fields.mapObjects isWhere
          (FieldsTree.mapObjects (fun _ => true) (FieldsTree.recasedKeys chosen)) } }

end DocumentTree

/-!
## Tokens in other letters

The keys in other letters are marked among the tokens of a derivation. Tokens do not overlap, so a
token that is not marked has none of the letters of a key.
-/

/-- Tokens in front of others that differ from them in the letters of some keys. -/
def Marked (chosen : List Nat) (keys : List Key) (tokens tokens' : List Token) : Prop :=
  ∃ marks : List (Token × Bool), marks.map Prod.fst = tokens ∧
    marks.map (fun mark => if mark.2 then mark.1.recased chosen else mark.1) = tokens' ∧
    ∀ key ∈ keys, (key.token, true) ∈ marks

namespace Marked

variable {chosen : List Nat} {keys keys' : List Key} {tokens tokens' more more' : List Token}

theorem same (tokens : List Token) : Marked chosen [] tokens tokens := by
  refine ⟨tokens.map (·, false), ?_, ?_, List.forall_mem_nil _⟩
  · rw [List.map_map]
    exact List.map_id' tokens
  · rw [List.map_map]
    exact List.map_id' tokens

theorem key (key : Key) : Marked chosen [key] [key.token] [(key.recased chosen).token] :=
  ⟨[(key.token, true)], rfl, rfl, fun _ hkey => by
    rw [List.mem_singleton.mp hkey]
    exact List.mem_singleton_self _⟩

theorem append (h : Marked chosen keys tokens tokens') (h' : Marked chosen keys' more more') :
    Marked chosen (keys ++ keys') (tokens ++ more) (tokens' ++ more') := by
  rcases h with ⟨marks, rfl, rfl, hkeys⟩
  rcases h' with ⟨marks', rfl, rfl, hkeys'⟩
  refine ⟨marks ++ marks', List.map_append, List.map_append, fun key hkey => ?_⟩
  rcases List.mem_append.mp hkey with hfront | hback
  · exact List.mem_append_left _ (hkeys key hfront)
  · exact List.mem_append_right _ (hkeys' key hback)

theorem within (front back : List Token) (h : Marked chosen keys tokens tokens') :
    Marked chosen keys (front ++ (tokens ++ back)) (front ++ (tokens' ++ back)) := by
  have hall := (same front).append (h.append (same back))
  rwa [List.nil_append, List.append_nil] at hall

end Marked

namespace FieldsTree

theorem marked_keys (chosen : List Nat) (fields : FieldsTree) :
    Marked chosen fields.keys fields.yield (fields.recasedKeys chosen).yield := by
  cases fields with
  | nil => exact .same []
  | cons key colon value comma rest =>
      have hvalue : Marked chosen [] _ _ :=
        .same (Mark.colon.token colon :: (value.yield ++ commaYield comma))
      have hall := (Marked.key key).append (hvalue.append (rest.marked_keys chosen))
      simpa only [yield, recasedKeys, keys, List.cons_append, List.nil_append, List.append_assoc]
        using hall

theorem marked_objects {chosen : List Nat} (applies : String → Bool)
    {change : FieldsTree → FieldsTree} {keysOf : FieldsTree → List Key}
    (h : ∀ fields, Marked chosen (keysOf fields) fields.yield (change fields).yield)
    (fields : FieldsTree) :
    Marked chosen ((fields.objects applies).flatMap keysOf) fields.yield
      (fields.mapObjects applies change).yield := by
  cases fields with
  | nil => exact .same []
  | cons key colon value comma rest =>
      have hvalue : Marked chosen (value.objects.flatMap keysOf) value.yield
          (value.mapObject change).yield := by
        cases value with
        | object opened fields closed =>
            have hfields := (h fields).within [Mark.openBrace.token opened]
              [Mark.closeBrace.token closed]
            rwa [← List.flatMap_singleton keysOf fields] at hfields
        | text span content => exact .same _
        | number span literal value => exact .same _
        | word span name => exact .same _
        | list opened items closed => exact .same _
      have hchanged : Marked chosen
          ((if applies key.name then value.objects else []).flatMap keysOf) value.yield
          (if applies key.name then value.mapObject change else value).yield := by
        split
        · exact hvalue
        · exact .same _
      have hfront := hchanged.within [key.token, Mark.colon.token colon] (commaYield comma)
      have hall := hfront.append (rest.marked_objects applies h)
      simpa only [yield, mapObjects, objects, List.flatMap_append, List.cons_append,
        List.nil_append, List.append_assoc] using hall

end FieldsTree

theorem DocumentTree.marked (chosen : List Nat) (tree : DocumentTree) :
    Marked chosen tree.operatorKeys tree.yield (tree.recased chosen).yield := by
  have harguments : Marked chosen tree.operatorKeys
      ((tree.arguments.map ArgumentsTree.yield).getD [])
      (((tree.recased chosen).arguments.map ArgumentsTree.yield).getD []) := by
    rw [operatorKeys, fieldObjects, recased]
    cases tree.arguments with
    | none => exact .same []
    | some arguments =>
        have hfields := arguments.fields.marked_objects isWhere
          (FieldsTree.marked_objects (fun _ => true) (FieldsTree.marked_keys chosen))
        have hall := hfields.within [Mark.openParen.token arguments.opened]
          [Mark.closeParen.token arguments.closed]
        rwa [← List.flatMap_assoc] at hall
  have hall := harguments.within (keywordYield tree.keyword ++
    [Mark.openBrace.token tree.opened, tree.resource.token]) tree.bodyYield
  simp only [List.append_assoc, List.cons_append, List.nil_append] at hall
  exact hall

def Token.Apart (token token' : Token) : Prop :=
  token.span.stop ≤ token'.span.offset ∨ token'.span.stop ≤ token.span.offset

theorem Token.recased_eq_self {chosen : List Nat} {token : Token}
    (hlength : ∀ name, token.lexeme = .word name → token.span.length = byteLength name.toList)
    (h : ∀ position ∈ chosen, ¬ token.span.Covers position) : token.recased chosen = token := by
  obtain ⟨lexeme, span⟩ := token
  cases lexeme with
  | word name =>
      have hname : changedFrom flipCase chosen span.offset name.toList = name.toList := by
        apply changedFrom_eq_self
        intro position hmem hle
        rw [← hlength name rfl]
        exact Nat.not_lt.mp fun hlt => h position hmem ⟨hle, hlt⟩
      simp only [recased, hname, String.ofList_toList]
  | text content => rfl
  | number literal value => rfl
  | mark mark => rfl

def InKeys (chosen : List Nat) (keys : List Key) : Prop :=
  ∀ position ∈ chosen, ∃ key ∈ keys, key.span.Covers position

instance (span : Span) (position : Nat) : Decidable (span.Covers position) :=
  inferInstanceAs (Decidable (_ ∧ _))

instance (chosen : List Nat) (keys : List Key) : Decidable (InKeys chosen keys) :=
  inferInstanceAs (Decidable (∀ position ∈ chosen, _))

namespace Marked

variable {chosen : List Nat} {keys : List Key} {tokens tokens' : List Token}

theorem inWords (h : Marked chosen keys tokens tokens') (hchosen : InKeys chosen keys) :
    InWords chosen 0 tokens := by
  rcases h with ⟨marks, rfl, _, hkeys⟩
  intro position hmem _
  rcases hchosen position hmem with ⟨key, hkey, hcovers⟩
  exact ⟨key.token, List.mem_map_of_mem (hkeys key hkey), hcovers, key.name, rfl⟩

theorem eq_map_recased (h : Marked chosen keys tokens tokens') (hchosen : InKeys chosen keys)
    (hordered : Ordered tokens)
    (hlength : ∀ token ∈ tokens, ∀ name, token.lexeme = .word name →
      token.span.length = byteLength name.toList) :
    tokens' = tokens.map (Token.recased chosen) := by
  rcases h with ⟨marks, rfl, rfl, hkeys⟩
  have hsymm : Std.Symm fun mark mark' : Token × Bool => mark.1.Apart mark'.1 :=
    ⟨fun _ _ => Or.symm⟩
  have hapart : marks.Pairwise fun mark mark' => mark.1.Apart mark'.1 :=
    (List.pairwise_map.mp hordered.apart).imp Or.inl
  rw [List.map_map]
  refine List.map_congr_left fun mark hmark => ?_
  obtain ⟨token, marked⟩ := mark
  cases marked with
  | true => rfl
  | false =>
      refine (Token.recased_eq_self (hlength token (List.mem_map_of_mem hmark)) ?_).symm
      intro position hmem hcovers
      rcases hchosen position hmem with ⟨key, hkey, hkeyCovers⟩
      have hne : (token, false) ≠ (key.token, true) := by
        intro heq
        cases heq
      rcases hapart.forall hmark (hkeys key hkey) hne with hbefore | hbehind
      · exact absurd (Nat.lt_of_lt_of_le hcovers.2 hbefore) (Nat.not_lt.mpr hkeyCovers.1)
      · exact absurd (Nat.lt_of_lt_of_le hkeyCovers.2 hbehind) (Nat.not_lt.mpr hcovers.1)

end Marked

theorem Derives.recased {text : String} {tree : DocumentTree} (h : Derives text tree)
    {chosen : List Nat} (hchosen : InKeys chosen tree.operatorKeys) :
    Derives (recased chosen text) (tree.recased chosen) := by
  rcases h with ⟨hyield, span, hending⟩
  have hscans := Scans.of_tokens hending
  have hmarked := tree.marked chosen
  rw [← hyield] at hmarked
  rcases tokens_recased hending (hmarked.inWords hchosen) with ⟨htokens, hend⟩
  refine ⟨?_, hend⟩
  rw [htokens]
  exact (hmarked.eq_map_recased hchosen hscans.ordered hscans.length_word).symm

end Declarative
end TableQuery
