/-!
# Outcomes

A computation that may fail succeeds if all of its steps do, and its fault is the fault of one of its
steps. These facts take a success apart into the successes of its steps, say when there is a success
at all and what all faults of a computation have in common, and compare two computations step by
step.
-/

namespace TableQuery
namespace Outcome

variable {ε α β γ : Type}

theorem ok_bind (a : α) (f : α → Except ε β) : ((.ok a : Except ε α) >>= f) = f a := rfl

@[simp] theorem map_ok (f : α → β) (a : α) : (f <$> (.ok a : Except ε α)) = .ok (f a) := rfl

theorem bind_eq_ok {x : Except ε α} {f : α → Except ε β} {b : β} :
    (x >>= f) = .ok b ↔ ∃ a, x = .ok a ∧ f a = .ok b := by
  cases x with
  | error e =>
      constructor
      · intro h
        cases h
      · rintro ⟨a, ha, _⟩
        cases ha
  | ok a =>
      constructor
      · intro h
        exact ⟨a, rfl, h⟩
      · rintro ⟨a', ha, hf⟩
        cases ha
        exact hf

theorem eq_ok_of_toOption {x : Except ε α} {a : α} (h : x.toOption = some a) : x = .ok a := by
  cases x with
  | error e => cases h
  | ok a' =>
      cases h
      rfl

theorem bind_eq_error {x : Except ε α} {f : α → Except ε β} {fault : ε} :
    (x >>= f) = .error fault ↔ x = .error fault ∨ ∃ a, x = .ok a ∧ f a = .error fault := by
  cases x with
  | error e =>
      constructor
      · intro h
        cases h
        exact Or.inl rfl
      · rintro (h | ⟨a, ha, _⟩)
        · cases h
          rfl
        · cases ha
  | ok a =>
      constructor
      · intro h
        exact Or.inr ⟨a, rfl, h⟩
      · rintro (h | ⟨a', ha, hf⟩)
        · cases h
        · cases ha
          exact hf

theorem map_eq_ok {x : Except ε α} {f : α → β} {b : β} :
    x.map f = .ok b ↔ ∃ a, x = .ok a ∧ f a = b := by
  cases x with
  | error e =>
      constructor
      · intro h
        cases h
      · rintro ⟨a, ha, _⟩
        cases ha
  | ok a =>
      constructor
      · intro h
        cases h
        exact ⟨a, rfl, rfl⟩
      · rintro ⟨a', ha, hf⟩
        cases ha
        rw [← hf]
        rfl

theorem mapError_eq_ok {ε' : Type} {x : Except ε α} {f : ε → ε'} {a : α} :
    x.mapError f = .ok a ↔ x = .ok a := by
  cases x with
  | error e =>
      constructor
      · intro h
        cases h
      · intro h
        cases h
  | ok a' =>
      constructor
      · intro h
        cases h
        rfl
      · intro h
        cases h
        rfl

theorem mapError_eq_error {ε' : Type} {x : Except ε α} {f : ε → ε'} {fault : ε'} :
    x.mapError f = .error fault ↔ ∃ cause, x = .error cause ∧ f cause = fault := by
  cases x with
  | error e =>
      constructor
      · intro h
        cases h
        exact ⟨e, rfl, rfl⟩
      · rintro ⟨cause, hcause, hfault⟩
        cases hcause
        rw [← hfault]
        rfl
  | ok a =>
      constructor
      · intro h
        cases h
      · rintro ⟨cause, hcause, _⟩
        cases hcause

theorem map_eq_error {x : Except ε α} {f : α → β} {fault : ε} :
    x.map f = .error fault ↔ x = .error fault := by
  cases x with
  | error e =>
      constructor
      · intro h
        cases h
        rfl
      · intro h
        cases h
        rfl
  | ok a =>
      constructor
      · intro h
        cases h
      · intro h
        cases h

theorem mapError_bind {ε' : Type} (g : ε → ε') (x : Except ε α) (f : α → Except ε β) :
    (x >>= f).mapError g = x.mapError g >>= fun a => (f a).mapError g := by
  cases x <;> rfl

theorem mapM_congr {f g : α → Except ε β} {xs : List α} (h : ∀ x ∈ xs, f x = g x) :
    xs.mapM f = xs.mapM g := by
  induction xs with
  | nil => rfl
  | cons x xs ih =>
      rw [List.mapM_cons, List.mapM_cons, h x List.mem_cons_self,
        ih fun y hy => h y (List.mem_cons_of_mem x hy)]

theorem mapError_mapM {ε' : Type} (g : ε → ε') (f : α → Except ε β) (xs : List α) :
    (xs.mapM f).mapError g = xs.mapM fun x => (f x).mapError g := by
  induction xs with
  | nil => rfl
  | cons x xs ih =>
      rw [List.mapM_cons, List.mapM_cons, mapError_bind, ← ih]
      congr 1
      funext y
      rw [mapError_bind]
      rfl

theorem exists_of_mapM_eq_error {f : α → Except ε β} {xs : List α} {fault : ε}
    (h : xs.mapM f = .error fault) : ∃ x ∈ xs, f x = .error fault := by
  induction xs with
  | nil => cases h
  | cons x xs ih =>
      rw [List.mapM_cons] at h
      rcases bind_eq_error.mp h with hx | ⟨y, _, hrest⟩
      · exact ⟨x, List.mem_cons_self, hx⟩
      · rcases bind_eq_error.mp hrest with hxs | ⟨ys, _, hcons⟩
        · rcases ih hxs with ⟨x', hx', hfault⟩
          exact ⟨x', List.mem_cons_of_mem x hx', hfault⟩
        · cases hcons

theorem mapM_map_eq_ok {e : γ → α} {f : α → Except ε β} {g : γ → β} {xs : List γ}
    (h : ∀ x ∈ xs, f (e x) = .ok (g x)) : (xs.map e).mapM f = .ok (xs.map g) := by
  induction xs with
  | nil => rfl
  | cons x xs ih =>
      have hrest := ih fun y hy => h y (by simp [hy])
      rw [List.map_cons, List.mapM_cons, h x (by simp), hrest]
      rfl

theorem mapM_eq_ok_view {f : α → Except ε β} {p : α → β → Prop} {view : β → γ} {image : α → γ}
    (h : ∀ x y, f x = .ok y → p x y ∧ view y = image x) {xs : List α} {ys : List β}
    (hmap : xs.mapM f = .ok ys) :
    (∀ x ∈ xs, ∃ y, p x y) ∧ (∀ y ∈ ys, ∃ x, p x y) ∧ ys.map view = xs.map image := by
  induction xs generalizing ys with
  | nil =>
      cases hmap
      simp
  | cons x xs ih =>
      rw [List.mapM_cons] at hmap
      rcases bind_eq_ok.mp hmap with ⟨y, hy, hrest⟩
      rcases bind_eq_ok.mp hrest with ⟨more, hmore, hcons⟩
      cases hcons
      rcases h x y hy with ⟨hp, hview⟩
      rcases ih hmore with ⟨hxs, hys, hviews⟩
      refine ⟨?_, ?_, ?_⟩
      · intro x' hx'
        rcases List.mem_cons.mp hx' with rfl | htail
        · exact ⟨y, hp⟩
        · exact hxs x' htail
      · intro y' hy'
        rcases List.mem_cons.mp hy' with rfl | htail
        · exact ⟨x, hp⟩
        · exact hys y' htail
      · rw [List.map_cons, List.map_cons, hview, hviews]

theorem map_view_of_mapM {f : α → Except ε β} {view : β → γ} {image : α → γ}
    (h : ∀ x y, f x = .ok y → view y = image x) {xs : List α} {ys : List β}
    (hmap : xs.mapM f = .ok ys) : ys.map view = xs.map image :=
  (mapM_eq_ok_view (p := fun _ _ => True) (fun x y hy => ⟨trivial, h x y hy⟩) hmap).2.2

/-!
## Success

A computation succeeds if it gives a result. A step succeeds on a list just if it succeeds on every
item.
-/

def Succeeds (x : Except ε α) : Prop :=
  ∃ a, x = .ok a

theorem succeeds_ok (a : α) : Succeeds (.ok a : Except ε α) :=
  ⟨a, rfl⟩

theorem not_succeeds_error (fault : ε) : ¬ Succeeds (.error fault : Except ε α) := by
  rintro ⟨a, ha⟩
  cases ha

theorem succeeds_map {x : Except ε α} {f : α → β} : Succeeds (x.map f) ↔ Succeeds x := by
  constructor
  · rintro ⟨b, hb⟩
    rcases map_eq_ok.mp hb with ⟨a, ha, _⟩
    exact ⟨a, ha⟩
  · rintro ⟨a, ha⟩
    exact ⟨f a, map_eq_ok.mpr ⟨a, ha, rfl⟩⟩

theorem succeeds_bind {x : Except ε α} {f : α → Except ε β} :
    Succeeds (x >>= f) ↔ ∃ a, x = .ok a ∧ Succeeds (f a) := by
  constructor
  · rintro ⟨b, hb⟩
    rcases bind_eq_ok.mp hb with ⟨a, ha, hf⟩
    exact ⟨a, ha, b, hf⟩
  · rintro ⟨a, ha, b, hf⟩
    exact ⟨b, bind_eq_ok.mpr ⟨a, ha, hf⟩⟩

theorem succeeds_mapM {f : α → Except ε β} {xs : List α} :
    Succeeds (xs.mapM f) ↔ ∀ x ∈ xs, Succeeds (f x) := by
  induction xs with
  | nil =>
      constructor
      · intro _ x hx
        cases hx
      · intro _
        exact succeeds_ok []
  | cons x xs ih =>
      rw [List.mapM_cons, succeeds_bind, List.forall_mem_cons, ← ih]
      constructor
      · rintro ⟨y, hy, hrest⟩
        rcases succeeds_bind.mp hrest with ⟨ys, hys, _⟩
        exact ⟨⟨y, hy⟩, ys, hys⟩
      · rintro ⟨⟨y, hy⟩, ys, hys⟩
        exact ⟨y, hy, succeeds_bind.mpr ⟨ys, hys, succeeds_ok (y :: ys)⟩⟩

theorem length_of_mapM_eq_ok {f : α → Except ε β} {xs : List α} {ys : List β}
    (h : xs.mapM f = .ok ys) : ys.length = xs.length := by
  have hview : ys.map (fun _ => ()) = xs.map fun _ => () :=
    (mapM_eq_ok_view (p := fun _ _ => True) (fun _ _ _ => ⟨trivial, rfl⟩) h).2.2
  rw [← List.length_map, hview, List.length_map]

/-!
## Faults
-/

def FailsIn (p : ε → Prop) (x : Except ε α) : Prop :=
  ∀ fault, x = .error fault → p fault

namespace FailsIn

variable {p : ε → Prop}

theorem ok (a : α) : FailsIn p (.ok a : Except ε α) := by
  intro fault h
  cases h

theorem error {fault : ε} (h : p fault) : FailsIn p (.error fault : Except ε α) := by
  intro fault' hfault
  cases hfault
  exact h

theorem bind {x : Except ε α} {f : α → Except ε β} (hx : FailsIn p x)
    (hf : ∀ a, FailsIn p (f a)) : FailsIn p (x >>= f) := by
  cases x with
  | error fault => exact error (hx fault rfl)
  | ok a => exact hf a

theorem map {x : Except ε α} (f : α → β) (hx : FailsIn p x) : FailsIn p (x.map f) := by
  cases x with
  | error fault => exact error (hx fault rfl)
  | ok a => exact ok (f a)

theorem mapM {f : α → Except ε β} (hf : ∀ a, FailsIn p (f a)) (xs : List α) :
    FailsIn p (xs.mapM f) := by
  induction xs with
  | nil => exact ok []
  | cons x xs ih =>
      rw [List.mapM_cons]
      exact bind (hf x) fun y => bind ih fun ys => ok (y :: ys)

end FailsIn

/-!
## Faults and results

Where a fault depends on what the steps before it gave, faults and results are followed together.
-/

/-- All faults of a computation have a property, and its result has another one. -/
inductive Ends (p : ε → Prop) (q : α → Prop) : Except ε α → Prop where
  | ok {a : α} (h : q a) : Ends p q (.ok a)
  | error {fault : ε} (h : p fault) : Ends p q (.error fault)

namespace Ends

variable {p : ε → Prop} {q : α → Prop} {r : β → Prop}

theorem failsIn {x : Except ε α} (h : Ends p q x) : FailsIn p x := by
  cases h with
  | ok h => exact FailsIn.ok _
  | error h => exact FailsIn.error h

theorem weaken {x : Except ε α} (h : Ends p q x) : Ends p (fun _ => True) x := by
  cases h with
  | ok h => exact ok trivial
  | error h => exact error h

theorem imp {p' : ε → Prop} {x : Except ε α} (h : Ends p q x) (hp : ∀ fault, p fault → p' fault) :
    Ends p' q x := by
  cases h with
  | ok h => exact ok h
  | error h => exact error (hp _ h)

theorem implies {q' : α → Prop} {x : Except ε α} (h : Ends p q x) (hq : ∀ a, q a → q' a) :
    Ends p q' x := by
  cases h with
  | ok h => exact ok (hq _ h)
  | error h => exact error h

theorem of_eq_ok {a : α} {x : Except ε α} (h : Ends p q x) (hx : x = .ok a) : q a := by
  rw [hx] at h
  cases h with
  | ok h => exact h

theorem bind {x : Except ε α} {f : α → Except ε β} (hx : Ends p q x)
    (hf : ∀ a, q a → Ends p r (f a)) : Ends p r (x >>= f) := by
  cases hx with
  | ok h => exact hf _ h
  | error h => exact error h

theorem map {x : Except ε α} {f : α → β} (hx : Ends p q x) (hf : ∀ a, q a → r (f a)) :
    Ends p r (x.map f) := by
  cases hx with
  | ok h => exact ok (hf _ h)
  | error h => exact error h

theorem mapError {ε' : Type} {p' : ε' → Prop} {x : Except ε α} {g : ε → ε'} (hx : Ends p q x)
    (hg : ∀ fault, p fault → p' (g fault)) : Ends p' q (x.mapError g) := by
  cases hx with
  | ok h => exact ok h
  | error h => exact error (hg _ h)

theorem mapM {f : α → Except ε β} {xs : List α} (hf : ∀ x ∈ xs, Ends p r (f x)) :
    Ends p (fun ys => ∀ y ∈ ys, r y) (xs.mapM f) := by
  induction xs with
  | nil =>
      apply ok
      intro y hy
      cases hy
  | cons x xs ih =>
      rw [List.mapM_cons]
      apply bind (hf x List.mem_cons_self)
      intro y hy
      apply bind (ih fun x' hx' => hf x' (List.mem_cons_of_mem x hx'))
      intro ys hys
      exact ok (List.forall_mem_cons.mpr ⟨hy, hys⟩)

theorem foldlM {f : β → α → Except ε β} {xs : List α}
    (hf : ∀ b, r b → ∀ x ∈ xs, Ends p r (f b x)) {init : β} (hinit : r init) :
    Ends p r (xs.foldlM f init) := by
  induction xs generalizing init with
  | nil => exact ok hinit
  | cons x xs ih =>
      rw [List.foldlM_cons]
      apply bind (hf init hinit x List.mem_cons_self)
      intro next hnext
      exact ih (fun b hb x' hx' => hf b hb x' (List.mem_cons_of_mem x hx')) hnext

end Ends

/-!
## Computations that go alike
-/

/-- Two computations go alike: both succeed, and the second result is the first one in another view,
or both fail in the same way. -/
inductive Alike (same : ε → ε → Prop) (view : α → β) : Except ε α → Except ε β → Prop where
  | ok (a : α) : Alike same view (.ok a) (.ok (view a))
  | error {fault fault' : ε} (h : same fault fault') :
    Alike same view (.error fault) (.error fault')

namespace Alike

variable {α' β' γ' : Type} {same : ε → ε → Prop} {view : α → α'} {view' : β → β'}

theorem eq_ok {a : α} {x' : Except ε α'} (h : Alike same view (.ok a) x') :
    x' = .ok (view a) := by
  cases h
  rfl

theorem exists_ok {x : Except ε α} {a' : α'} (h : Alike same view x (.ok a')) :
    ∃ a, x = .ok a ∧ view a = a' := by
  cases h with
  | ok a => exact ⟨a, rfl, rfl⟩

theorem refl (hsame : ∀ fault, same fault fault) (x : Except ε α) : Alike same id x x := by
  cases x with
  | ok a => exact ok a
  | error fault => exact error (hsame fault)

theorem bind {x : Except ε α} {x' : Except ε α'} {f : α → Except ε β} {f' : α' → Except ε β'}
    (hx : Alike same view x x') (hf : ∀ a, Alike same view' (f a) (f' (view a))) :
    Alike same view' (x >>= f) (x' >>= f') := by
  cases hx with
  | ok a => exact hf a
  | error h => exact error h

theorem map {x : Except ε α} {x' : Except ε α'} {f : α → β} {f' : α' → β'}
    (hx : Alike same view x x') (hf : ∀ a, f' (view a) = view' (f a)) :
    Alike same view' (x.map f) (x'.map f') := by
  cases hx with
  | ok a =>
      change Alike same view' (.ok (f a)) (.ok (f' (view a)))
      rw [hf a]
      exact ok (f a)
  | error h => exact error h

theorem mapM {f : α → Except ε β} {f' : α' → Except ε β'}
    (hf : ∀ a, Alike same view' (f a) (f' (view a))) (xs : List α) :
    Alike same (List.map view') (xs.mapM f) ((xs.map view).mapM f') := by
  induction xs with
  | nil => exact ok []
  | cons x xs ih =>
      rw [List.map_cons, List.mapM_cons, List.mapM_cons]
      exact bind (hf x) fun y => bind ih fun ys => ok (y :: ys)

theorem foldlM {f : β → α → Except ε β} {f' : β' → α' → Except ε β'}
    (hf : ∀ b a, Alike same view' (f b a) (f' (view' b) (view a))) (init : β) (xs : List α) :
    Alike same view' (xs.foldlM f init) ((xs.map view).foldlM f' (view' init)) := by
  induction xs generalizing init with
  | nil => exact ok init
  | cons x xs ih =>
      rw [List.map_cons, List.foldlM_cons, List.foldlM_cons]
      exact bind (hf init x) fun next => ih next

end Alike

/-!
## Two runs

Two runs of one computation on related data agree if both succeed with related results, or both fail
with related faults.
-/

inductive Agree (same : ε → ε → Prop) (related : α → α → Prop) :
    Except ε α → Except ε α → Prop where
  | ok {a a' : α} (h : related a a') : Agree same related (.ok a) (.ok a')
  | error {fault fault' : ε} (h : same fault fault') :
    Agree same related (.error fault) (.error fault')

namespace Agree

variable {same : ε → ε → Prop} {related : α → α → Prop}

theorem refl (hsame : ∀ fault, same fault fault) (x : Except ε α) : Agree same Eq x x := by
  cases x with
  | ok a => exact ok rfl
  | error fault => exact error (hsame fault)

theorem bind {related' : β → β → Prop} {x x' : Except ε α} {f f' : α → Except ε β}
    (hx : Agree same related x x') (hf : ∀ a a', related a a' → Agree same related' (f a) (f' a')) :
    Agree same related' (x >>= f) (x' >>= f') := by
  cases hx with
  | ok h => exact hf _ _ h
  | error h => exact error h

theorem mapError {ε' : Type} {same' : ε' → ε' → Prop} {g g' : ε → ε'} {x x' : Except ε α}
    (hx : Agree same related x x')
    (hg : ∀ fault fault', same fault fault' → same' (g fault) (g' fault')) :
    Agree same' related (x.mapError g) (x'.mapError g') := by
  cases hx with
  | ok h => exact ok h
  | error h => exact error (hg _ _ h)

theorem of_alike {view : α → β} {alike : ε → ε → Prop}
    (hsame : ∀ fault fault' seen seen', alike fault seen → alike fault' seen' →
      same seen seen' → same fault fault')
    {x x' : Except ε α} {y y' : Except ε β} (hx : Alike alike view x y)
    (hx' : Alike alike view x' y') (hy : Agree same Eq y y') :
    Agree same (fun a a' => view a = view a') x x' := by
  cases hy with
  | ok h =>
      rcases hx.exists_ok with ⟨a, rfl, hview⟩
      rcases hx'.exists_ok with ⟨a', rfl, hview'⟩
      exact ok (hview.trans (h.trans hview'.symm))
  | error h =>
      cases hx with
      | error hseen =>
          cases hx' with
          | error hseen' => exact error (hsame _ _ _ _ hseen hseen' h)

end Agree

end Outcome
end TableQuery
