import QueryFrame.Error.Cause
import Mathlib.Data.List.Forall2

/-!
# Requests that succeed

Most operations are chains of requests that may be refused. When such a chain has an answer, every
request in it has one. The lemmas below take a chain apart from the front, so a proof about an
operation never opens the way in which refusals are passed on:

* `Outcome.bind_eq_ok`: the first request of a chain, and the rest of it at its answer;
* `Outcome.map_eq_ok`: a request whose answer is worked on;
* `Outcome.mapM_eq_ok`: one request for each member of a list, with the answers in order.

The other way round, `Outcome.ok_bind` and `Outcome.error_bind` carry a chain on from the answer of
its first request.

A refused chain is refused for the first fault in it: `Outcome.bind_eq_error_iff_or` says where that
can be, and `Outcome.mapM_eq_error_iff` finds the member of a list that is at fault.
-/

namespace QueryFrame.Outcome

variable {α β : Type}

/-- A chain goes on with the answer of its first request. -/
theorem ok_bind (a : α) (f : α → Outcome β) : ((.ok a : Outcome α) >>= f) = f a := rfl

/-- A chain is refused when its first request is. -/
theorem error_bind (fault : Error) (f : α → Outcome β) :
    ((.error fault : Outcome α) >>= f) = .error fault := rfl

/-- Inversion for a chain. -/
theorem bind_eq_ok {x : Outcome α} {f : α → Outcome β} {b : β} (h : (x >>= f) = .ok b) :
    ∃ a, x = .ok a ∧ f a = .ok b := by
  cases x with
  | error fault => cases h
  | ok a => exact ⟨a, rfl, h⟩

/-- Inversion for an answer that is worked on. -/
theorem map_eq_ok {x : Outcome α} {f : α → β} {b : β} (h : x.map f = .ok b) :
    ∃ a, x = .ok a ∧ f a = b := by
  cases x with
  | error fault => cases h
  | ok a => exact ⟨a, rfl, Except.ok.inj h⟩

/-- Inversion for the end of a chain. -/
theorem pure_eq_ok {a b : α} (h : (pure a : Outcome α) = .ok b) : a = b :=
  Except.ok.inj h

/-- Inversion for a list of requests: they all have answers, in the order of the list. -/
theorem mapM_eq_ok {f : α → Outcome β} :
    ∀ {xs : List α} {ys : List β}, xs.mapM f = .ok ys →
      List.Forall₂ (fun x y => f x = .ok y) xs ys := by
  intro xs
  induction xs with
  | nil =>
    intro ys h
    rw [List.mapM_nil] at h
    rw [← pure_eq_ok h]
    exact .nil
  | cons x xs ih =>
    intro ys h
    rw [List.mapM_cons] at h
    obtain ⟨y, hy, h⟩ := bind_eq_ok h
    obtain ⟨rest, hrest, h⟩ := bind_eq_ok h
    rw [← pure_eq_ok h]
    exact .cons hy (ih hrest)

/-! ### Requests that are refused -/

/-- **A chain is refused** when its first request is, or when the rest of it is. -/
theorem bind_eq_error_iff_or {x : Outcome α} {f : α → Outcome β} {fault : Error} :
    (x >>= f) = .error fault ↔ x = .error fault ∨ ∃ a, x = .ok a ∧ f a = .error fault := by
  cases x with
  | error own =>
    constructor
    · exact fun h => .inl (congrArg Except.error (Except.error.inj h))
    · rintro (h | ⟨a, ⟨⟩, -⟩)
      rw [h, error_bind]
  | ok a =>
    constructor
    · exact fun h => .inr ⟨a, rfl, h⟩
    · rintro (h | ⟨own, hown, h⟩)
      · cases h
      · rw [Except.ok.inj hown]
        exact h

/-- Inversion for a refused chain. -/
theorem bind_eq_error {x : Outcome α} {f : α → Outcome β} {fault : Error}
    (h : (x >>= f) = .error fault) :
    x = .error fault ∨ ∃ a, x = .ok a ∧ f a = .error fault :=
  bind_eq_error_iff_or.mp h

/-- Where the rest of a chain is never refused, its first request decides. -/
theorem bind_eq_error_iff {x : Outcome α} {f : α → Outcome β} (hf : ∀ a, ∃ b, f a = .ok b)
    {fault : Error} : (x >>= f) = .error fault ↔ x = .error fault := by
  refine ⟨fun h => ?_, fun h => by rw [h, error_bind]⟩
  rcases bind_eq_error h with h | ⟨a, -, h⟩
  · exact h
  · obtain ⟨b, hb⟩ := hf a
    rw [hb] at h
    cases h

/-- Working on an answer does not change whether there is one. -/
theorem map_eq_error_iff {x : Outcome α} {f : α → β} {fault : Error} :
    x.map f = .error fault ↔ x = .error fault := by
  cases x with
  | error own => constructor <;> intro h <;> exact congrArg Except.error (Except.error.inj h)
  | ok a => exact iff_of_false (by rintro ⟨⟩) (by rintro ⟨⟩)

/-- Requests that are refused alike have answers alike. -/
theorem exists_ok_iff {x : Outcome α} {y : Outcome β}
    (h : ∀ fault, x = .error fault ↔ y = .error fault) :
    (∃ a, x = .ok a) ↔ ∃ b, y = .ok b := by
  cases x with
  | error fault =>
    rw [(h fault).mp rfl]
    exact iff_of_false (by rintro ⟨a, ⟨⟩⟩) (by rintro ⟨b, ⟨⟩⟩)
  | ok a =>
    cases y with
    | error fault => cases (h fault).mpr rfl
    | ok b => exact iff_of_true ⟨a, rfl⟩ ⟨b, rfl⟩

/-- There is an answer unless there is a fault. -/
theorem exists_ok_iff_ne_error {x : Outcome α} :
    (∃ a, x = .ok a) ↔ ∀ fault, x ≠ .error fault := by
  cases x with
  | error fault => exact iff_of_false (by rintro ⟨a, ⟨⟩⟩) (fun h => h fault rfl)
  | ok a => exact iff_of_true ⟨a, rfl⟩ (by rintro fault ⟨⟩)

/-- Requests that all have answers have them as a list. -/
theorem mapM_of_forall₂ {f : α → Outcome β} {xs : List α} {ys : List β}
    (h : List.Forall₂ (fun x y => f x = .ok y) xs ys) : xs.mapM f = .ok ys := by
  induction h with
  | nil => rfl
  | cons hy _ ih =>
    rw [List.mapM_cons, hy, ok_bind, ih]
    rfl

theorem exists_mapM_of_forall {f : α → Outcome β} :
    ∀ {xs : List α}, (∀ x ∈ xs, ∃ y, f x = .ok y) → ∃ ys, xs.mapM f = .ok ys := by
  intro xs
  induction xs with
  | nil => exact fun _ => ⟨[], rfl⟩
  | cons x xs ih =>
    intro h
    obtain ⟨⟨y, hy⟩, hxs⟩ := List.forall_mem_cons.mp h
    obtain ⟨ys, hys⟩ := ih hxs
    rw [List.mapM_cons, hy, ok_bind, hys]
    exact ⟨y :: ys, rfl⟩

/-- **A list of requests is refused for the first that is refused**, whatever follows. -/
theorem mapM_eq_error_iff {f : α → Outcome β} {fault : Error} :
    ∀ {xs : List α}, xs.mapM f = .error fault ↔
      ∃ before x after, xs = before ++ x :: after ∧ (∀ other ∈ before, ∃ y, f other = .ok y) ∧
        f x = .error fault := by
  intro xs
  constructor
  · induction xs with
    | nil => rintro ⟨⟩
    | cons x xs ih =>
      intro h
      rw [List.mapM_cons] at h
      rcases bind_eq_error h with h | ⟨y, hy, h⟩
      · exact ⟨[], x, xs, rfl, List.forall_mem_nil _, h⟩
      rcases bind_eq_error h with h | ⟨rest, -, h⟩
      · obtain ⟨before, other, after, rfl, hbefore, hother⟩ := ih h
        exact ⟨x :: before, other, after, rfl, List.forall_mem_cons.mpr ⟨⟨y, hy⟩, hbefore⟩, hother⟩
      · cases h
  · rintro ⟨before, x, after, rfl, hbefore, hx⟩
    obtain ⟨ys, hys⟩ := exists_mapM_of_forall hbefore
    rw [List.mapM_append, hys, ok_bind, List.mapM_cons, hx, error_bind, error_bind]

/-- Inversion for a refused list of requests: it is refused for the fault of one of them. -/
theorem mapM_eq_error {f : α → Outcome β} {fault : Error} {xs : List α}
    (h : xs.mapM f = .error fault) : ∃ x ∈ xs, f x = .error fault := by
  obtain ⟨before, x, after, rfl, -, hx⟩ := mapM_eq_error_iff.mp h
  exact ⟨x, List.mem_append_right _ (List.mem_cons_self ..), hx⟩

/-- Requests with the same answers, member by member, have the same answer as a list. -/
theorem mapM_congr {f g : α → Outcome β} :
    ∀ {xs : List α}, (∀ x ∈ xs, f x = g x) → xs.mapM f = xs.mapM g := by
  intro xs
  induction xs with
  | nil => exact fun _ => rfl
  | cons x xs ih =>
    intro h
    obtain ⟨hx, hxs⟩ := List.forall_mem_cons.mp h
    rw [List.mapM_cons, List.mapM_cons, hx, ih hxs]

/-! ### Members and answers -/

/-- What holds of two lists member by member holds of each member of the second and one of the
first. -/
theorem exists_of_forall₂ {R : α → β → Prop} {xs : List α} {ys : List β}
    (h : List.Forall₂ R xs ys) {y : β} (hy : y ∈ ys) : ∃ x ∈ xs, R x y := by
  induction h with
  | nil => cases hy
  | cons hxy _ ih =>
    rcases List.mem_cons.mp hy with rfl | hy
    · exact ⟨_, List.mem_cons_self .., hxy⟩
    · obtain ⟨x, hx, hfx⟩ := ih hy
      exact ⟨x, List.mem_cons_of_mem _ hx, hfx⟩

/-- Every answer of a list of requests answers one of them. -/
theorem mem_of_mapM_eq_ok {f : α → Outcome β} {xs : List α} {ys : List β}
    (h : xs.mapM f = .ok ys) {y : β} (hy : y ∈ ys) : ∃ x ∈ xs, f x = .ok y :=
  exists_of_forall₂ (mapM_eq_ok h) hy

end QueryFrame.Outcome
