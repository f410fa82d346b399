import FindQuery.Journal
import Mathlib.Data.List.Forall2
import Mathlib.Data.List.ReduceOption

namespace FindQuery.Journal

variable {α β : Type} {P : α → Prop} {Q : β → Prop} {F : Fault → Prop}

/-- Every value that a computation gives satisfies `P`, and every fault it ends in satisfies `F`. -/
structure Ends (x : Journal α) (P : α → Prop) (F : Fault → Prop) : Prop where
  value : ∀ a, x.outcome = .ok a → P a
  fault : ∀ e, x.outcome = .error e → F e

theorem outcome_of_toOption {x : Journal α} {a : α} (h : x.outcome.toOption = some a) :
    x.outcome = .ok a := by
  cases ho : x.outcome with
  | ok b =>
    rw [ho] at h
    cases h
    rfl
  | error e =>
    rw [ho] at h
    cases h

theorem outcome_bind (x : Journal α) (f : α → Journal β) :
    (x >>= f).outcome = x.outcome >>= fun a => (f a).outcome := by
  cases h : x.outcome with
  | ok a =>
    rw [bind_of_ok h]
    rfl
  | error e =>
    rw [bind_of_error h]
    rfl

theorem outcome_bind_eq_ok {x : Journal α} {f : α → Journal β} {b : β} :
    (x >>= f).outcome = .ok b ↔ ∃ a, x.outcome = .ok a ∧ (f a).outcome = .ok b := by
  rw [outcome_bind]
  cases x.outcome with
  | ok a =>
    constructor
    · exact fun h => ⟨a, rfl, h⟩
    · rintro ⟨_, ⟨⟩, h⟩
      exact h
  | error e =>
    constructor
    · intro h
      cases h
    · rintro ⟨_, ⟨⟩, -⟩

theorem outcome_collect_eq_ok {f : α → Journal (Option β)} {xs : List α} {ys : List β} :
    (collect f xs).outcome = .ok ys ↔
      ∃ zs, List.Forall₂ (fun x z => (f x).outcome = .ok z) xs zs ∧ zs.reduceOption = ys := by
  induction xs generalizing ys with
  | nil =>
    constructor
    · rintro ⟨⟩
      exact ⟨[], .nil, rfl⟩
    · rintro ⟨_, ⟨⟩, rfl⟩
      rfl
  | cons x xs ih =>
    rw [collect, outcome_bind_eq_ok]
    simp only [outcome_bind_eq_ok, ih]
    constructor
    · rintro ⟨z, hz, _, ⟨zs, hzs, rfl⟩, ⟨⟩⟩
      refine ⟨z :: zs, .cons hz hzs, ?_⟩
      cases z <;> rfl
    · rintro ⟨_, h, rfl⟩
      obtain ⟨z, zs, hz, hzs, rfl⟩ := List.forall₂_cons_left_iff.1 h
      refine ⟨z, hz, _, ⟨zs, hzs, rfl⟩, ?_⟩
      cases z <;> rfl

theorem exists_of_outcome_collect {f : α → Journal (Option β)} {xs : List α} {ys : List β}
    (h : (collect f xs).outcome = .ok ys) : ∀ x ∈ xs, ∃ z, (f x).outcome = .ok z := by
  obtain ⟨zs, hzs, -⟩ := outcome_collect_eq_ok.1 h
  clear h
  induction hzs with
  | nil => exact nofun
  | cons hz _ ih => exact List.forall_mem_cons.2 ⟨⟨_, hz⟩, ih⟩

theorem exists_outcomes {f : α → Journal (Option β)} {xs : List α}
    (h : ∀ x ∈ xs, ∃ z, (f x).outcome = .ok z) :
    ∃ zs, List.Forall₂ (fun x z => (f x).outcome = .ok z) xs zs := by
  induction xs with
  | nil => exact ⟨[], .nil⟩
  | cons x xs ih =>
    obtain ⟨⟨z, hz⟩, hxs⟩ := List.forall_mem_cons.1 h
    obtain ⟨zs, hzs⟩ := ih hxs
    exact ⟨z :: zs, .cons hz hzs⟩

theorem reduceOption_outcomes_eq_nil {f : α → Journal (Option β)} {xs : List α}
    {zs : List (Option β)}
    (h : List.Forall₂ (fun x z => (f x).outcome = .ok z) xs zs) :
    zs.reduceOption = [] ↔ ∀ x ∈ xs, (f x).outcome = .ok none := by
  induction h with
  | nil => exact ⟨fun _ => nofun, fun _ => rfl⟩
  | @cons x z xs zs hz _ ih =>
    rw [List.forall_mem_cons, hz]
    cases z with
    | none => simpa only [List.reduceOption_cons_of_none, true_and] using ih
    | some v => simp only [List.reduceOption_cons_of_some, reduceCtorEq, Except.ok.injEq, false_and]

theorem ends_pure {a : α} (h : P a) : Ends (pure a) P F := by
  constructor
  · intro b hb
    cases hb
    exact h
  · intro e he
    cases he

theorem ends_fault {e : Fault} (h : F e) : Ends (fault e) P F := by
  constructor
  · intro a ha
    cases ha
  · intro d hd
    cases hd
    exact h

theorem ends_ofExcept {x : Except Fault α} (hv : ∀ a, x = .ok a → P a)
    (hf : ∀ e, x = .error e → F e) : Ends (ofExcept x) P F :=
  ⟨hv, hf⟩

theorem ends_write (r : Record) : (write r).Ends (fun _ => True) F := by
  constructor
  · intro _ _
    trivial
  · intro e he
    cases he

theorem ends_true (x : Journal α) : x.Ends (fun _ => True) fun _ => True :=
  ⟨fun _ _ => trivial, fun _ _ => trivial⟩

theorem Ends.mono {R : α → Prop} {x : Journal α} (h : x.Ends P F) (hR : ∀ a, P a → R a) :
    x.Ends R F :=
  ⟨fun a ha => hR a (h.value a ha), h.fault⟩

theorem Ends.bind {x : Journal α} {f : α → Journal β} (hx : x.Ends P F)
    (hf : ∀ a, P a → (f a).Ends Q F) : (x >>= f).Ends Q F := by
  cases ho : x.outcome with
  | ok a =>
    have ha := hf a (hx.value a ho)
    rw [bind_of_ok ho]
    exact ⟨ha.value, ha.fault⟩
  | error e =>
    have he := hx.fault e ho
    rw [bind_of_error ho]
    constructor
    · intro b hb
      cases hb
    · intro d hd
      cases hd
      exact he

theorem Ends.and {R : α → Prop} {x : Journal α} (hP : x.Ends P F) (hR : x.Ends R F) :
    x.Ends (fun a => P a ∧ R a) F :=
  ⟨fun a ha => ⟨hP.value a ha, hR.value a ha⟩, hP.fault⟩

/-- What follows a computation matters only for the values that it can give. -/
theorem Ends.outcome_bind {x : Journal α} {f g : α → Journal β} (hx : x.Ends P F)
    (h : ∀ a, P a → (f a).outcome = (g a).outcome) : (x >>= f).outcome = (x >>= g).outcome := by
  rw [Journal.outcome_bind, Journal.outcome_bind]
  cases ho : x.outcome with
  | ok a => exact h a (hx.value a ho)
  | error e => rfl

theorem ofExcept_bind (x : Except Fault α) (f : α → Except Fault β) :
    ofExcept (x >>= f) = ofExcept x >>= fun a => ofExcept (f a) := by
  cases x <;> rfl

theorem Ends.map {x : Journal α} {f : α → β} (hx : x.Ends P F) (hf : ∀ a, P a → Q (f a)) :
    (f <$> x).Ends Q F := by
  rw [map_eq_pure_bind]
  exact hx.bind fun a ha => ends_pure (hf a ha)

theorem ends_collect {f : α → Journal (Option β)} {xs : List α}
    (h : ∀ x ∈ xs, (f x).Ends (fun y => ∀ b ∈ y, Q b) F) :
    (collect f xs).Ends (fun ys => ∀ b ∈ ys, Q b) F := by
  induction xs with
  | nil =>
    apply ends_pure
    intro b hb
    cases hb
  | cons x xs ih =>
    have hxs := ih fun y hy => h y (.tail _ hy)
    refine (h x (.head _)).bind fun y hy => hxs.bind fun ys hys => ends_pure ?_
    intro b hb
    rcases List.mem_append.1 hb with hb | hb
    · exact hy b (Option.mem_toList.1 hb)
    · exact hys b hb

theorem ends_mapM {f : α → Journal β} {xs : List α} (h : ∀ x ∈ xs, (f x).Ends Q F) :
    (xs.mapM f).Ends (fun ys => ∀ b ∈ ys, Q b) F := by
  induction xs with
  | nil =>
    apply ends_pure
    intro b hb
    cases hb
  | cons x xs ih =>
    have hxs := ih fun y hy => h y (.tail _ hy)
    rw [List.mapM_cons]
    refine (h x (.head _)).bind fun y hy => hxs.bind fun ys hys => ends_pure ?_
    intro b hb
    rcases List.mem_cons.1 hb with rfl | hb
    · exact hy
    · exact hys b hb

end FindQuery.Journal
