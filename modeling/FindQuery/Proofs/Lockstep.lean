import FindQuery.Proofs.Endings
import FindQuery.Proofs.Inheritance

namespace FindQuery

/-- The tokens among the values of a field. -/
def Value.tokens : Value → List Text
  | .str t => [t]
  | .list items => items.filterMap Value.text?
  | .null | .bool _ | .int _ | .float _ | .map _ => []

theorem Value.tokens_texts {α : Type} (f : α → Text) (xs : List α) :
    (Value.list (xs.map fun x => .str (f x))).tokens = xs.map f := by
  rw [tokens, List.filterMap_map]
  exact congrFun List.filterMap_eq_map xs

namespace Journal

/-- A relation that holds of every computation without refusals and itself, and that sequencing
keeps. -/
structure Lockstep (R : ∀ {α : Type}, Journal α → Journal α → Prop) : Prop where
  silent : ∀ {α : Type} (x : Except Fault α),
    (∀ token reason, x ≠ .error (.rejected token reason)) → R (ofExcept x) (ofExcept x)
  dropped : ∀ key, R (write (.dropped key)) (write (.dropped key))
  bind : ∀ {α β : Type} {x y : Journal α} {f g : α → Journal β},
    R x y → (∀ a, R (f a) (g a)) → R (x >>= f) (y >>= g)

theorem lockstep_eq : Lockstep fun x y => x = y where
  silent _ _ := rfl
  dropped _ := rfl
  bind hx hf := by
    rw [hx, funext hf]

theorem lockstep_outcome : Lockstep fun x y => x.outcome = y.outcome where
  silent _ _ := rfl
  dropped _ := rfl
  bind hx hf := by
    rw [outcome_bind, outcome_bind, hx, funext hf]

namespace Lockstep

variable {R : ∀ {α : Type}, Journal α → Journal α → Prop} (hR : Lockstep R)

include hR

theorem pure {α : Type} (a : α) : R (Pure.pure a : Journal α) (Pure.pure a) :=
  hR.silent (.ok a) nofun

theorem collect {α β : Type} {f g : α → Journal (Option β)} {xs : List α}
    (h : ∀ x ∈ xs, R (f x) (g x)) : R (collect f xs) (collect g xs) := by
  induction xs with
  | nil => exact hR.pure []
  | cons x xs ih =>
    have hxs := ih fun y hy => h y (.tail _ hy)
    exact hR.bind (h x (.head _)) fun _ => hR.bind hxs fun _ => hR.pure _

end Lockstep

end Journal

namespace Filter

variable {R : ∀ {α : Type}, Journal α → Journal α → Prop} (hR : Journal.Lockstep R)
  {inner inner' : Text → Journal (Option Value)}

include hR

theorem lockstep_compileToken {v : Value} (h : ∀ t, v = .str t → R (inner t) (inner' t)) :
    R (compileToken inner v) (compileToken inner' v) := by
  cases v with
  | str t => exact h t rfl
  | null | bool | int | float | list | map => exact hR.silent (.error _) nofun

theorem lockstep_compileItem {v : Value} (h : ∀ t, v = .str t → R (inner t) (inner' t)) :
    R (compileItem inner v) (compileItem inner' v) := by
  cases v with
  | null => exact hR.pure none
  | str | bool | int | float | list | map => exact lockstep_compileToken hR h

theorem lockstep_compileValue {v : Value} (h : ∀ t ∈ v.tokens, R (inner t) (inner' t)) :
    R (compileValue inner v) (compileValue inner' v) := by
  cases v with
  | str t => exact h t (.head _)
  | map entries => exact hR.pure _
  | list items =>
    have hitems : ∀ v ∈ items, R (compileItem inner v) (compileItem inner' v) := by
      intro v hv
      apply lockstep_compileItem hR
      rintro t rfl
      exact h t (List.mem_filterMap.2 ⟨_, hv, rfl⟩)
    exact hR.bind (hR.collect hitems) fun _ => hR.pure _
  | null | bool | int | float => exact hR.silent (.error _) nofun

theorem lockstep_compileField (lenientKeys : Bool) {field : Text × Value}
    (h : ∀ t ∈ field.2.tokens, R (inner t) (inner' t)) :
    R (compileField inner lenientKeys field) (compileField inner' lenientKeys field) := by
  simp only [compileField]
  split
  · exact hR.pure none
  · refine hR.bind (lockstep_compileValue hR h) fun node => ?_
    cases node with
    | some v => exact hR.pure _
    | none => exact hR.bind (hR.dropped field.1) fun _ => hR.pure none

theorem lockstep_compileFields (lenientKeys : Bool) {fields : Fields Value}
    (h : ∀ e ∈ fields, ∀ t ∈ e.2.tokens, R (inner t) (inner' t)) :
    R (compileFields inner lenientKeys fields) (compileFields inner' lenientKeys fields) :=
  hR.bind (hR.collect fun e he => lockstep_compileField hR lenientKeys (h e he)) fun _ => hR.pure _

section

variable {o o' : FilterOptions} {token : Text}
  (hreject : ∀ reason, reason ≠ .maxDepth → R (reject o token reason) (reject o' token reason))

include hreject

theorem lockstep_compileOperand (tag : Text) {operand : Text}
    (h : R (inner operand) (inner' operand)) :
    R (compileOperand o inner token tag operand) (compileOperand o' inner' token tag operand) := by
  refine hR.bind h fun node => ?_
  cases node with
  | some v => exact hR.pure _
  | none => exact hreject _ (by decide)

/-- One step: the builders refuse for every reason but the depth, and ask for no other tokens than
those inside the token. -/
theorem lockstep_compileShape (hkeys : o.lenientKeys = o'.lenientKeys) {shape : Shape}
    (h : ∀ t ∈ shape.tokens, R (inner t) (inner' t)) :
    R (compileShape o inner token shape) (compileShape o' inner' token shape) := by
  cases shape with
  | elemMatch body =>
    simp only [compileShape]
    split
    · exact hreject _ (by decide)
    · rw [hkeys]
      refine hR.bind (lockstep_compileFields hR _ ?_) fun _ => hR.pure _
      intro e he t ht
      apply h
      -- every value of a subquery is one string
      obtain ⟨d, -, rfl⟩ := List.mem_map.1 he
      exact List.mem_filterMap.2 ⟨_, he, congrArg some (List.mem_singleton.1 ht).symm⟩
  | logical tag operand => exact lockstep_compileOperand hR hreject tag (h operand (.head _))
  | alternatives segments =>
    refine hR.bind (hR.collect h) fun nodes => ?_
    split
    · exact hreject _ (by decide)
    · exact hR.pure _
  | conjunction parts =>
    refine hR.bind (hR.collect h) fun nodes => ?_
    simp only
    split
    · exact hreject _ (by decide)
    · exact hR.pure _
  | comparison tag operand =>
    simp only [compileShape]
    split
    · exact hreject _ (by decide)
    · exact lockstep_compileOperand hR hreject tag (h operand (.head _))
  | existence answer =>
    simp only [compileShape]
    split
    · exact hR.pure _
    · exact hreject _ (by decide)
  | fieldType name =>
    simp only [compileShape]
    split
    · exact hR.pure _
    · exact hreject _ (by decide)
  | number n =>
    refine hR.bind (hR.silent (numberValue n) ?_) fun _ => hR.pure _
    intro token reason
    simp only [numberValue]
    split
    · cases n.toInt? <;> nofun
    · nofun
  | container | date | boolean | plain | pattern => exact hR.pure _

theorem lockstep_nodeAt_succ (hkeys : o.lenientKeys = o'.lenientKeys)
    (hshape : Shape.ofToken? o.rules token = Shape.ofToken? o'.rules token) {m n : Nat}
    (h : ∀ rule shape, Rule.read? rule token = some shape → ∀ t ∈ shape.tokens,
      R (nodeAt o m t) (nodeAt o' n t)) :
    R (nodeAt o (m + 1) token) (nodeAt o' (n + 1) token) := by
  cases token with
  | nil => exact hreject _ (by decide)
  | cons c r =>
    simp only [nodeAt, hshape]
    split
    · next shape hread =>
      obtain ⟨rule, -, hrule⟩ := List.exists_of_findSome?_eq_some hread
      exact lockstep_compileShape hR hreject hkeys (h rule shape hrule)
    · exact hR.pure none

end

omit hR in
/-- Nodes depend on the options only through their strictness, their key characters, and the shapes
that their rules read. -/
theorem nodeAt_congr {o o' : FilterOptions} (hstrict : o.strict = o'.strict)
    (hkeys : o.lenientKeys = o'.lenientKeys)
    (hshape : ∀ t, Shape.ofToken? o.rules t = Shape.ofToken? o'.rules t) (levels : Nat)
    (token : Text) : nodeAt o levels token = nodeAt o' levels token := by
  have hreject (token : Text) (reason : Reason) :
      reject o token reason = reject o' token reason := by
    rw [reject, reject, hstrict]
  induction levels generalizing token with
  | zero => cases token <;> exact hreject _ _
  | succ levels ih =>
    exact lockstep_nodeAt_succ Journal.lockstep_eq (fun _ _ => hreject token _) hkeys (hshape token)
      fun _ _ _ t _ => ih t

end Filter

end FindQuery
