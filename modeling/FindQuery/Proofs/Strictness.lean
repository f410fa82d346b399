import FindQuery.Proofs.Lockstep

namespace FindQuery

/-- The token and the reason of a record of a refused token. -/
def Record.refusal? : Record → Option (Text × Reason)
  | .rejected token reason => some (token, reason)
  | .dropped _ | .compiled .. => none

namespace Journal

variable {α β : Type}

/-- The first refusal that a computation notes. -/
def firstRefusal? (x : Journal α) : Option (Text × Reason) := x.records.findSome? Record.refusal?

/-- A computation that ends where it would note its first refusal, with that refusal as fault. -/
def untilRefusal (x : Journal α) : Journal α :=
  match x.firstRefusal? with
  | some (token, reason) =>
    ⟨x.records.takeWhile (·.refusal?.isNone), .error (.rejected token reason)⟩
  | none => x

theorem untilRefusal_of_some {x : Journal α} {token : Text} {reason : Reason}
    (h : x.firstRefusal? = some (token, reason)) :
    x.untilRefusal =
      ⟨x.records.takeWhile (·.refusal?.isNone), .error (.rejected token reason)⟩ := by
  rw [untilRefusal, h]

theorem untilRefusal_of_none {x : Journal α} (h : x.firstRefusal? = none) :
    x.untilRefusal = x := by
  rw [untilRefusal, h]

theorem firstRefusal?_eq_none {x : Journal α} :
    x.firstRefusal? = none ↔ ∀ r ∈ x.records, r.refusal?.isNone = true := by
  simp [firstRefusal?]

theorem takeWhile_append_of_refusal {x : Journal α} {refusal : Text × Reason}
    (h : x.firstRefusal? = some refusal) (rest : List Record) :
    (x.records ++ rest).takeWhile (·.refusal?.isNone) =
      x.records.takeWhile (·.refusal?.isNone) := by
  rw [List.takeWhile_append]
  apply if_neg
  intro hlength
  have hall : (x.records.takeWhile (·.refusal?.isNone)).all (·.refusal?.isNone) :=
    List.all_takeWhile
  rw [(List.takeWhile_prefix _).eq_of_length hlength, List.all_eq_true] at hall
  rw [firstRefusal?_eq_none.2 hall] at h
  cases h

theorem exists_records_bind (x : Journal α) (f : α → Journal β) :
    ∃ rest, (x >>= f).records = x.records ++ rest := by
  cases ho : x.outcome with
  | ok a => exact ⟨_, by rw [bind_of_ok ho]⟩
  | error fault => exact ⟨[], by rw [bind_of_error ho, List.append_nil]⟩

theorem untilRefusal_bind_of_some {x : Journal α} (f : α → Journal β)
    {refusal : Text × Reason} (h : x.firstRefusal? = some refusal) :
    (x >>= f).untilRefusal = x.untilRefusal >>= fun a => (f a).untilRefusal := by
  obtain ⟨rest, he⟩ := exists_records_bind x f
  have hb : (x >>= f).firstRefusal? = some refusal := by
    rw [firstRefusal?, he, List.findSome?_append, ← firstRefusal?, h, Option.some_or]
  rw [untilRefusal_of_some hb, untilRefusal_of_some h, he, takeWhile_append_of_refusal h]
  rfl

theorem untilRefusal_bind_of_none {x : Journal α} (f : α → Journal β)
    (h : x.firstRefusal? = none) :
    (x >>= f).untilRefusal = x >>= fun a => (f a).untilRefusal := by
  cases ho : x.outcome with
  | error fault =>
    rw [bind_of_error ho, bind_of_error ho]
    exact untilRefusal_of_none h
  | ok a =>
    have hb : (x >>= f).firstRefusal? = (f a).firstRefusal? := by
      rw [bind_of_ok ho, firstRefusal?, List.findSome?_append, ← firstRefusal?, h]
      rfl
    rw [bind_of_ok ho] at hb ⊢
    rw [bind_of_ok ho]
    cases hf : (f a).firstRefusal? with
    | some refusal =>
      have hall := firstRefusal?_eq_none.1 h
      rw [hf] at hb
      rw [untilRefusal_of_some hb, untilRefusal_of_some hf, List.takeWhile_append_of_pos hall]
    | none =>
      rw [hf] at hb
      rw [untilRefusal_of_none hb, untilRefusal_of_none hf]

theorem untilRefusal_bind (x : Journal α) (f : α → Journal β) :
    (x >>= f).untilRefusal = x.untilRefusal >>= fun a => (f a).untilRefusal := by
  cases h : x.firstRefusal? with
  | some refusal => exact untilRefusal_bind_of_some f h
  | none =>
    rw [untilRefusal_of_none h]
    exact untilRefusal_bind_of_none f h

/-- Computations of which the second is the first, cut at its first refusal. -/
theorem lockstep_untilRefusal : Lockstep fun x y => x.untilRefusal = y where
  silent _ _ := rfl
  dropped _ := rfl
  bind hx hf := by
    rw [untilRefusal_bind, hx, funext hf]

end Journal

namespace Filter

theorem untilRefusal_reject (o : FilterOptions) (token : Text) (reason : Reason) :
    (reject { o with strict := false } token reason).untilRefusal =
      reject { o with strict := true } token reason := rfl

theorem untilRefusal_nodeAt (o : FilterOptions) (levels : Nat) (token : Text) :
    (nodeAt { o with strict := false } levels token).untilRefusal =
      nodeAt { o with strict := true } levels token := by
  induction levels generalizing token with
  | zero => cases token <;> exact untilRefusal_reject o _ _
  | succ levels ih =>
    apply lockstep_nodeAt_succ Journal.lockstep_untilRefusal
    · exact fun reason _ => untilRefusal_reject o token reason
    · rfl
    · rfl
    · exact fun _ _ _ t _ => ih t

theorem untilRefusal_compileQuery (o : FilterOptions) (query : Value) (depth : Int) :
    (compileQuery { o with strict := false } query depth).untilRefusal =
      compileQuery { o with strict := true } query depth := by
  cases query with
  | map fields =>
    apply lockstep_compileFields Journal.lockstep_untilRefusal
    exact fun _ _ t _ => untilRefusal_nodeAt o _ t
  | null | bool | int | float | str | list => rfl

end Filter

/-- A strict run ends with the first refusal that a lenient run notes, and keeps the records before
it. A lenient run that refuses nothing ends as the strict one does. -/
structure Journal.StopsAtRefusal {α : Type} (strict lenient : Journal α) : Prop where
  refused : ∀ token reason, lenient.firstRefusal? = some (token, reason) →
    strict.outcome = .error (.rejected token reason)
  same : lenient.firstRefusal? = none → strict.outcome = lenient.outcome
  given : ∀ a, strict.outcome = .ok a → lenient.outcome = .ok a
  noted : strict.records = lenient.records.takeWhile (·.refusal?.isNone)

theorem Journal.stopsAtRefusal_untilRefusal {α : Type} (x : Journal α) :
    StopsAtRefusal x.untilRefusal x := by
  cases h : x.firstRefusal? with
  | some refusal =>
    have hx := untilRefusal_of_some h
    rw [hx]
    refine ⟨?_, ?_, ?_, rfl⟩
    · intro token reason he
      rw [h] at he
      cases he
      rfl
    · intro he
      rw [h] at he
      cases he
    · intro a ha
      cases ha
  | none =>
    rw [untilRefusal_of_none h]
    refine ⟨?_, fun _ => rfl, fun _ ha => ha, ?_⟩
    · intro token reason he
      rw [h] at he
      cases he
    · have hx : (x.records ++ []).takeWhile (·.refusal?.isNone) = x.records ++ [] :=
        List.takeWhile_append_of_pos (firstRefusal?_eq_none.1 h)
      rw [List.append_nil] at hx
      exact hx.symm

/-- Classifying a token and compiling a query with the strict option ends with the first refusal of
the run without it, and is the same run if that refuses nothing. -/
theorem strict_run_stops_at_first_refusal (o : FilterOptions) (depth : Int) :
    (∀ token, Journal.StopsAtRefusal (Filter.tokenNode { o with strict := true } token depth)
      (Filter.tokenNode { o with strict := false } token depth)) ∧
    (∀ query, Journal.StopsAtRefusal (Filter.compileQuery { o with strict := true } query depth)
      (Filter.compileQuery { o with strict := false } query depth)) := by
  constructor
  · intro token
    have h : (Filter.tokenNode { o with strict := false } token depth).untilRefusal =
        Filter.tokenNode { o with strict := true } token depth :=
      Filter.untilRefusal_nodeAt o _ token
    rw [← h]
    exact Journal.stopsAtRefusal_untilRefusal _
  · intro query
    rw [← Filter.untilRefusal_compileQuery]
    exact Journal.stopsAtRefusal_untilRefusal _

end FindQuery
