import FindQuery.Handler
import Mathlib.Data.List.Nodup
import Mathlib.Data.Option.Basic

namespace FindQuery

/-- A fault of a call whose arguments do not fit the parameters. -/
def Fault.IsMisfit : Fault → Prop
  | .missingArgument _ | .tooManyArguments | .repeatedArgument _ | .unknownArgument _ => True
  | .rejected .. | .notToken _ | .notQuery _ | .outOfRange .. | .tooManyDigits _ | .noLookup _
  | .notIterable _ | .noClosingBrace | .emptySeparator | .noParameter .. | .invalid _ => False

namespace Handler

/-- The argument of a call for the parameter `p` at place `j`, if there is one. -/
def given (positional : List Argument) (named : Fields Argument) (j : Nat) (p : Parameter) :
    Option Argument :=
  positional[j]?.or (named.find? p.name)

/-- All parameters without default have an argument. -/
def IsComplete (bound : Fields Argument) (params : List Parameter) : Prop :=
  ∀ p ∈ params, p.default = none → p.name ∈ bound.keys

/-- The arguments of a call fit the parameters. -/
structure Binds (params : List Parameter) (positional : List Argument)
    (named : Fields Argument) : Prop where
  room : positional.length ≤ params.length
  once : ∀ p ∈ params.take positional.length, p.name ∉ named.keys
  known : ∀ k ∈ named.keys, ∃ p ∈ params, p.name = k
  complete : IsComplete named (params.drop positional.length)

/-- The arguments with the names of some parameters, in the order of the parameters. -/
def selected (named : Fields Argument) (params : List Parameter) : Fields Argument :=
  params.filterMap fun p => (named.find? p.name).map fun a => (p.name, a)

variable {params : List Parameter} {positional : List Argument} {named bound : Fields Argument}

theorem find?_selected (named : Fields Argument) (params : List Parameter) (k : Text) :
    (selected named params).find? k =
      if k ∈ params.map (·.name) then named.find? k else none := by
  induction params with
  | nil => rfl
  | cons p ps ih =>
    rw [selected, List.filterMap_cons]
    cases hp : named.find? p.name with
    | none =>
      refine ih.trans ?_
      by_cases hk : k = p.name
      · simp [hk, hp]
      · simp [hk]
    | some a =>
      change Fields.find? k ((p.name, a) :: selected named ps) = _
      rw [Fields.find?, ih]
      by_cases hk : p.name = k
      · simp [← hk, hp]
      · simp [hk, Ne.symm hk]

theorem binds_nil_right : Binds params [] named ↔
    (∀ k ∈ named.keys, ∃ p ∈ params, p.name = k) ∧ IsComplete named params := by
  constructor
  · intro h
    exact ⟨h.known, h.complete⟩
  · intro h
    exact ⟨Nat.zero_le _, fun p hp => absurd hp List.not_mem_nil, h.1, h.2⟩

theorem not_binds_nil_cons (a : Argument) : ¬ Binds [] (a :: positional) named := by
  intro h
  exact absurd h.room (Nat.not_succ_le_zero _)

theorem binds_cons_cons {p : Parameter} {a : Argument} :
    Binds (p :: params) (a :: positional) named ↔
      p.name ∉ named.keys ∧ Binds params positional named := by
  constructor
  · intro h
    have hp := h.once p (List.mem_cons_self ..)
    refine ⟨hp, Nat.le_of_succ_le_succ h.room, fun q hq => h.once q (.tail p hq), ?_, h.complete⟩
    intro k hk
    obtain ⟨q, hq, rfl⟩ := h.known k hk
    rcases List.mem_cons.1 hq with rfl | hq
    · exact absurd hk hp
    · exact ⟨q, hq, rfl⟩
  · rintro ⟨hp, h⟩
    refine ⟨Nat.succ_le_succ h.room, ?_, ?_, h.complete⟩
    · intro q hq
      rcases List.mem_cons.1 hq with rfl | hq
      · exact hp
      · exact h.once q hq
    · intro k hk
      obtain ⟨q, hq, rfl⟩ := h.known k hk
      exact ⟨q, .tail p hq, rfl⟩

theorem bindNames_eq (h : IsComplete named params) :
    bindNames named params = .ok (selected named params) := by
  induction params with
  | nil => rfl
  | cons p ps ih =>
    have hrest := ih fun q hq => h q (.tail p hq)
    rw [bindNames, selected, List.filterMap_cons]
    cases hp : named.find? p.name with
    | some a => simp only [hrest]; rfl
    | none =>
      have hd : p.default.isSome = true := by
        rw [Option.isSome_iff_ne_none]
        intro hd
        exact Fields.find?_eq_none_iff.1 hp (h p (List.mem_cons_self ..) hd)
      simp only [hd, if_true, hrest]
      rfl

theorem bindNames_error (h : ¬ IsComplete named params) :
    ∃ e : Fault, e.IsMisfit ∧ bindNames named params = .error e := by
  induction params with
  | nil => exact absurd (fun p hp => absurd hp List.not_mem_nil) h
  | cons p ps ih =>
    have hrest (hp : p.default = none → p.name ∈ named.keys) :
        ∃ e : Fault, e.IsMisfit ∧ bindNames named ps = .error e :=
      ih fun hps => h (List.forall_mem_cons.2 ⟨hp, hps⟩)
    rw [bindNames]
    cases hp : named.find? p.name with
    | some a =>
      have hmem : p.name ∈ named.keys := Fields.isSome_find?_iff.1 (Option.isSome_of_eq_some hp)
      obtain ⟨e, he, hb⟩ := hrest fun _ => hmem
      refine ⟨e, he, ?_⟩
      simp only [hb]
      rfl
    | none =>
      by_cases hd : p.default.isSome = true
      · simp only [hd, if_true]
        exact hrest fun hnone => absurd hnone (Option.isSome_iff_ne_none.1 hd)
      · exact ⟨.missingArgument p.name, trivial, by simp only [hd]; rfl⟩

theorem bind_nil : bind params [] named =
    (do
      let second ← bindNames named params
      match List.find? (fun e => params.all (·.name ≠ e.1)) named with
      | some e => .error (.unknownArgument e.1)
      | none => return second) := by
  simp only [bind, bindPositions]
  rfl

theorem bind_cons_cons (p : Parameter) (a : Argument) :
    bind (p :: params) (a :: positional) named =
      if p.name ∈ named.keys then .error (.repeatedArgument p.name)
      else return (p.name, a) :: (← bind params positional named) := by
  simp only [bind, bindPositions, ← Fields.isSome_find?_iff]
  split
  · rfl
  · cases bindPositions named params positional with
    | error e => rfl
    | ok b =>
      obtain ⟨first, left⟩ := b
      change (bindNames named left >>= fun second => _) = (bindNames named left >>= _) >>= _
      cases bindNames named left with
      | error e => rfl
      | ok second =>
        simp only [Bind.bind, Except.bind]
        cases List.find? (fun e => left.all fun q => decide (q.name ≠ e.1)) named <;> rfl

theorem find?_unknown_eq_none :
    List.find? (fun e => params.all (·.name ≠ e.1)) named = none ↔
      ∀ k ∈ named.keys, ∃ p ∈ params, p.name = k := by
  simp [Fields.keys]

/-- A call that fits binds each parameter to the argument given for it. -/
theorem bind_of_binds (hn : (params.map (·.name)).Nodup) (h : Binds params positional named) :
    ∃ bound, bind params positional named = .ok bound ∧
      ∀ (j : Nat) (hj : j < params.length),
        bound.find? params[j].name = given positional named j params[j] := by
  induction positional generalizing params with
  | nil =>
    obtain ⟨hknown, hcomplete⟩ := binds_nil_right.1 h
    refine ⟨selected named params, ?_, ?_⟩
    · rw [bind_nil, bindNames_eq hcomplete]
      simp only [find?_unknown_eq_none.2 hknown]
      rfl
    · intro j hj
      rw [find?_selected, if_pos (List.mem_map_of_mem (List.getElem_mem hj))]
      rfl
  | cons a as ih =>
    cases params with
    | nil => exact absurd h (not_binds_nil_cons a)
    | cons p ps =>
      obtain ⟨hp, hps⟩ := binds_cons_cons.1 h
      obtain ⟨hpn, hpsn⟩ := List.nodup_cons.1 hn
      obtain ⟨bound, hb, hfind⟩ := ih hpsn hps
      refine ⟨(p.name, a) :: bound, ?_, ?_⟩
      · rw [bind_cons_cons, if_neg hp, hb]
        rfl
      · intro j hj
        cases j with
        | zero => simp [Fields.find?, given]
        | succ j =>
          have hj' : j < ps.length := Nat.lt_of_succ_lt_succ hj
          have hne : p.name ≠ ps[j].name := by
            intro he
            exact hpn (List.mem_map.2 ⟨ps[j], List.getElem_mem hj', he.symm⟩)
          rw [List.getElem_cons_succ, Fields.find?, if_neg hne, hfind j hj']
          rfl

theorem bind_of_not_binds (h : ¬ Binds params positional named) :
    ∃ e : Fault, e.IsMisfit ∧ bind params positional named = .error e := by
  induction positional generalizing params with
  | nil =>
    by_cases hcomplete : IsComplete named params
    · rw [bind_nil, bindNames_eq hcomplete]
      cases hu : List.find? (fun e => params.all (·.name ≠ e.1)) named with
      | some e =>
        refine ⟨.unknownArgument e.1, trivial, ?_⟩
        rfl
      | none => exact absurd (binds_nil_right.2 ⟨find?_unknown_eq_none.1 hu, hcomplete⟩) h
    · obtain ⟨e, he, hb⟩ := bindNames_error hcomplete
      refine ⟨e, he, ?_⟩
      rw [bind_nil, hb]
      rfl
  | cons a as ih =>
    cases params with
    | nil => exact ⟨.tooManyArguments, trivial, rfl⟩
    | cons p ps =>
      rw [bind_cons_cons]
      by_cases hp : p.name ∈ named.keys
      · exact ⟨.repeatedArgument p.name, trivial, if_pos hp⟩
      · obtain ⟨e, he, hb⟩ := ih fun hps => h (binds_cons_cons.2 ⟨hp, hps⟩)
        refine ⟨e, he, ?_⟩
        rw [if_neg hp, hb]
        rfl

theorem Binds.isComplete_bound (h : Binds params positional named)
    (hbound : ∀ (j : Nat) (hj : j < params.length),
      bound.find? params[j].name = given positional named j params[j]) :
    IsComplete bound params := by
  intro p hp hd
  obtain ⟨j, hj, rfl⟩ := List.getElem_of_mem hp
  rw [← Fields.isSome_find?_iff, hbound j hj, given]
  by_cases hlt : j < positional.length
  · rw [List.getElem?_eq_getElem hlt]
    rfl
  · have hmem : params[j] ∈ params.drop positional.length :=
      List.mem_drop_iff_getElem.2 ⟨j - positional.length, by omega, by congr 1; omega⟩
    rw [List.getElem?_eq_none (Nat.le_of_not_lt hlt), Option.none_or]
    exact Fields.isSome_find?_iff.2 (h.complete _ hmem hd)

theorem find?_selected_of_mem {p : Parameter} (hp : p ∈ params) :
    (selected named params).find? p.name = named.find? p.name := by
  rw [find?_selected, if_pos (List.mem_map_of_mem hp)]

theorem binds_selected (h : IsComplete bound params) :
    Binds params [] (selected bound params) := by
  refine binds_nil_right.2 ⟨?_, ?_⟩
  · intro k hk
    rw [← Fields.isSome_find?_iff, find?_selected] at hk
    by_cases hmem : k ∈ params.map (·.name)
    · exact List.mem_map.1 hmem
    · rw [if_neg hmem] at hk
      cases hk
  · intro p hp hd
    rw [← Fields.isSome_find?_iff, find?_selected_of_mem hp]
    exact Fields.isSome_find?_iff.2 (h p hp hd)

/-- Spreading bound arguments gives a call that fits and that gives each parameter what it was
bound to. -/
theorem spread_binds (hn : (params.map (·.name)).Nodup)
    (h : IsComplete bound params) :
    Binds params (spread bound params).1 (spread bound params).2 ∧
      ∀ (j : Nat) (hj : j < params.length),
        given (spread bound params).1 (spread bound params).2 j params[j] =
          bound.find? params[j].name := by
  induction params with
  | nil => exact ⟨binds_selected h, fun j hj => absurd hj (Nat.not_lt_zero j)⟩
  | cons p ps ih =>
    cases hp : bound.find? p.name with
    | some a =>
      have hspread : spread bound (p :: ps) = (a :: (spread bound ps).1, (spread bound ps).2) := by
        rw [spread, hp]
      obtain ⟨hpn, hpsn⟩ := List.nodup_cons.1 hn
      obtain ⟨hbinds, hgiven⟩ := ih hpsn fun q hq => h q (.tail p hq)
      rw [hspread]
      refine ⟨binds_cons_cons.2 ⟨?_, hbinds⟩, ?_⟩
      · intro hmem
        exact hpn (List.mem_map.2 (hbinds.known p.name hmem))
      · intro j hj
        cases j with
        | zero => exact hp.symm
        | succ j => exact hgiven j (Nat.lt_of_succ_lt_succ hj)
    | none =>
      -- The named arguments begin here; `p` itself is not among them.
      have hspread : spread bound (p :: ps) = ([], selected bound (p :: ps)) := by
        rw [spread, selected, List.filterMap_cons, hp]
        rfl
      rw [hspread]
      exact ⟨binds_selected h, fun j hj => find?_selected_of_mem (List.getElem_mem hj)⟩

theorem IsComplete.insert (h : IsComplete bound params) (k : Text) (a : Argument) :
    IsComplete (bound.insert k a) params := by
  intro p hp hd
  rw [← Fields.isSome_find?_iff, Fields.find?_insert]
  split
  · rfl
  · exact Fields.isSome_find?_iff.2 (h p hp hd)

theorem map_some_seen (h : IsComplete bound params) :
    (seen params bound).map some = params.map fun p => (bound.find? p.name).or p.default := by
  induction params with
  | nil => rfl
  | cons p ps ih =>
    have hp : ((bound.find? p.name).or p.default).isSome = true := by
      cases hd : p.default with
      | some a => simp
      | none =>
        rw [Option.or_none]
        exact Fields.isSome_find?_iff.2 (h p (List.mem_cons_self ..) hd)
    obtain ⟨a, ha⟩ := Option.isSome_iff_exists.1 hp
    have hrest := ih fun q hq => h q (.tail p hq)
    rw [seen] at hrest ⊢
    rw [List.filterMap_cons, ha, List.map_cons, List.map_cons, hrest, ha]

theorem map_some_seen_of_binds (h : Binds params positional named)
    (hbound : ∀ (j : Nat) (hj : j < params.length),
      bound.find? params[j].name = given positional named j params[j]) :
    (seen params bound).map some =
      params.mapIdx fun j p => (given positional named j p).or p.default := by
  rw [map_some_seen (h.isComplete_bound hbound)]
  refine List.ext_getElem (by simp) fun j hj _ => ?_
  rw [List.length_map] at hj
  simp only [List.getElem_map, List.getElem_mapIdx, hbound j hj]

theorem arguments_spread (hn : (params.map (·.name)).Nodup) (h : IsComplete bound params) :
    arguments params (spread bound params).1 (spread bound params).2 =
      .ok (seen params bound) := by
  obtain ⟨hbinds, hgiven⟩ := spread_binds hn h
  obtain ⟨again, hagain, hfind⟩ := bind_of_binds hn hbinds
  have hseen : seen params again = seen params bound := by
    refine List.filterMap_congr fun p hp => ?_
    obtain ⟨j, hj, rfl⟩ := List.getElem_of_mem hp
    rw [hfind j hj, hgiven j hj]
  rw [arguments, hagain, ← hseen]
  rfl

/-- A new argument for one parameter is seen in its place, and nothing else changes. -/
theorem seen_insert (hn : (params.map (·.name)).Nodup) (h : IsComplete bound params)
    (i : Fin params.length) (a : Argument) :
    seen params (bound.insert params[i].name a) = (seen params bound).set i a := by
  apply List.map_injective_iff.2 (Option.some_injective _)
  rw [List.map_set, map_some_seen (h.insert _ a), map_some_seen h]
  refine List.ext_getElem (by simp) fun j hj _ => ?_
  rw [List.length_map] at hj
  have hname : params[i].name = params[j].name ↔ i.val = j := by
    have hi : i.val < (params.map (·.name)).length := by simp
    have hj' : j < (params.map (·.name)).length := by simpa using hj
    have hinj : (params.map (·.name))[i.val] = (params.map (·.name))[j] ↔ i.val = j :=
      hn.getElem_inj_iff
    simpa using hinj
  simp only [List.getElem_map, List.getElem_set, Fields.find?_insert, hname]
  split <;> simp

theorem seen_insert_self {k : Text} {a : Argument} (h : bound.find? k = some a)
    (params : List Parameter) : seen params (bound.insert k a) = seen params bound := by
  refine List.filterMap_congr fun p _ => ?_
  rw [Fields.find?_insert]
  split
  · next hk => rw [← hk, h]
  · rfl

end Handler

namespace Routine

variable {α : Type} {params : List Parameter} {positional : List Argument}
  {named bound : Fields Argument}

theorem run_callable (f : Routine α) (params : List Parameter) (positional : List Argument)
    (named : Fields Argument) :
    (f.callable params).run positional named =
      (do
        let seen ← Handler.arguments params positional named
        f.body seen) := by
  rw [Callable.run, callable]
  cases f.isCoroutine <;> simp [Returned.awaited]

theorem call_eq (f : Routine α) (handler : Text) (i : Fin params.length)
    (compiler : Except Fault QueryCompiler) (positional : List Argument)
    (named : Fields Argument) :
    f.call handler params params[i].name compiler positional named =
      (do
        let arguments ←
          Handler.convertArguments params params[i].name compiler positional named
        (f.callable params).run arguments.1 arguments.2) := by
  have hparam : ¬ params.all (·.name ≠ params[i].name) = true := by
    intro hall
    have h := List.all_eq_true.1 hall params[i] (List.getElem_mem i.isLt)
    simp at h
  rw [call, decorate, if_neg hparam]
  change Callable.run (f.decorated params params[i].name compiler) positional named = _
  rw [Callable.run, decorated]
  cases f.isCoroutine <;> simp [Returned.awaited, Callable.run]

theorem call_of_bound (f : Routine α) (handler : Text) (hn : (params.map (·.name)).Nodup)
    (i : Fin params.length) (compiler : Except Fault QueryCompiler)
    (hb : Handler.bind params positional named = .ok bound)
    (hc : Handler.IsComplete bound params) :
    f.call handler params params[i].name compiler positional named =
      match bound.find? params[i].name with
      | some a => do
        let a ← Handler.convert compiler a
        f.body ((Handler.seen params bound).set i a)
      | none => f.body (Handler.seen params bound) := by
  rw [call_eq, Handler.convertArguments, hb, Journal.lift_ok_bind]
  simp only [Handler.convertNamed, run_callable]
  cases bound.find? params[i].name with
  | none => simp only [pure_bind, Handler.arguments_spread hn hc, Journal.lift_ok_bind]
  | some a =>
    simp only [bind_assoc, pure_bind, Handler.arguments_spread hn (hc.insert _ _),
      Journal.lift_ok_bind, Handler.seen_insert hn hc]

/-- A decorated handler refuses the calls that the handler itself refuses, whatever it does and
whatever would be compiled. In all other calls it sees what it would see without decoration, but
that an argument for the parameter is compiled first. -/
theorem call_changes_one_argument (hn : (params.map (·.name)).Nodup) (i : Fin params.length)
    (positional : List Argument) (named : Fields Argument) :
    (¬ Handler.Binds params positional named → ∃ e : Fault, e.IsMisfit ∧
      ∀ {α : Type} (f : Routine α) (handler : Text) (compiler : Except Fault QueryCompiler),
        (f.callable params).run positional named = Journal.fault e ∧
          f.call handler params params[i].name compiler positional named = Journal.fault e) ∧
    (Handler.Binds params positional named → ∃ values : List Argument,
      values.map some =
          params.mapIdx (fun j p => (Handler.given positional named j p).or p.default) ∧
      ∀ {α : Type} (f : Routine α) (handler : Text) (compiler : Except Fault QueryCompiler),
        (f.callable params).run positional named = f.body values ∧
          f.call handler params params[i].name compiler positional named =
            match Handler.given positional named i params[i] with
            | some (.value v) => do
              let c ← compiler
              let d ← c.compile v
              f.body (values.set i (.query d))
            | some (.query _) | none => f.body values) := by
  constructor
  · intro h
    obtain ⟨e, he, hb⟩ := Handler.bind_of_not_binds h
    refine ⟨e, he, fun f handler compiler => ⟨?_, ?_⟩⟩
    · rw [run_callable, Handler.arguments, hb]
      rfl
    · rw [call_eq, Handler.convertArguments, hb]
      rfl
  · intro h
    obtain ⟨bound, hb, hbound⟩ := Handler.bind_of_binds hn h
    have hc := h.isComplete_bound hbound
    refine ⟨Handler.seen params bound, Handler.map_some_seen_of_binds h hbound,
      fun f handler compiler => ⟨?_, ?_⟩⟩
    · rw [run_callable, Handler.arguments, hb]
      rfl
    · have hgiven : bound.find? params[i].name = Handler.given positional named i params[i] :=
        hbound i i.isLt
      rw [call_of_bound f handler hn i compiler hb hc, ← hgiven]
      match hi : bound.find? params[i].name with
      | none => rfl
      | some (.query d) =>
        simp only [Handler.convert, pure_bind]
        rw [← Handler.seen_insert hn hc, Handler.seen_insert_self hi]
      | some (.value v) => simp only [Handler.convert, bind_assoc, pure_bind]

/-- The parameters `query`, `page` and `limit`; the last two have defaults. -/
def paged : List Parameter :=
  [⟨"query".toList, none⟩, ⟨"page".toList, some (.value (.int 1))⟩,
    ⟨"limit".toList, some (.value (.int 5))⟩]

/-- The default of `page` is skipped, so that `limit` is passed on by name. -/
theorem call_changes_one_argument_paged :
    (paged.map (·.name)).Nodup ∧
      (Routine.mk pure true).call "list".toList paged "query".toList (QueryCompiler.make {} {})
          [.value (.str "age=3".toList)] [("limit".toList, .value (.int 7))] =
        (do
          let c ← QueryCompiler.make {} {}
          let d ← c.compile (.str "age=3".toList)
          return [.query d, .value (.int 1), .value (.int 7)]) := by
  have hn : (paged.map (·.name)).Nodup := by decide
  have hbinds : Handler.Binds paged [.value (.str "age=3".toList)]
      [("limit".toList, .value (.int 7))] := by
    refine ⟨by decide, ?_, ?_, ?_⟩
    · decide
    · decide
    · unfold Handler.IsComplete
      decide
  obtain ⟨values, hvalues, hcall⟩ := (call_changes_one_argument hn ⟨0, by decide⟩ _ _).2 hbinds
  have hv : values = [.value (.str "age=3".toList), .value (.int 1), .value (.int 7)] := by
    apply List.map_injective_iff.2 (Option.some_injective _)
    rw [hvalues]
    rfl
  refine ⟨hn, ?_⟩
  rw [hv] at hcall
  exact (hcall (Routine.mk pure true) "list".toList (QueryCompiler.make {} {})).2

end Routine

end FindQuery
