import FindQuery.Proofs.Lockstep

namespace FindQuery

namespace Journal

variable {α β : Type}

/-- The computation notes a refusal for a reason, or ends in one. -/
def Refuses (reason : Reason) (x : Journal α) : Prop :=
  ∃ token, .rejected token reason ∈ x.records ∨ x.outcome = .error (.rejected token reason)

theorem not_refuses_ofExcept {reason : Reason} {x : Except Fault α}
    (h : ∀ token reason, x ≠ .error (.rejected token reason)) : ¬ (ofExcept x).Refuses reason := by
  rintro ⟨token, hnoted | hended⟩
  · exact List.not_mem_nil hnoted
  · exact h token reason hended

theorem not_refuses_dropped {reason : Reason} {key : Text} :
    ¬ (write (.dropped key)).Refuses reason := by
  rintro ⟨token, hnoted | hended⟩
  · cases List.mem_singleton.1 hnoted
  · cases hended

theorem Refuses.bind {reason : Reason} {x : Journal α} (h : x.Refuses reason)
    (f : α → Journal β) : (x >>= f).Refuses reason := by
  obtain ⟨token, h⟩ := h
  refine ⟨token, ?_⟩
  cases ho : x.outcome with
  | error e =>
    rw [bind_of_error ho]
    rw [ho] at h
    exact h.imp_right fun he => by cases he; rfl
  | ok a =>
    rw [bind_of_ok ho]
    rw [ho] at h
    exact .inl (List.mem_append_left _ (h.resolve_right nofun))

theorem Refuses.bind_right {reason : Reason} {x : Journal α} {a : α} {f : α → Journal β}
    (ho : x.outcome = .ok a) (h : (f a).Refuses reason) : (x >>= f).Refuses reason := by
  obtain ⟨token, h⟩ := h
  rw [bind_of_ok ho]
  exact ⟨token, h.imp_left (List.mem_append_right _)⟩

theorem refuses_of_bind {reason : Reason} {x : Journal α} {f : α → Journal β}
    (h : (x >>= f).Refuses reason) : x.Refuses reason ∨ ∃ a, (f a).Refuses reason := by
  obtain ⟨token, h⟩ := h
  cases ho : x.outcome with
  | error e =>
    rw [bind_of_error ho] at h
    refine .inl ⟨token, ?_⟩
    rw [ho]
    exact h.imp_right fun he => by cases he; rfl
  | ok a =>
    rw [bind_of_ok ho] at h
    rcases h with h | h
    · rcases List.mem_append.1 h with h | h
      · exact .inl ⟨token, .inl h⟩
      · exact .inr ⟨a, token, .inl h⟩
    · exact .inr ⟨a, token, .inr h⟩

theorem lockstep_not_refuses (reason : Reason) :
    Lockstep fun x _ => ¬ x.Refuses reason where
  silent _ h := not_refuses_ofExcept h
  dropped _ := not_refuses_dropped
  bind hx hf h := by
    rcases refuses_of_bind h with h | ⟨a, h⟩
    · exact hx h
    · exact hf a h

theorem lockstep_refuses_or_eq (reason : Reason) :
    Lockstep fun x y => x.Refuses reason ∨ x = y where
  silent _ _ := .inr rfl
  dropped _ := .inr rfl
  bind {_ _ x y f g} hx hf := by
    rcases hx with hx | rfl
    · exact .inl (hx.bind f)
    · cases ho : x.outcome with
      | error e => exact .inr (by rw [bind_of_error ho, bind_of_error ho])
      | ok a =>
        rcases hf a with hf | hf
        · exact .inl (.bind_right ho hf)
        · exact .inr (by rw [bind_of_ok ho, bind_of_ok ho, hf])

end Journal

theorem Tag.length_lt_of_read? {tags : List Text} {t : Text} {tagged : Text × Text}
    (h : read? tags t = some tagged) : tagged.2.length < t.length := by
  obtain ⟨-, rfl⟩ := eq_of_read? h
  simp only [marker, List.length_append, List.length_cons, List.length_nil]
  omega

theorem Rule.length_lt_of_mem_tokens {rule : Rule} {token : Text} {shape : Shape}
    (h : rule.read? token = some shape) : ∀ t ∈ shape.tokens, t.length < token.length := by
  intro t ht
  cases rule with
  | elemMatch =>
    obtain ⟨tagged, hr, rfl⟩ := Option.map_eq_some_iff.1 h
    have hbody := Text.inherited_length_le tagged.2.length
    obtain ⟨e, he, hv⟩ := List.mem_filterMap.1 ht
    obtain ⟨v, hs, hlength⟩ := hbody.readFlat (hbody.separated (Nat.le_refl _)) he
    rw [hs] at hv
    cases hv
    exact Nat.lt_of_le_of_lt hlength (Tag.length_lt_of_read? hr)
  | logical =>
    obtain ⟨tagged, hr, rfl⟩ := Option.map_eq_some_iff.1 h
    rw [List.mem_singleton.1 ht]
    exact Tag.length_lt_of_read? hr
  | comparison =>
    obtain ⟨tagged, hr, rfl⟩ := Option.map_eq_some_iff.1 h
    rw [List.mem_singleton.1 ht]
    exact Tag.length_lt_of_read? hr
  | or =>
    obtain ⟨segments, hr, rfl⟩ := Option.map_eq_some_iff.1 h
    obtain ⟨rfl, haccepts⟩ := Alternatives.read?_eq_some_iff.1 hr
    have hbar : token.contains '|' = true := (Bool.and_eq_true_iff.1 haccepts).1
    exact Text.length_lt_of_mem_pieces (List.contains_iff_mem.1 hbar) ht
  | and =>
    obtain ⟨parts, hr, rfl⟩ := Option.map_eq_some_iff.1 h
    obtain ⟨rfl, hlength, -⟩ := Groups.read?_eq_some_iff.1 hr
    exact Groups.length_lt_of_mem_split hlength ht
  | element =>
    obtain ⟨tagged, -, rfl⟩ := Option.map_eq_some_iff.1 h
    unfold Rule.elementShape at ht
    split at ht <;> cases ht
  | text =>
    cases h
    split at ht <;> cases ht
  | json | date | number | boolean =>
    obtain ⟨_, -, rfl⟩ := Option.map_eq_some_iff.1 h
    cases ht

namespace Filter

variable {o : FilterOptions}

theorem not_refuses_reject {token : Text} {reason : Reason} (h : reason ≠ .maxDepth) :
    ¬ (reject o token reason).Refuses .maxDepth := by
  unfold reject
  rintro ⟨t, ht⟩
  split at ht
  · rcases ht with ht | ht
    · cases ht
    · cases ht
      exact h rfl
  · rcases ht with ht | ht
    · cases List.mem_singleton.1 ht
      exact h rfl
    · cases ht

theorem refuses_reject (token : Text) (reason : Reason) :
    (reject o token reason).Refuses reason := by
  refine ⟨token, ?_⟩
  unfold reject
  split
  · exact .inr rfl
  · exact .inl (.head _)

/-- One level for each character is enough. -/
theorem nodeAt_not_refuses {levels : Nat} {token : Text} (h : token.length ≤ levels) :
    ¬ (nodeAt o levels token).Refuses .maxDepth := by
  induction levels generalizing token with
  | zero =>
    rw [List.length_eq_zero_iff.1 (Nat.le_zero.1 h)]
    exact not_refuses_reject (by decide)
  | succ levels ih =>
    refine lockstep_nodeAt_succ (n := levels) (Journal.lockstep_not_refuses .maxDepth)
      (fun _ => not_refuses_reject) rfl rfl ?_
    intro rule shape hread t ht
    have hshorter := Rule.length_lt_of_mem_tokens hread t ht
    exact ih (by omega)

/-- More levels make a difference only to a token that is refused for its depth. -/
theorem nodeAt_refuses_or_eq {levels levels' : Nat} (h : levels ≤ levels') (token : Text) :
    (nodeAt o levels token).Refuses .maxDepth ∨ nodeAt o levels token = nodeAt o levels' token := by
  induction levels generalizing levels' token with
  | zero =>
    cases token with
    | nil => exact .inr (by cases levels' <;> rfl)
    | cons c r => exact .inl (refuses_reject (c :: r) .maxDepth)
  | succ levels ih =>
    cases levels' with
    | zero => exact absurd h (Nat.not_succ_le_zero levels)
    | succ levels' =>
      refine lockstep_nodeAt_succ (Journal.lockstep_refuses_or_eq .maxDepth)
        (fun _ _ => .inr rfl) rfl rfl ?_
      intro rule shape _ t _
      exact ih (Nat.le_of_succ_le_succ h) t

end Filter

/-- The bound on nesting shows in refusals only: a token that is not refused for its depth compiles
alike under every larger bound. A bound of the token's length is enough, since what is compiled
inside a token is shorter than the token. -/
theorem depth_bound_shows_in_refusals_only (o : FilterOptions) (token : Text) :
    (∀ (deeper : Int) (h : o.maxDepth ≤ deeper) (depth : Int),
      ¬ (Filter.tokenNode o token depth).Refuses .maxDepth →
      Filter.tokenNode
          { o with maxDepth := deeper, one_le_maxDepth := Int.le_trans o.one_le_maxDepth h }
          token depth =
        Filter.tokenNode o token depth) ∧
    (token.length ≤ o.maxDepth → ¬ (Filter.tokenNode o token 0).Refuses .maxDepth) ∧
    ∀ rule shape, Rule.read? rule token = some shape →
      (∀ t ∈ shape.tokens, t.length < token.length) ∧
      ∀ inner inner', (∀ t ∈ shape.tokens, inner t = inner' t) →
        Filter.compileShape o inner token shape = Filter.compileShape o inner' token shape := by
  refine ⟨?_, ?_, ?_⟩
  · intro deeper h depth hrefuses
    have hlevels : o.levelsAt depth ≤ (deeper - depth + 1).toNat := by
      unfold FilterOptions.levelsAt
      omega
    have hsame := (Filter.nodeAt_refuses_or_eq hlevels token).resolve_left hrefuses
    rw [Filter.tokenNode, Filter.tokenNode, hsame]
    refine Filter.nodeAt_congr ?_ ?_ ?_ _ token
    · rfl
    · rfl
    · intro t
      rfl
  · intro hlength
    apply Filter.nodeAt_not_refuses
    unfold FilterOptions.levelsAt
    omega
  · intro rule shape hread
    refine ⟨Rule.length_lt_of_mem_tokens hread, ?_⟩
    intro inner inner' h
    exact Filter.lockstep_compileShape Journal.lockstep_eq (fun _ _ => rfl) rfl h

theorem depth_bound_shows_in_refusals_only_nested :
    Filter.tokenNode { maxDepth := 99 } "{not}{elemMatch}a={gt}5".toList 0 =
      Filter.tokenNode { maxDepth := 23 } "{not}{elemMatch}a={gt}5".toList 0 ∧
    ¬ (Filter.tokenNode { maxDepth := 23 } "{not}{elemMatch}a={gt}5".toList 0).Refuses .maxDepth ∧
    "{elemMatch}a={gt}5".toList.length < "{not}{elemMatch}a={gt}5".toList.length := by
  obtain ⟨hdeeper, hlength, hinside⟩ :=
    depth_bound_shows_in_refusals_only { maxDepth := 23 } "{not}{elemMatch}a={gt}5".toList
  have hrefuses := hlength (by decide)
  obtain ⟨hshorter, -⟩ := hinside .logical
    (.logical "not".toList "{elemMatch}a={gt}5".toList) rfl
  exact ⟨hdeeper 99 (by decide) 0 hrefuses, hrefuses, hshorter _ (.head _)⟩

end FindQuery
