import FindQuery.Proofs.DecimalText
import FindQuery.Proofs.Refusals
import FindQuery.Proofs.StrictConjunctions

namespace FindQuery

namespace Numeral

/-- An integer, written as an optional sign and digits of any script, with leading zeros or
without. -/
inductive IsInteger : Text → Int → Prop
  | mk {s t : Text} {negative : Bool} {ds : List Nat} (hs : IsSign s negative)
      (ht : Instant.IsDigits t ds) (hne : ds ≠ []) (hlength : ds.length ≤ 4300) :
      IsInteger (s ++ t) (signed negative (Nat.ofDigits 10 ds.reverse))

theorem isInteger_iff {s : Text} {k : Int} : IsInteger s k ↔
    ∃ n, IsWritten s n ∧ n.isInteger = true ∧ n.whole.length ≤ maxIntegerDigits ∧ n.toInt = k := by
  constructor
  · rintro ⟨hs, ht, hne, hlength⟩
    refine ⟨_, isWritten_integer hs ht hne, rfl, hlength, ?_⟩
    rw [toInt, ofDigits_eq]
  · rintro ⟨n, hn, hinteger, hlength, rfl⟩
    obtain ⟨hs, hw, hf, he, hne⟩ := hn
    obtain ⟨hfraction, hexponent⟩ := Bool.and_eq_true_iff.1 hinteger
    cases hf with
    | point => cases hfraction
    | none =>
      cases he with
      | power => cases hexponent
      | none =>
        rw [List.append_nil, List.append_nil, toInt, ofDigits_eq]
        exact .mk hs hw (hne.resolve_right fun h => h rfl) hlength

theorem isInteger_eq_false_iff {n : Numeral} :
    n.isInteger = false ↔ n.fraction ≠ none ∨ n.exponent ≠ none := by
  rw [isInteger, Bool.and_eq_false_iff]
  simp only [Option.isNone_eq_false_iff, Option.isSome_iff_ne_none]

end Numeral

namespace Filter

theorem numberValue_cases (n : Numeral) :
    (n.isInteger = true ∧ Numeral.maxIntegerDigits < n.whole.length ∧
      numberValue n = .error (.tooManyDigits n.whole.length)) ∨
    (n.isInteger = true ∧ n.whole.length ≤ Numeral.maxIntegerDigits ∧
      numberValue n = .ok (.int n.toInt)) ∨
    (n.isInteger = false ∧ numberValue n = .ok (.float n.toBinary64)) := by
  by_cases hinteger : n.isInteger = true
  · rw [numberValue, if_pos hinteger, Numeral.toInt?]
    by_cases hlength : Numeral.maxIntegerDigits < n.whole.length
    · rw [if_pos hlength]
      exact .inl ⟨hinteger, hlength, rfl⟩
    · rw [if_neg hlength]
      exact .inr (.inl ⟨hinteger, Nat.le_of_not_lt hlength, rfl⟩)
  · rw [numberValue, if_neg hinteger]
    exact .inr (.inr ⟨Bool.eq_false_of_not_eq_true hinteger, rfl⟩)

theorem numberValue_eq_int {n : Numeral} {k : Int} : numberValue n = .ok (.int k) ↔
    n.isInteger = true ∧ n.whole.length ≤ Numeral.maxIntegerDigits ∧ n.toInt = k := by
  rcases numberValue_cases n with ⟨hinteger, hlength, hn⟩ | ⟨hinteger, hlength, hn⟩ | ⟨hfloat, hn⟩
  · rw [hn]
    exact iff_of_false nofun fun h => absurd h.2.1 (Nat.not_le_of_lt hlength)
  · rw [hn, Except.ok.injEq, Value.int.injEq]
    exact ⟨fun h => ⟨hinteger, hlength, h⟩, fun h => h.2.2⟩
  · rw [hn, hfloat]
    exact iff_of_false nofun fun h => Bool.false_ne_true h.1

theorem numberValue_eq_float {n : Numeral} {x : Binary64} : numberValue n = .ok (.float x) ↔
    n.isInteger = false ∧ x = n.toBinary64 := by
  rcases numberValue_cases n with ⟨hinteger, -, hn⟩ | ⟨hinteger, -, hn⟩ | ⟨hfloat, hn⟩
  · rw [hn, hinteger]
    exact iff_of_false nofun fun h => Bool.false_ne_true h.1.symm
  · rw [hn, hinteger]
    exact iff_of_false nofun fun h => Bool.false_ne_true h.1.symm
  · rw [hn, Except.ok.injEq, Value.float.injEq]
    exact ⟨fun h => ⟨hfloat, h.symm⟩, fun h => h.2.symm⟩

variable {o : FilterOptions} {inner : Text → Journal (Option Value)} {token : Text} {v : Value}

theorem number_of_compileShape {rule : Rule} {shape : Shape} (hread : rule.read? token = some shape)
    (hnode : (compileShape o inner token shape).outcome = .ok (some v))
    (hkind : v.kind = .int ∨ v.kind = .float) : ∃ n, shape = .number n := by
  have hoperator (h : shape.IsOperator) : False := by
    obtain ⟨entries, rfl, -⟩ := ((compileShape_isMapNode h).value _ hnode).2 v rfl
    rcases hkind with hkind | hkind <;> cases hkind
  cases shape with
  | number n => exact ⟨n, rfl⟩
  | container w =>
    cases Shape.rule_of_read? hread
    obtain ⟨_, hw, he⟩ := Option.map_eq_some_iff.1 hread
    cases he
    cases hnode
    rcases (Json.read?_of_readContainer? hw).2 with hmap | hlist
    · rw [hmap] at hkind
      rcases hkind with hkind | hkind <;> cases hkind
    · rw [hlist] at hkind
      rcases hkind with hkind | hkind <;> cases hkind
  | date | boolean | plain =>
    cases hnode
    rcases hkind with hkind | hkind <;> cases hkind
  | elemMatch | logical | alternatives | conjunction | comparison | existence | fieldType
  | pattern => exact (hoperator trivial).elim

variable {depth : Int}

theorem tokenNode_number (hrules : o.rules = Rule.table) (hdepth : depth ≤ o.maxDepth)
    {n : Numeral} (hn : Numeral.ofText? token = some n) :
    tokenNode o token depth = Journal.ofExcept (numberValue n) >>= fun v => pure (some v) := by
  have hread : Rule.number.read? token = some (.number n) := Option.map_eq_some_iff.2 ⟨n, hn, rfl⟩
  rw [tokenNode_of_free hrules hread hdepth (by decide)]
  rfl

/-- A token gives a number exactly if it is read as a numeral of this value. -/
theorem outcome_tokenNode_number (hrules : o.rules = Rule.table) (hdepth : depth ≤ o.maxDepth)
    (hkind : v.kind = .int ∨ v.kind = .float) :
    (tokenNode o token depth).outcome = .ok (some v) ↔
      ∃ n, Numeral.ofText? token = some n ∧ numberValue n = .ok v := by
  constructor
  · intro hnode
    cases token with
    | nil =>
      have hnone : (reject o [] .emptyToken).Ends (fun node => ∀ w ∈ node, False) fun _ => True :=
        reject_ends _ fun _ => trivial
      rw [tokenNode, FilterOptions.levelsAt_eq_succ hdepth] at hnode
      exact (hnone.value _ hnode v rfl).elim
    | cons c r =>
      have htext : .text ∈ o.rules := hrules ▸ Rule.mem_table .text
      obtain ⟨shape, hshape⟩ := Shape.exists_ofToken? htext (c :: r)
      obtain ⟨rule, -, hread⟩ := List.exists_of_findSome?_eq_some hshape
      rw [tokenNode_of_shape hdepth (List.cons_ne_nil c r) hshape] at hnode
      obtain ⟨n, rfl⟩ := number_of_compileShape hread hnode hkind
      cases Shape.rule_of_read? hread
      obtain ⟨_, hn, he⟩ := Option.map_eq_some_iff.1 hread
      cases he
      obtain ⟨w, hw, he⟩ := Journal.outcome_bind_eq_ok.1 hnode
      cases he
      exact ⟨n, hn, hw⟩
  · rintro ⟨n, hn, hv⟩
    rw [tokenNode_number hrules hdepth hn, hv]
    rfl

end Filter

open FindQuery.Filter in
/-- A token gives an integer exactly if it is a sign and at most 4300 digits, and a floating-point
number exactly if it is written with a point or an exponent; one final newline is allowed. No other
rule but the one for text reads such a token. In particular the decimal text of an integer gives
this integer. -/
theorem numbers_are_read_as_written (o : FilterOptions) (hrules : o.rules = Rule.table)
    (depth : Int) (hdepth : depth ≤ o.maxDepth) :
    (∀ token k, (tokenNode o token depth).outcome = .ok (some (.int k)) ↔
      ∃ s, (token = s ∨ token = s ++ ['\n']) ∧ Numeral.IsInteger s k) ∧
    (∀ token x, (tokenNode o token depth).outcome = .ok (some (.float x)) ↔
      ∃ s n, (token = s ∨ token = s ++ ['\n']) ∧ Numeral.IsWritten s n ∧
        (n.fraction ≠ none ∨ n.exponent ≠ none) ∧ x = n.toBinary64) ∧
    (∀ token s n, (token = s ∨ token = s ++ ['\n']) → Numeral.IsWritten s n →
      Rule.matching token = [.number, .text]) ∧
    ∀ k : Int, (Text.ofNat k.natAbs).length ≤ 4300 →
      tokenNode o (Text.ofInt k) depth = pure (some (.int k)) ∧
        Rule.matching (Text.ofInt k) = [.number, .text] := by
  have hmatching {token : Text} {n : Numeral} (hn : Numeral.ofText? token = some n) :
      Rule.matching token = [.number, .text] := by
    apply Rule.matching_of_free (by decide)
    exact Rule.accepts_of_read? (Option.map_eq_some_iff.2 ⟨n, hn, rfl⟩)
  refine ⟨?_, ?_, ?_, ?_⟩
  · intro token k
    rw [outcome_tokenNode_number hrules hdepth (.inl rfl)]
    simp only [Numeral.ofText?_eq_some, numberValue_eq_int, Numeral.isInteger_iff]
    constructor
    · rintro ⟨n, ⟨s, ht, hs⟩, hn⟩
      exact ⟨s, ht, n, hs, hn⟩
    · rintro ⟨s, ht, n, hs, hn⟩
      exact ⟨n, ⟨s, ht, hs⟩, hn⟩
  · intro token x
    rw [outcome_tokenNode_number hrules hdepth (.inr rfl)]
    simp only [Numeral.ofText?_eq_some, numberValue_eq_float, Numeral.isInteger_eq_false_iff]
    constructor
    · rintro ⟨n, ⟨s, ht, hs⟩, hn⟩
      exact ⟨s, n, ht, hs, hn⟩
    · rintro ⟨s, n, ht, hs, hn⟩
      exact ⟨n, ⟨s, ht, hs⟩, hn⟩
  · intro token s n ht hs
    exact hmatching (Numeral.ofText?_eq_some.2 ⟨s, ht, hs⟩)
  · intro k hlength
    obtain ⟨n, hn, hinteger, hvalue, hdigits⟩ := Numeral.ofText?_ofInt k
    have hint : numberValue n = .ok (.int k) :=
      numberValue_eq_int.2 ⟨hinteger, hdigits ▸ hlength, hvalue⟩
    refine ⟨?_, hmatching hn⟩
    rw [tokenNode_number hrules hdepth hn, hint]
    rfl

theorem numbers_are_read_as_written_signed :
    (Filter.tokenNode {} "-٠٤٢\n".toList 0).outcome = .ok (some (.int (-42))) ∧
    (∃ x, (Filter.tokenNode {} "+.5e-3".toList 0).outcome = .ok (some (.float x))) ∧
    Rule.matching "+.5e-3".toList = [.number, .text] ∧
    Filter.tokenNode {} (Text.ofInt (-7)) 0 = pure (some (.int (-7))) := by
  have hdigits : Instant.IsDigits "٠٤٢".toList [0, 4, 2] :=
    .cons (by decide +kernel) (.cons (by decide +kernel) (.cons (by decide +kernel) .nil))
  have hinteger : Numeral.IsInteger "-٠٤٢".toList (-42) := .mk .minus hdigits nofun (by decide)
  have hpower : Numeral.IsExponent "e-3".toList (some (true, [3])) :=
    .power (.inl rfl) .minus (.cons rfl .nil) nofun
  have hfloat : Numeral.IsWritten "+.5e-3".toList ⟨false, [], some [5], some (true, [3])⟩ :=
    .mk .plus .nil (.point (.cons rfl .nil)) hpower (.inr nofun)
  obtain ⟨hint, hfloats, hmatching, htext⟩ :=
    numbers_are_read_as_written {} rfl 0 (by decide)
  exact ⟨(hint _ _).2 ⟨_, .inr rfl, hinteger⟩,
    ⟨_, (hfloats _ _).2 ⟨_, _, .inl rfl, hfloat, .inl nofun, rfl⟩⟩,
    hmatching _ _ _ (.inl rfl) hfloat, (htext (-7) (by decide)).1⟩

end FindQuery
