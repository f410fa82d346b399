import FindQuery.Proofs.DecimalText
import FindQuery.Proofs.DescriptorLaw
import Mathlib.Logic.ExistsUnique

namespace FindQuery

theorem exists_of_bind_eq_ok {α β : Type} {x : Except Fault α} {f : α → Except Fault β} {b : β}
    (h : x >>= f = .ok b) : ∃ a, x = .ok a ∧ f a = .ok b := by
  cases x with
  | ok a => exact ⟨a, rfl, h⟩
  | error e => cases h

theorem Numeral.toInt_nonpos {m : Numeral} (h : m.negative = true) : m.toInt ≤ 0 := by
  rw [toInt, h]
  exact Int.neg_nonpos_of_nonneg (Int.natCast_nonneg _)

namespace Pagination

/-- The integers that values denote: numbers themselves, and written integers that have no more
digits than are converted. -/
inductive Denotes : Value → Int → Prop
  | number (n : Int) : Denotes (.int n) n
  | text {t : Text} {m : Numeral} (ht : integerNumeral? t = some m)
      (hlength : m.whole.length ≤ Numeral.maxIntegerDigits) : Denotes (.str t) m.toInt

/-- The number of documents in front of a page; the first page and all numbers below it have
none. -/
def skipOf (limit page : Int) : Int := if 1 < page then (page - 1) * limit else 0

/-- The limit of a query, the default in place of one out of range. -/
def limitOf (fields : Fields Value) (defaultLimit : Int) : Except Fault Int := do
  let given ← readInteger fields Key.limit defaultLimit
  return if given < 1 then defaultLimit else given

/-- The page that a value names; the first one if it names none. -/
def pageOf (v : Value) : Except Fault Int := readInteger [(Key.page, v)] Key.page firstPage

variable {fields fields' : Fields Value} {v : Value} {n limit skip defaultLimit defaultSkip : Int}

theorem readInteger_congr {name : Text} (h : fields.find? name = fields'.find? name)
    (default : Int) : readInteger fields name default = readInteger fields' name default := by
  rw [readInteger, readInteger, h]

theorem read_eq (fields : Fields Value) (defaultLimit defaultSkip : Int) :
    read fields defaultLimit defaultSkip = do
      let limit ← limitOf fields defaultLimit
      if ((fields.find? Key.page).getD .null).isTruthy then
        let page ← readInteger fields Key.page firstPage
        return (limit, skipOf limit page)
      else
        let skip ← readInteger fields Key.skip defaultSkip
        return (limit, if skip < 0 then defaultSkip else skip) := by
  rw [read, limitOf, bind_assoc]
  rfl

theorem limitOf_of_read (h : read fields defaultLimit defaultSkip = .ok (limit, skip)) :
    limitOf fields defaultLimit = .ok limit := by
  rw [read_eq] at h
  obtain ⟨given, hgiven, h⟩ := exists_of_bind_eq_ok h
  split at h
  · obtain ⟨page, -, h⟩ := exists_of_bind_eq_ok h
    cases h
    exact hgiven
  · obtain ⟨skip, -, h⟩ := exists_of_bind_eq_ok h
    cases h
    exact hgiven

/-- With a page that counts as given, a query is paginated by its limit and this page alone. -/
theorem read_insert_page (hv : v.isTruthy = true) (fields : Fields Value)
    (defaultLimit defaultSkip : Int) :
    read (fields.insert Key.page v) defaultLimit defaultSkip = do
      let limit ← limitOf fields defaultLimit
      let page ← pageOf v
      return (limit, skipOf limit page) := by
  have hpage : (fields.insert Key.page v).find? Key.page = some v := by
    rw [Fields.find?_insert, if_pos rfl]
  have hlimit : (fields.insert Key.page v).find? Key.limit = fields.find? Key.limit := by
    rw [Fields.find?_insert, if_neg (by decide)]
  have hread : readInteger (fields.insert Key.page v) Key.page firstPage = pageOf v :=
    readInteger_congr (hpage.trans (if_pos rfl).symm) firstPage
  rw [read_eq, hpage, hread, limitOf, limitOf, readInteger_congr hlimit, Option.getD_some]
  simp only [hv, ↓reduceIte]

theorem pageOf_of_denotes (h : Denotes v n) : pageOf v = .ok n := by
  cases h with
  | number => rfl
  | @text t m ht hlength =>
    have hfind : Fields.find? Key.page [(Key.page, Value.str t)] = some (.str t) := if_pos rfl
    have hm : m.toInt? = .ok m.toInt := if_neg (Nat.not_lt.2 hlength)
    simp only [pageOf, readInteger, hfind, ht, hm]

theorem pageOf_of_not_integer (hkind : v.kind ≠ .int) (htext : isIntegerText v = false) :
    pageOf v = .ok firstPage := by
  cases v with
  | int n => exact absurd rfl hkind
  | str t =>
    have hfind : Fields.find? Key.page [(Key.page, Value.str t)] = some (.str t) := if_pos rfl
    have hnone : integerNumeral? t = none :=
      Option.isNone_iff_eq_none.1 (Option.isSome_eq_false_iff.1 htext)
    simp only [pageOf, readInteger, hfind, hnone]
  | null | bool | float | list | map => rfl

theorem pageOf_of_overlong {t : Text} {m : Numeral} (ht : integerNumeral? t = some m)
    (hlength : Numeral.maxIntegerDigits < m.whole.length) :
    pageOf (.str t) = .error (.tooManyDigits m.whole.length) := by
  have hfind : Fields.find? Key.page [(Key.page, Value.str t)] = some (.str t) := if_pos rfl
  have hm : m.toInt? = .error m.whole.length := if_pos hlength
  simp only [pageOf, readInteger, hfind, ht, hm]

theorem skipOf_eq {limit page : Int} (h : 1 ≤ page) : skipOf limit page = (page - 1) * limit := by
  unfold skipOf
  split
  · rfl
  · obtain rfl : page = 1 := by omega
    exact (Int.zero_mul limit).symm

theorem skipOf_of_lt_two {limit page : Int} (h : page < 2) : skipOf limit page = 0 :=
  if_neg (by omega)

/-- Every number is the place of a document on exactly one page. -/
theorem existsUnique_page {limit : Int} (hlimit : 1 ≤ limit) (place : Nat) :
    ∃! page, 1 ≤ page ∧ skipOf limit page ≤ place ∧ place < skipOf limit page + limit := by
  have hpage {page : Int} (h : 1 ≤ page) : skipOf limit page ≤ place ∧
      place < skipOf limit page + limit ↔ (place : Int) / limit = page - 1 := by
    rw [skipOf_eq h]
    exact (Int.ediv_eq_iff_of_pos (by omega)).symm
  have hnonneg : 0 ≤ (place : Int) / limit := Int.ediv_nonneg (by omega) (by omega)
  refine ⟨place / limit + 1, ⟨by omega, (hpage (by omega)).2 (by omega)⟩, ?_⟩
  rintro page ⟨hone, hplace⟩
  have hdiv := (hpage hone).1 hplace
  omega

theorem integerNumeral?_ofInt (p : Int) : ∃ m, integerNumeral? (Text.ofInt p) = some m ∧
    m.toInt = p ∧ m.whole.length = (Text.ofNat p.natAbs).length := by
  obtain ⟨m, hread, hinteger, hvalue, hlength⟩ := Numeral.ofText?_ofInt p
  refine ⟨m, ?_, hvalue, hlength⟩
  rw [integerNumeral?, hread, Option.filter_some, if_pos hinteger]

theorem integerNumeral?_minus_digits {t : Text} {ds : List Nat} (ht : Text.IsDecimal t ds)
    (hne : ds ≠ []) : integerNumeral? ('-' :: t) = some ⟨true, ds, none, none⟩ := by
  rw [integerNumeral?, Numeral.ofText?_minus_digits ht hne]
  rfl

theorem denotes_ofInt {p : Int}
    (h : (Text.ofNat p.natAbs).length ≤ Numeral.maxIntegerDigits) :
    Denotes (.str (Text.ofInt p)) p := by
  obtain ⟨m, hm, hvalue, hlength⟩ := integerNumeral?_ofInt p
  have hdenotes := Denotes.text hm (hlength.trans_le h)
  rwa [hvalue] at hdenotes

theorem isTruthy_of_numeral {t : Text} {m : Numeral} (h : integerNumeral? t = some m) :
    (Value.str t).isTruthy = true := by
  cases t with
  | nil => cases h
  | cons => rfl

end Pagination

/-- Pages tile the result. The limit of a query that can be paginated is positive, and every place
in the result lies on exactly one page. A page may be given as a number or in its written form, and
what the query says about documents to skip makes no difference to it. A page that is no integer, or
is one below two, is the first one; written integers of more digits than are converted are
refused. -/
theorem pages_tile_the_result (c : QueryCompiler) {q : Fields Value} {l s₀ : Int}
    (h : c.pagination q = .ok (l, s₀)) :
    1 ≤ l ∧ 0 ≤ s₀ ∧
    (∀ n : Nat, ∃! p : Int, 1 ≤ p ∧
      ∃ s, c.pagination (q.insert Key.page (.int p)) = .ok (l, s) ∧ s ≤ n ∧ n < s + l) ∧
    (∀ p : Int, p ≠ 0 → (Text.ofNat p.natAbs).length ≤ Numeral.maxIntegerDigits →
      c.pagination (q.insert Key.page (.str (Text.ofInt p))) =
        c.pagination (q.insert Key.page (.int p))) ∧
    (∀ (v : Value) (q' : Fields Value), v.isTruthy = true →
      (∀ k, k ≠ Key.skip → q'.find? k = q.find? k) →
        c.pagination (q'.insert Key.page v) = c.pagination (q.insert Key.page v)) ∧
    (∀ v : Value, v.isTruthy = true → v.kind ≠ .int → Pagination.isIntegerText v = false →
      c.pagination (q.insert Key.page v) = .ok (l, 0)) ∧
    (∀ (v : Value) (p : Int), v.isTruthy = true → Pagination.Denotes v p → p < 2 →
      c.pagination (q.insert Key.page v) = .ok (l, 0)) ∧
    ∀ (t : Text) (m : Numeral), Pagination.integerNumeral? t = some m →
      Numeral.maxIntegerDigits < m.whole.length →
        c.pagination (q.insert Key.page (.str t)) = .error (.tooManyDigits m.whole.length) := by
  have hlimit := Pagination.limitOf_of_read h
  have hpage {v : Value} (hv : v.isTruthy = true) : c.pagination (q.insert Key.page v) = do
      let page ← Pagination.pageOf v
      return (l, Pagination.skipOf l page) := by
    rw [QueryCompiler.pagination, Pagination.read_insert_page hv, hlimit]
    rfl
  have hdenotes {v : Value} {p : Int} (hv : v.isTruthy = true) (hp : Pagination.Denotes v p) :
      c.pagination (q.insert Key.page v) = .ok (l, Pagination.skipOf l p) := by
    rw [hpage hv, Pagination.pageOf_of_denotes hp]
    rfl
  obtain ⟨hl, hs⟩ := (Pagination.read_ends (F := fun _ => True) c.one_le_defaultLimit
    c.zero_le_defaultSkip fun _ _ _ _ => trivial).value _ h
  have hnumber {p : Int} (hp : p ≠ 0) : (Value.int p).isTruthy = true := decide_eq_true hp
  refine ⟨hl, hs, ?_, ?_, ?_, ?_, ?_, ?_⟩
  · intro n
    refine (existsUnique_congr fun p => and_congr_right fun hp => ?_).2
      (Pagination.existsUnique_page hl n)
    rw [hdenotes (hnumber (by omega)) (.number p)]
    constructor
    · rintro ⟨s, hs, hplace⟩
      cases hs
      exact hplace
    · exact fun hplace => ⟨_, rfl, hplace⟩
  · intro p hp hlength
    obtain ⟨m, hm, -⟩ := Pagination.integerNumeral?_ofInt p
    rw [hdenotes (hnumber hp) (.number p),
      hdenotes (Pagination.isTruthy_of_numeral hm) (Pagination.denotes_ofInt hlength)]
  · intro v q' hv hq
    have hfind := Pagination.readInteger_congr (hq Key.limit (by decide)) c.defaultLimit
    rw [QueryCompiler.pagination, QueryCompiler.pagination, Pagination.read_insert_page hv,
      Pagination.read_insert_page hv, Pagination.limitOf, Pagination.limitOf, hfind]
  · intro v hv hkind htext
    rw [hpage hv, Pagination.pageOf_of_not_integer hkind htext]
    rfl
  · intro v p hv hp hlt
    rw [hdenotes hv hp, Pagination.skipOf_of_lt_two hlt]
  · intro t m ht hlength
    rw [hpage (Pagination.isTruthy_of_numeral ht), Pagination.pageOf_of_overlong ht hlength]
    rfl

theorem pages_tile_the_result_tenth :
    let q : Fields Value := [(Key.skip, .str "soon".toList), (Key.limit, .str "10".toList)]
    QueryCompiler.populating.pagination q = .ok (10, 0) ∧
    (∃! p : Int, 1 ≤ p ∧
      ∃ s, QueryCompiler.populating.pagination (q.insert Key.page (.int p)) = .ok (10, s) ∧
        s ≤ (25 : Nat) ∧ (25 : Nat) < s + 10) ∧
    QueryCompiler.populating.pagination (q.insert Key.page (.str (Text.ofInt 3))) =
      QueryCompiler.populating.pagination (q.insert Key.page (.int 3)) ∧
    QueryCompiler.populating.pagination (q.insert Key.page (.bool true)) = .ok (10, 0) ∧
    QueryCompiler.populating.pagination (q.insert Key.page (.int (-2))) = .ok (10, 0) := by
  intro q
  have hq : QueryCompiler.populating.pagination q = .ok (10, 0) := rfl
  obtain ⟨-, -, hunique, hwritten, -, hother, hfirst, -⟩ := pages_tile_the_result _ hq
  exact ⟨hq, hunique 25, hwritten 3 (by decide) (by decide),
    hother (.bool true) rfl (by decide) rfl, hfirst _ (-2) rfl (.number _) (by decide)⟩

/-- A page below two is not always the first one: a written integer is refused, whatever it denotes,
if it has more digits than are converted. -/
theorem overlong_page_below_two_is_refused :
    let page : Text := '-' :: List.replicate 4301 '1'
    (∃ m, Pagination.integerNumeral? page = some m ∧ m.toInt < 2) ∧
    QueryCompiler.populating.pagination [] = .ok (100, 0) ∧
    QueryCompiler.populating.pagination (Fields.insert Key.page (.str page) []) =
      .error (.tooManyDigits 4301) := by
  intro page
  have hdecimal := Text.isDecimal_replicate 4301 (show 1 < 10 by decide)
  have hpage := Pagination.integerNumeral?_minus_digits hdecimal (List.cons_ne_nil _ _)
  have hoverlong := Pagination.pageOf_of_overlong hpage (List.length_replicate ▸ by decide)
  have hlimit : Pagination.limitOf [] 100 = .ok 100 := rfl
  refine ⟨⟨_, hpage, (Numeral.toInt_nonpos rfl).trans_lt (by decide)⟩, rfl, ?_⟩
  have hread := Pagination.read_insert_page (Pagination.isTruthy_of_numeral hpage) [] 100 0
  rw [hlimit, hoverlong, List.length_replicate] at hread
  exact hread

end FindQuery
