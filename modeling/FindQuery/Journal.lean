import FindQuery.Fault

namespace FindQuery

inductive Record where
  | rejected (token : Text) (reason : Reason)
  /-- A field was left out because its value gave nothing. -/
  | dropped (key : Text)
  | compiled (limit skip : Int) (keys : List Text)
  deriving DecidableEq

namespace Record

/-- The part of the program that writes a record. -/
def source : Record → Text
  | .rejected .. => "mongoquery.querydsl.classifier".toList
  | .dropped _ => "mongoquery.querydsl.compiler".toList
  | .compiled .. => "MongoQueryParser".toList

def message : Record → Text
  | .rejected token reason =>
    "Dropping filter value ".toList ++ token.quoted ++ ' ' :: '(' :: reason.label ++ [')']
  | .dropped key => "Dropping filter on ".toList ++ key.quoted
  | .compiled limit skip keys =>
    "Compiled query limit=".toList ++ Text.ofInt limit ++ " skip=".toList ++ Text.ofInt skip ++
      " filter_keys=".toList ++ (Value.list (keys.map .str)).display

end Record

/-- A computation with a journal that may end in a fault. -/
structure Journal (α : Type) where
  records : List Record
  outcome : Except Fault α

namespace Journal

variable {α β : Type}

protected def pure (a : α) : Journal α := ⟨[], .ok a⟩

protected def bind (x : Journal α) (f : α → Journal β) : Journal β :=
  match x.outcome with
  | .ok a => ⟨x.records ++ (f a).records, (f a).outcome⟩
  | .error fault => ⟨x.records, .error fault⟩

instance : Monad Journal where
  pure := Journal.pure
  bind := Journal.bind

def write (r : Record) : Journal Unit := ⟨[r], .ok ()⟩

def fault (f : Fault) : Journal α := ⟨[], .error f⟩

/-- A computation that writes nothing. -/
def ofExcept (x : Except Fault α) : Journal α := ⟨[], x⟩

instance : MonadLift (Except Fault) Journal where
  monadLift := ofExcept

instance : LawfulMonad Journal := LawfulMonad.mk' Journal
  (by
    rintro α ⟨rs, o⟩
    cases o <;> simp [Functor.map, Journal.bind, Journal.pure])
  (by simp [Bind.bind, Pure.pure, Journal.bind, Journal.pure])
  (by
    rintro α β γ ⟨rs, o⟩ f g
    cases o with
    | error e => rfl
    | ok a =>
      cases h : (f a).outcome <;> simp [Bind.bind, Journal.bind, h])

theorem bind_of_ok {x : Journal α} {a : α} (h : x.outcome = .ok a) (f : α → Journal β) :
    x >>= f = ⟨x.records ++ (f a).records, (f a).outcome⟩ := by
  change Journal.bind x f = _
  simp only [Journal.bind, h]

theorem bind_of_error {x : Journal α} {e : Fault} (h : x.outcome = .error e)
    (f : α → Journal β) : x >>= f = ⟨x.records, .error e⟩ := by
  change Journal.bind x f = _
  simp only [Journal.bind, h]

theorem lift_ok_bind (a : α) (f : α → Journal β) :
    (liftM (Except.ok a : Except Fault α) : Journal α) >>= f = f a := rfl

/-- Runs a computation on each item in order and keeps the results that there are. -/
def collect (f : α → Journal (Option β)) : List α → Journal (List β)
  | [] => pure []
  | x :: xs => do
    let y ← f x
    let ys ← collect f xs
    return y.toList ++ ys

theorem outcome_collect_pair {f : α → Journal (Option β)} {x y : α} {v w : β}
    (hx : (f x).outcome = .ok (some v)) (hy : (f y).outcome = .ok (some w)) :
    (collect f [x, y]).outcome = .ok [v, w] := by
  rw [collect, bind_of_ok hx, collect, bind_of_ok hy]
  rfl

theorem collect_map {γ : Type} (f : β → Journal (Option γ)) (g : α → β) (xs : List α) :
    collect f (xs.map g) = collect (fun x => f (g x)) xs := by
  induction xs with
  | nil => rfl
  | cons x xs ih => rw [List.map_cons, collect, collect, ih]

theorem collect_append (f : α → Journal (Option β)) (xs ys : List α) :
    collect f (xs ++ ys) = do
      let as ← collect f xs
      let bs ← collect f ys
      return as ++ bs := by
  induction xs with
  | nil => simp only [List.nil_append, collect, pure_bind, bind_pure]
  | cons x xs ih =>
    simp only [List.cons_append, collect, ih, bind_assoc, pure_bind, List.append_assoc]

theorem collect_flatten (f : α → Journal (Option β)) (xss : List (List α)) :
    collect f xss.flatten = List.flatten <$> xss.mapM (collect f) := by
  induction xss with
  | nil => rfl
  | cons xs xss ih =>
    simp only [List.flatten_cons, collect_append, ih, List.mapM_cons, map_eq_pure_bind, bind_assoc,
      pure_bind]

theorem collect_filterMap {γ : Type} (f : α → Journal β) (g : β → Option γ) (xs : List α) :
    collect (fun x => g <$> f x) xs = List.filterMap g <$> xs.mapM f := by
  induction xs with
  | nil => rfl
  | cons x xs ih =>
    rw [collect, ih, List.mapM_cons]
    simp only [map_eq_pure_bind, bind_assoc, pure_bind, List.filterMap_cons]
    congr
    funext y
    cases g y <;> rfl

end Journal

end FindQuery
