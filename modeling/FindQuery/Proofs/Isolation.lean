import FindQuery.Proofs.Lockstep
import FindQuery.Session

namespace FindQuery

namespace Ambient

variable (now : Settings)

/-- The compiler for a query on elements has the options of the token that the query stands in. -/
theorem compileShape_eq (o : FilterOptions) (inner : Text → Journal (Option Value)) (token : Text)
    (shape : Shape) :
    compileShape now o inner token shape = Filter.compileShape o inner token shape := by
  cases shape with
  | elemMatch body =>
    -- the only shape that makes a compiler of its own
    have hmade : fieldCompiler now ⟨some o.strict, some o.maxDepth, some o.lenientKeys⟩ (some o) =
        .ok ⟨o.lenientKeys, o⟩ :=
      rfl
    rw [compileShape, Filter.compileShape, hmade]
    rfl
  | container | logical | alternatives | conjunction | comparison | existence | fieldType | date
  | number | boolean | plain | pattern => rfl

theorem nodeAt_eq (o : FilterOptions) (levels : Nat) :
    nodeAt now o levels = Filter.nodeAt o levels := by
  induction levels with
  | zero =>
    funext token
    cases token <;> rfl
  | succ levels ih =>
    funext token
    cases token with
    | nil => rfl
    | cons c r =>
      simp only [nodeAt, Filter.nodeAt, ih]
      cases Shape.ofToken? o.rules (c :: r) with
      | none => rfl
      | some shape => exact compileShape_eq now o _ _ shape

theorem tokenNode_eq (o : FilterOptions) : tokenNode now o = Filter.tokenNode o := by
  funext token depth
  exact congrFun (nodeAt_eq now o _) token

theorem valueNode_eq (o : FilterOptions) (v : Value) (depth : Int) :
    valueNode now o v depth = Filter.valueNode o v depth := by
  rw [valueNode, tokenNode_eq]
  rfl

theorem compile_eq (c : FieldCompiler) (fields : Fields Value) (depth : Int) :
    compile now c fields depth =
      Filter.compileFields (Filter.tokenNode c.tokens · depth) c.lenientKeys fields := by
  rw [compile, tokenNode_eq]
  rfl

section

variable (c : QueryCompiler)

theorem filterQuery_eq (v : Value) :
    filterQuery now c v = Filter.compileQuery c.filterOptions v 0 := by
  cases v with
  | map fields => exact compile_eq now ⟨c.filterOptions.lenientKeys, c.filterOptions⟩ fields 0
  | null | bool | int | float | str | list => rfl

theorem select_eq (fields : Fields Value) : select now c fields = c.select fields := rfl

theorem referenceSelect_eq (t : Text) : referenceSelect now c t = c.referenceSelect t := by
  rw [referenceSelect, QueryCompiler.referenceSelect, select_eq]

theorem referenceFilter_eq (t : Text) : referenceFilter now c t = c.referenceFilter t := by
  rw [referenceFilter, QueryCompiler.referenceFilter, filterQuery_eq]
  rfl

theorem readReference_eq (t : Text) : readReference now c t = c.readReference t := by
  rw [readReference, QueryCompiler.readReference, referenceSelect_eq, referenceFilter_eq]
  rfl

theorem readReferences_eq (texts : List Text) :
    readReferences now c texts = c.readReferences texts := by
  rw [readReferences, QueryCompiler.readReferences, funext (readReference_eq now c)]

theorem references_eq (fields : Fields Value) : references now c fields = c.references fields := by
  rw [references, QueryCompiler.references]
  split
  · cases (fields.find? Key.populate).getD .null with
    | str t => exact Journal.lockstep_eq.bind (readReference_eq now c t) fun _ => rfl
    | list items => exact Journal.lockstep_eq.bind (readReferences_eq now c _) fun _ => rfl
    | map entries => exact Journal.lockstep_eq.bind (readReferences_eq now c _) fun _ => rfl
    | null | bool | int | float => rfl
  · rfl

theorem describeFields_eq (fields : Fields Value) :
    describeFields now c fields = c.compileFields fields := by
  have hfilter : filterQuery now c (.map fields) = c.filter fields := filterQuery_eq now c _
  apply Journal.lockstep_eq.bind rfl
  intro page
  apply Journal.lockstep_eq.bind rfl
  intro select
  apply Journal.lockstep_eq.bind rfl
  intro sort
  apply Journal.lockstep_eq.bind hfilter
  intro filter
  cases c.populate with
  | false =>
    apply Journal.lockstep_eq.bind rfl
    intro populate
    cases Descriptor.checked ⟨page.1, page.2, select, sort, filter, populate⟩ <;> rfl
  | true =>
    apply Journal.lockstep_eq.bind (references_eq now c fields)
    intro populate
    cases Descriptor.checked ⟨page.1, page.2, select, sort, filter, populate⟩ <;> rfl

theorem describe_eq (v : Value) : describe now c v = c.compile v := by
  cases v with
  | null | str | bool | int | float | list | map =>
    simp only [describe, QueryCompiler.compile, describeFields_eq]

theorem answer_eq (request : Request) : answer now c request = c.answer request := by
  cases request with
  | token token =>
    rw [answer, QueryCompiler.answer, valueNode_eq]
  | compile query => rw [answer, QueryCompiler.answer, describe_eq]
  | pagination query => rfl
  | select query => simp only [answer, QueryCompiler.answer, select_eq]
  | sort query => rfl
  | filter query => rw [answer, QueryCompiler.answer, filterQuery_eq]
  | references query => simp only [answer, QueryCompiler.answer, references_eq]

end

end Ambient

namespace Session

/-- Whether a step of a session uses the settings of the moment. -/
def Step.readsSettings : Step → Bool
  | .make _ | .cleanPath _ => true
  | .inspect | .set .. | .ask _ => false

variable (c : QueryCompiler)

theorem step_eq {step : Step} (h : step.readsSettings = false) (made now : Settings) :
    ∃ made' now' answer, (⟨made, c⟩ : Session).step step = (⟨made', c⟩, answer) ∧
      (⟨now, c⟩ : Session).step step = (⟨now', c⟩, answer) := by
  cases step with
  | make choice => cases h
  | cleanPath t => cases h
  | inspect => exact ⟨made, now, _, rfl, rfl⟩
  | set name v => exact ⟨made.set name v, now.set name v, _, rfl, rfl⟩
  | ask request =>
    have hmade := Ambient.answer_eq made c request
    have hnow := Ambient.answer_eq now c request
    exact ⟨made, now, c.answer request, congrArg (Prod.mk _) hmade, congrArg (Prod.mk _) hnow⟩

/-- Sessions with one compiler go on alike, whatever settings they start from and change. -/
theorem run_eq {steps : List Step} (h : ∀ step ∈ steps, step.readsSettings = false)
    (made now : Settings) : run ⟨now, c⟩ steps = run ⟨made, c⟩ steps := by
  induction steps generalizing made now with
  | nil => rfl
  | cons step steps ih =>
    obtain ⟨made', now', answer, hmade, hnow⟩ := step_eq c (h step (.head _)) made now
    have hsteps := ih (fun s hs => h s (.tail _ hs)) made' now'
    simp only [run, hmade, hnow, hsteps]

end Session

/-- What a compiler gives, and what it writes, does not depend on the settings of the moment: for
every request to a query compiler, every token, every raw query and the queries on elements in it,
and over whole sessions in which settings change and no compiler is made. -/
theorem compilers_are_isolated_from_settings (made now : Settings) :
    (∀ (c : QueryCompiler) (request : Request),
      Ambient.answer now c request = Ambient.answer made c request) ∧
    (∀ (o : FilterOptions) (token : Value) (depth : Int),
      Ambient.valueNode now o token depth = Ambient.valueNode made o token depth) ∧
    (∀ (c : FieldCompiler) (query : Value) (depth : Int),
      Ambient.compileQuery now c query depth = Ambient.compileQuery made c query depth) ∧
    ∀ (c : QueryCompiler) (steps : List Session.Step),
      (∀ step ∈ steps, step.readsSettings = false) →
        Session.run ⟨now, c⟩ steps = Session.run ⟨made, c⟩ steps := by
  constructor
  · intro c request
    rw [Ambient.answer_eq, Ambient.answer_eq]
  constructor
  · intro o token depth
    rw [Ambient.valueNode_eq, Ambient.valueNode_eq]
  constructor
  · intro c query depth
    cases query with
    | map fields =>
      rw [Ambient.compileQuery, Ambient.compileQuery, Ambient.compile_eq, Ambient.compile_eq]
    | null | bool | int | float | str | list => rfl
  · intro c steps h
    exact Session.run_eq c h made now

theorem compilers_are_isolated_from_settings_lenient_keys :
    Session.run ⟨{ lenientKeys := true }, ⟨100, 0, by decide, by decide, false, {}⟩⟩
        [.ask (.token (.str "{elemMatch}a^=1".toList)), .set .strict (.bool true),
          .ask (.select (.map [("select".toList, .str "b^".toList)]))] =
      Session.run ⟨{}, ⟨100, 0, by decide, by decide, false, {}⟩⟩
        [.ask (.token (.str "{elemMatch}a^=1".toList)), .set .strict (.bool true),
          .ask (.select (.map [("select".toList, .str "b^".toList)]))] := by
  obtain ⟨-, -, -, hsessions⟩ := compilers_are_isolated_from_settings {} { lenientKeys := true }
  apply hsessions
  decide

/-- Without an option the settings of the moment count. -/
example : Ambient.cleanPath { lenientKeys := true } none "a^".toList ≠
    Ambient.cleanPath {} none "a^".toList := by
  decide

end FindQuery
