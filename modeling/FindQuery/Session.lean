import FindQuery.Query.Ambient

namespace FindQuery

inductive Request where
  | token (token : Value)
  | compile (query : Value)
  | pagination (query : Value)
  | select (query : Value)
  | sort (query : Value)
  | filter (query : Value)
  | references (query : Value)

inductive Answer where
  | done
  | node (node : Option Value)
  | descriptor (d : Descriptor)
  | pagination (limit skip : Int)
  | names (fs : Fields Int)
  | tree (fs : Fields Value)
  | references (rs : Option References)
  | path (t : Text)
  | compiler (c : QueryCompiler)

def QueryCompiler.answer (c : QueryCompiler) : Request → Journal Answer
  | .token token => .node <$> Filter.valueNode c.filterOptions token 0
  | .compile query => .descriptor <$> c.compile query
  | .pagination query => do
    let (limit, skip) ← c.pagination (← lookupFields query)
    return .pagination limit skip
  | .select query => do return .names (← c.select (← lookupFields query))
  | .sort query => do return .names (← c.sort (← lookupFields query))
  | .filter query => .tree <$> Filter.compileQuery c.filterOptions query 0
  | .references query => do return .references (← c.references (← lookupFields query))

/-- Answers a request while the settings are as given. -/
def Ambient.answer (now : Settings) (c : QueryCompiler) : Request → Journal Answer
  | .token token => .node <$> valueNode now c.filterOptions token 0
  | .compile query => .descriptor <$> describe now c query
  | .pagination query => do
    let (limit, skip) ← c.pagination (← QueryCompiler.lookupFields query)
    return .pagination limit skip
  | .select query => do return .names (← select now c (← QueryCompiler.lookupFields query))
  | .sort query => do return .names (← sort now c (← QueryCompiler.lookupFields query))
  | .filter query => .tree <$> filterQuery now c query
  | .references query => do
    return .references (← references now c (← QueryCompiler.lookupFields query))

/-- Changing settings, and the compiler in use. -/
structure Session where
  settings : Settings
  compiler : QueryCompiler

namespace Session

/-- A session that starts with a compiler of default options. -/
def start (settings : Settings) : Except Fault Session :=
  return ⟨settings, ← QueryCompiler.make settings {}⟩

/-- What can be done in a session. -/
inductive Step where
  /-- Makes a new compiler; if that fails, the old one stays. -/
  | make (choice : QueryChoice)
  | inspect
  | set (name : SettingName) (v : Value)
  /-- Cleans a field path as the current settings say. -/
  | cleanPath (t : Text)
  | ask (request : Request)

def step (s : Session) : Step → Session × Journal Answer
  | .make choice =>
    match QueryCompiler.make s.settings choice with
    | .ok c => ({ s with compiler := c }, pure (.compiler c))
    | .error fault => (s, Journal.fault fault)
  | .inspect => (s, pure (.compiler s.compiler))
  | .set name v => ({ s with settings := s.settings.set name v }, pure .done)
  | .cleanPath t => (s, pure (.path (Ambient.cleanPath s.settings none t)))
  | .ask request => (s, Ambient.answer s.settings s.compiler request)

/-- Does steps one after the other and gives the answer to each. -/
def run : Session → List Step → List (Journal Answer)
  | _, [] => []
  | s, step :: steps =>
    let next := s.step step
    next.2 :: run next.1 steps

end Session

end FindQuery
