import SeriesQuery.Cell
import SeriesQuery.Placeholder

/-!
# Queries and their builder

A query is a template with cells bound to some of its placeholders. A builder holds the template,
the names it declares, and the bindings made so far; only declared names can be bound. Building
copies the bindings. Under the freezing policy it also closes the builder, and nothing can be bound
after that.

The bindings are kept under the UTF-8 bytes of the names. What a caller does with a builder is a
call: it changes the builder step by step, and a call that fails leaves the builder as the steps
before the failure made it.
-/

namespace SeriesQuery

structure Query where
  text : String
  bindings : SortedMap Bytes Cell
  deriving DecidableEq

namespace Query

/-- The bindings in the order of their names. -/
def interpolations (q : Query) : List (Bytes × Cell) := q.bindings.entries

def get? (q : Query) (name : String) : Option Cell := q.bindings.get? (Utf8.ofString name)

def size (q : Query) : Nat := q.bindings.size

def isEmpty (q : Query) : Bool := q.bindings.entries.isEmpty

end Query

inductive BuildPolicy where
  | snapshot
  | freeze
  deriving DecidableEq, Inhabited

structure QueryBuilder where
  template : String
  placeholders : PlaceholderSet
  bindings : SortedMap Bytes Cell
  policy : BuildPolicy
  frozen : Bool
  deriving DecidableEq

namespace QueryBuilder

def new (template : String) : Except Error QueryBuilder :=
  match scanPlaceholders template with
  | .error e => .error e
  | .ok placeholders =>
    .ok { template, placeholders, bindings := .empty, policy := default, frozen := false }

/-- A template that is not there is refused like an empty one. -/
def ofOption? : Option String → Except Error QueryBuilder
  | some template => new template
  | none => .error emptyTemplate

def withPolicy (b : QueryBuilder) (policy : BuildPolicy) : QueryBuilder :=
  { b with policy }

def boundCount (b : QueryBuilder) : Nat := b.bindings.size

def isBound (b : QueryBuilder) (name : String) : Bool :=
  b.bindings.contains (Utf8.ofString name)

/-- The declared names that have no cell yet. -/
def unbound (b : QueryBuilder) : List String :=
  b.placeholders.names.filter fun name => !b.isBound name

def frozenError : Error :=
  { kind := .frozen
    message := some "query builder was frozen by build()"
    hint := some "Start a new builder or use BuildPolicy::Snapshot." }

/-- A name without its colon gets a hint when the name with it is declared. -/
def unknownName (b : QueryBuilder) (name : String) : Error :=
  let withColon := ":" ++ name
  { kind := .unknownParameter
    message := some ("unknown query parameter: " ++ name)
    hint :=
      if !name.startsWith ":" && b.placeholders.contains withColon then
        some ("Placeholder names keep their colon; use `" ++ withColon ++ "`.")
      else none
    parameter := some name }

/-! ### Calls -/

/-- What is done with a builder. It may fail, and also then leaves a builder. -/
abbrev Call (α : Type) := ExceptT Error (StateM QueryBuilder) α

/-- What a call gives for a builder, and the builder after it. -/
def Call.on {α : Type} (call : Call α) (b : QueryBuilder) : Except Error α × QueryBuilder :=
  call.run.run b

def checkOpen : Call Unit := do
  if (← get).frozen then throw frozenError

def checkName (name : String) : Call Unit := do
  let b ← get
  if !b.placeholders.contains name then throw (b.unknownName name)

def store (name : String) (cell : Cell) : Call Unit :=
  modify fun b => { b with bindings := b.bindings.insert (Utf8.ofString name) cell }

def bind (name : String) (cell : Cell) : Call Unit := do
  checkOpen
  checkName name
  store name cell

/-- Binds every entry in order, or none when a name is unknown. -/
def bindAll (entries : List (String × Cell)) : Call Unit := do
  checkOpen
  entries.forM fun entry => checkName entry.1
  entries.forM fun entry => store entry.1 entry.2

/-- The query of the present bindings. Placeholders may be left unbound, and it never fails. -/
def build : StateM QueryBuilder Query := do
  if (← get).policy = .freeze then modify fun b => { b with frozen := true }
  let b ← get
  return { text := b.template, bindings := b.bindings }

/-- The query of a builder that takes these bindings first. -/
def bindAndBuild (entries : List (String × Cell)) : Call Query := do
  bindAll entries
  build

end QueryBuilder

end SeriesQuery
