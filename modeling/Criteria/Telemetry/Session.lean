import Criteria.Search
import Criteria.Telemetry.Report

/-! Runs of compilations whose events go to the counters or to a sink put in their place. -/

namespace Criteria

/-- Something that a program does in a session. -/
inductive Action where
  /-- Compiles a request with the standard operations. -/
  | compile (model : EntityModel) (request : SearchRequest) (config : Config)
  /-- Compiles a request under the default settings and searches rows with it. -/
  | search (model : EntityModel) (request : SearchRequest) (rows : List Row)
  /-- Compiles a filter by itself, which no one is told about. -/
  | compileFilter (model : EntityModel) (filter : Filter) (config : Config)
  /-- Opens a new window at some time. -/
  | reset (now : Int)
  | report (since : Option Int)
  /-- Does something while a sink takes the events. -/
  | within (sink : Nat) (body : List Action)
  | panic
  /-- Does something and goes on after it even if it panics. -/
  | catching (body : List Action)

/-- What an action answers. -/
inductive Answer where
  | compiled (outcome : Except SearchError RowQuery)
  | found (outcome : Except SearchError (List Row))
  | filtered (outcome : Except Rejection Predicate)
  | wasReset
  | reported (report : Report)
  | finished (answers : List Answer)
  | caught

/-- The counters, the sink in force if there is one, and the events with where each one went. -/
structure Session where
  counters : Counters
  sink : Option Nat
  delivered : List (Option Nat × Event)
deriving DecidableEq

namespace Session

/-- A session whose window has just been opened, with no sink. -/
def opened (now : Int) : Session := ⟨.opened now, none, []⟩

/-- The session after an event, which only the sink in force or else the counters take. -/
def deliver (session : Session) (event : Event) : Session :=
  { session with
    counters := if session.sink.isNone then session.counters.record event else session.counters
    delivered := session.delivered ++ [(session.sink, event)] }

/-- The session after events in turn. -/
def deliverAll (session : Session) (events : List Event) : Session :=
  events.foldl deliver session

/-- The events that a sink has taken, in order. -/
def received (session : Session) (sink : Nat) : List Event :=
  session.delivered.filterMap fun (taker, event) =>
    if taker = some sink then some event else none

end Session

namespace SearchRequest

/-- The events of compiling a request under settings; refused settings are told to no one. -/
def events (request : SearchRequest) (model : EntityModel) (config : Config) : List Event :=
  match config.validate with
  | .ok () => (Compiler.standard config).events model request
  | .error _ => []

/-- What searching rows answers, which is nothing if sorting them ends in a panic. -/
def searched? (request : SearchRequest) (model : EntityModel) (rows : List Row) :
    Option (Except SearchError (List Row)) :=
  match request.search model id rows with
  | .ok found => found.map .ok
  | .error fault => some (.error fault)

end SearchRequest

namespace Action

mutual

/-- The session after an action and its answer, which a panic does not give. -/
def run (session : Session) : Action → Session × Option Answer
  | .compile model request config =>
    (session.deliverAll (request.events model config),
      some (.compiled (request.compileWith model config)))
  | .search model request rows =>
    (session.deliverAll (request.events model .default),
      (request.searched? model rows).map .found)
  -- A filter by itself makes no event.
  | .compileFilter model filter config =>
    (session, some (.filtered ((Compiler.standard config).compileFilter model filter)))
  | .reset now => ({ session with counters := .opened now }, some .wasReset)
  | .report since => (session, some (.reported (session.counters.report since)))
  | .within sink body =>
    let (after, answers) := runAll { session with sink := some sink } body
    -- The sink in force before comes back however the body ends.
    ({ after with sink := session.sink }, answers.map .finished)
  | .panic => (session, none)
  -- What the body did before its panic stays done.
  | .catching body =>
    let (after, answers) := runAll session body
    (after, some (match answers with
      | some answers => .finished answers
      | none => .caught))

/-- The session after actions in turn up to a panic, and their answers if there is none. -/
def runAll (session : Session) : List Action → Session × Option (List Answer)
  | [] => (session, some [])
  | action :: rest =>
    match run session action with
    | (after, some answer) =>
      let (last, answers) := runAll after rest
      (last, answers.map fun answers => answer :: answers)
    -- A panic takes the answers before it along.
    | (after, none) => (after, none)

end

end Action

end Criteria
