import Criteria.Telemetry.Session

/-!
The course of a session: its calls of the compiler, the scopes of its sinks and its resets, one
after the other. Each event goes to the innermost scope that is open, or else to the counters.
-/

namespace Criteria

/-- A call of the compiler with the standard operations: a request for a model under settings. -/
structure Call where
  model : EntityModel
  request : SearchRequest
  config : Config

namespace Call

/-- The query that a call comes to, or why it is rejected. -/
def outcome (call : Call) : Except Rejection RowQuery :=
  (Compiler.standard call.config).compile call.model call.request

/-- The events of a call. -/
def events (call : Call) : List Event :=
  (Compiler.standard call.config).events call.model call.request

end Call

/-- A moment of a session at which events are made, or at which it changes where they go. -/
inductive Moment where
  | entered (sink : Nat)
  | left
  | called (call : Call)
  | reset (now : Int)

namespace Moment

/-- The scopes that are open after a moment, the innermost first, of those open before it. -/
def scopesAfter (scopes : List Nat) : Moment → List Nat
  | .entered sink => sink :: scopes
  -- Of the open scopes only the innermost one can be left.
  | .left => scopes.tail
  | .called _ | .reset _ => scopes

/-- Each moment of a course with the scopes that are open at it, the innermost first. -/
def withScopes (scopes : List Nat) : List Moment → List (List Nat × Moment)
  | [] => []
  | moment :: rest => (scopes, moment) :: withScopes (moment.scopesAfter scopes) rest

/-- The events made at a moment. -/
def events : Moment → List Event
  | .called call => call.events
  | .entered _ | .left | .reset _ => []

/-- The events made at a moment, each with the innermost scope open at it, if there is one. -/
def deliveries (moment : List Nat × Moment) : List (Option Nat × Event) :=
  moment.2.events.map fun event => (moment.1.head?, event)

/-- The moments of one course after another are those of both, the second from where the first
leaves its scopes. -/
theorem withScopes_append (scopes : List Nat) (first second : List Moment) :
    withScopes scopes (first ++ second) =
      withScopes scopes first ++ withScopes (first.foldl scopesAfter scopes) second := by
  -- The scopes are carried along both courses, so they are general in the induction.
  induction first generalizing scopes with
  | nil => rfl
  | cons moment rest ih =>
    rw [List.cons_append, withScopes, withScopes, ih, List.cons_append, List.foldl_cons]

/-- The events of a course come one after the other, whichever scopes they go to. -/
theorem deliveries_snd (scopes : List Nat) (course : List Moment) :
    ((withScopes scopes course).flatMap deliveries).map Prod.snd = course.flatMap events := by
  -- Forgetting where the events go leaves those of each moment.
  induction course generalizing scopes with
  | nil => rfl
  | cons moment rest ih =>
    rw [withScopes, List.flatMap_cons, List.flatMap_cons, List.map_append, ih]
    simp [deliveries, Function.comp_def]

/-- The events made while some scope is the innermost one, in the order of the course. -/
def taken (sink : Nat) (moments : List (List Nat × Moment)) : List Event :=
  (moments.filter fun moment => moment.1.head? = some sink).flatMap fun moment => moment.2.events

/-- The deliveries to a sink are the events made while its scope is the innermost one. -/
theorem filterMap_deliveries (sink : Nat) (moments : List (List Nat × Moment)) :
    ((moments.flatMap deliveries).filterMap fun (taker, event) =>
      if taker = some sink then some event else none) = taken sink moments := by
  -- All events of one moment go to the same sink.
  have sent (moment : List Nat × Moment) :
      ((deliveries moment).filterMap fun (taker, event) =>
        if taker = some sink then some event else none) =
      moment.2.events.filterMap fun event =>
        if moment.1.head? = some sink then some event else none := List.filterMap_map
  unfold taken
  induction moments with
  | nil => rfl
  | cons moment rest ih =>
    rw [List.flatMap_cons, List.filterMap_append, ih, List.filter_cons, sent]
    -- A moment counts with all its events if the sink is innermost, and else with none.
    by_cases innermost : moment.1.head? = some sink <;> simp [innermost]

end Moment

/-- The counters after a moment: a reset opens them anew, and they take the events of a call for
which no scope is open. -/
def Counters.follow (counters : Counters) : List Nat × Moment → Counters
  -- A reset opens the counters anew from within a scope too.
  | (_, .reset now) => .opened now
  | ([], .called call) => call.events.foldl record counters
  | _ => counters

namespace Action

mutual

/-- Whether an action ends in a panic; one that is caught is over where it is caught. -/
def panics : Action → Bool
  -- A search panics if sorting finds that the terms contradict themselves on the rows.
  | .search model request rows => (request.searched? model rows).isNone
  | .within _ body => anyPanics body
  | .panic => true
  | .compile .. | .compileFilter .. | .reset _ | .report _ | .catching _ => false

/-- Whether one of some actions ends in a panic. -/
def anyPanics : List Action → Bool
  | [] => false
  | action :: rest => action.panics || anyPanics rest

end

mutual

/-- The course of an action, in which a scope is left whether its body panics or not. -/
def course : Action → List Moment
  | .compile model request config =>
    -- Settings that no filter could satisfy are refused before the compiler is called.
    if config.maxDepth = 0 then [] else [.called ⟨model, request, config⟩]
  | .search model request _ => [.called ⟨model, request, .default⟩]
  | .reset now => [.reset now]
  | .within sink body => .entered sink :: courses body ++ [.left]
  | .catching body => courses body
  | .compileFilter .. | .report _ | .panic => []

/-- The course of actions in turn, which a panic ends. -/
def courses : List Action → List Moment
  | [] => []
  -- What stands after a panic is never begun.
  | action :: rest => action.course ++ if action.panics then [] else courses rest

end

mutual

/-- An action leaves every scope that it enters, and no other. -/
theorem scopesAfter_course (scopes : List Nat) : ∀ action : Action,
    action.course.foldl Moment.scopesAfter scopes = scopes
  | .compile model request config => by
    rw [course]
    split <;> rfl
  | .within sink body => by
    -- The body leaves the new scope as the innermost one, and then this is left too.
    have inner : (Moment.entered sink :: courses body).foldl Moment.scopesAfter scopes =
        sink :: scopes := scopesAfter_courses (sink :: scopes) body
    rw [course, List.foldl_append, inner]
    rfl
  | .catching body => by
    rw [course, scopesAfter_courses]
  | .search .. | .reset _ | .compileFilter .. | .report _ | .panic => by
    rw [course]
    rfl

/-- Actions in turn leave every scope that they enter, and no other. -/
theorem scopesAfter_courses (scopes : List Nat) : ∀ actions : List Action,
    (courses actions).foldl Moment.scopesAfter scopes = scopes
  | [] => rfl
  | action :: rest => by
    rw [courses, List.foldl_append, scopesAfter_course]
    split
    · rfl
    · exact scopesAfter_courses scopes rest

end

end Action

namespace Session

/-- The session after a course that begins with some scopes open and leaves them as they are. -/
def after (session : Session) (scopes : List Nat) (course : List Moment) : Session where
  counters := (Moment.withScopes scopes course).foldl Counters.follow session.counters
  sink := session.sink
  delivered := session.delivered ++ (Moment.withScopes scopes course).flatMap Moment.deliveries

variable {session : Session} {scopes : List Nat}

/-- A sink that is in force counts as the one scope open. -/
theorem sink_eq_head? (session : Session) : session.sink = session.sink.toList.head? := by
  cases session.sink <;> rfl

/-- A course of nothing changes nothing. -/
theorem after_nil : session.after scopes [] = session := by
  simp [after, Moment.withScopes]

/-- A course that leaves the scopes as they are can be followed by another one. -/
theorem after_append {first second : List Moment}
    (kept : first.foldl Moment.scopesAfter scopes = scopes) :
    session.after scopes (first ++ second) = (session.after scopes first).after scopes second := by
  -- The moments of the second course follow those of the first, with the same scopes open.
  simp [after, Moment.withScopes_append, kept]

/-- Events that are delivered in turn all go to the sink in force, or else to the counters. -/
theorem deliverAll_eq (session : Session) (events : List Event) :
    session.deliverAll events =
      { counters := if session.sink.isNone then events.foldl Counters.record session.counters
          else session.counters
        sink := session.sink
        delivered := session.delivered ++ events.map fun event => (session.sink, event) } := by
  -- The events are delivered in turn, so the session is general in the induction.
  unfold deliverAll
  induction events generalizing session with
  | nil => simp
  | cons event rest ih =>
    rw [List.foldl_cons, ih]
    -- The first event leaves the sink in force, so the rest goes the same way.
    cases inForce : session.sink <;> simp [deliver, inForce]

/-- The events of a call go where the innermost open scope says. -/
theorem deliverAll_events (inForce : session.sink = scopes.head?) (call : Call) :
    session.deliverAll call.events = session.after scopes [.called call] := by
  -- With no scope open the counters take the events, and otherwise the innermost one does.
  rw [deliverAll_eq, after, inForce]
  cases scopes <;> simp [Moment.withScopes, Moment.deliveries, Moment.events, Counters.follow]

/-- What is done while a sink takes the events is done in a scope of its own. -/
theorem after_within (sink : Nat) (body : List Moment)
    (kept : body.foldl Moment.scopesAfter (sink :: scopes) = sink :: scopes) :
    { ({ session with sink := some sink } : Session).after (sink :: scopes) body with
        sink := session.sink } = session.after scopes (.entered sink :: body ++ [.left]) := by
  -- Entering and leaving make no event, and only the innermost scope changes between them.
  simp [after, Moment.withScopes, Moment.withScopes_append, kept, Moment.scopesAfter,
    Moment.deliveries, Moment.events, Counters.follow]

end Session

namespace Action

mutual

/-- An action takes the session along its course, and answers unless it panics. -/
theorem run_eq : ∀ (session : Session) (scopes : List Nat), session.sink = scopes.head? →
    ∀ action : Action, (action.run session).1 = session.after scopes action.course ∧
      (action.run session).2.isNone = action.panics
  -- Settings that are refused keep the compiler from running, so it tells of nothing.
  | session, scopes, inForce, .compile model request config => by
    rw [run, course, panics]
    refine ⟨?_, rfl⟩
    split
    · rename_i unusable
      rw [Session.after_nil, SearchRequest.events, Config.validate, if_pos unusable]
      rfl
    · rename_i usable
      rw [SearchRequest.events, Config.validate, if_neg usable]
      exact Session.deliverAll_events inForce ⟨model, request, config⟩
  | session, scopes, inForce, .search model request rows => by
    rw [run, course, panics]
    exact ⟨Session.deliverAll_events inForce ⟨model, request, .default⟩, Option.isNone_map⟩
  -- A reset opens the counters anew, and makes no event.
  | session, scopes, inForce, .reset now => by
    rw [run, course, panics]
    refine ⟨?_, rfl⟩
    simp [Session.after, Moment.withScopes, Moment.deliveries, Moment.events, Counters.follow]
  | session, scopes, inForce, .within sink body => by
    rw [run, course, panics]
    -- In the body the sink is in force, as its scope is the innermost one.
    obtain ⟨reached, ends⟩ :=
      runAll_eq { session with sink := some sink } (sink :: scopes) rfl body
    refine ⟨?_, ?_⟩
    · rw [← Session.after_within sink _ (scopesAfter_courses _ body), ← reached]
    · rw [← ends]
      exact Option.isNone_map
  -- A panic is caught, and what happened before it stays.
  | session, scopes, inForce, .catching body => by
    rw [run, course, panics]
    exact ⟨(runAll_eq session scopes inForce body).1, rfl⟩
  | session, scopes, inForce, .compileFilter .. | session, scopes, inForce, .report _
  | session, scopes, inForce, .panic => by
    -- Nothing of this is a moment of the course.
    rw [run, course, panics, Session.after_nil]
    exact ⟨rfl, rfl⟩

/-- Actions in turn take the session along their course, and answer unless one of them panics. -/
theorem runAll_eq : ∀ (session : Session) (scopes : List Nat), session.sink = scopes.head? →
    ∀ actions : List Action, (runAll session actions).1 = session.after scopes (courses actions) ∧
      (runAll session actions).2.isNone = anyPanics actions
  | session, scopes, inForce, [] => by
    rw [runAll, courses, anyPanics, Session.after_nil]
    exact ⟨rfl, rfl⟩
  | session, scopes, inForce, action :: rest => by
    rw [runAll, courses, anyPanics]
    obtain ⟨reached, ends⟩ := run_eq session scopes inForce action
    rcases ran : action.run session with ⟨between, answer⟩
    rw [ran] at reached ends
    change between = session.after scopes action.course at reached
    rw [← ends]
    cases answer with
    | none =>
      -- A panic ends the course here.
      exact ⟨by simpa using reached, rfl⟩
    | some answer =>
      -- The first action leaves the sink in force, so the rest begins as it did.
      have inForceAgain : between.sink = scopes.head? := by
        rw [reached]
        exact inForce
      obtain ⟨reachedLast, endsLast⟩ := runAll_eq between scopes inForceAgain rest
      refine ⟨?_, ?_⟩
      · simp only [Option.isNone_some, Bool.false_eq_true, if_false]
        rw [Session.after_append (scopesAfter_course scopes action), ← reached, reachedLast]
      · simpa using endsLast

end

/-- Each event is delivered once: to the sink of the innermost scope open when it is made, or to the
counters if none is open. Every sink receives its events in the order of the course, and when a
scope ends, by a panic or not, the sink in force is the one from before it was entered. -/
theorem runAll_delivers_to_innermost (session : Session) (actions : List Action) :
    let after := (runAll session actions).1
    let moments := Moment.withScopes session.sink.toList (courses actions)
    after.delivered = session.delivered ++ moments.flatMap Moment.deliveries ∧
      (moments.flatMap Moment.deliveries).map Prod.snd = (courses actions).flatMap Moment.events ∧
      (∀ sink, after.received sink = session.received sink ++ Moment.taken sink moments) ∧
      after.counters = moments.foldl Counters.follow session.counters ∧
      ((runAll session actions).2 = none ↔ anyPanics actions = true) ∧
      after.sink = session.sink ∧
      ∀ sink body, (run session (.within sink body)).1.sink = session.sink := by
  -- A sink that is in force at the start counts as the one scope open then.
  intro after moments
  have inForce := session.sink_eq_head?
  obtain ⟨reached, ends⟩ := runAll_eq session session.sink.toList inForce actions
  have reached : after = session.after session.sink.toList (courses actions) := reached
  rw [reached]
  refine ⟨rfl, Moment.deliveries_snd _ _, fun sink => ?_, rfl, ?_, rfl, fun sink body => ?_⟩
  · -- What a sink takes is what is delivered to it.
    rw [← Moment.filterMap_deliveries]
    exact List.filterMap_append
  · rw [← ends, Option.isNone_iff_eq_none]
  · -- The scopes are as before behind an action, and so is the sink.
    obtain ⟨reachedOutside, -⟩ := run_eq session session.sink.toList inForce (.within sink body)
    rw [reachedOutside]
    rfl

end Action

end Criteria
