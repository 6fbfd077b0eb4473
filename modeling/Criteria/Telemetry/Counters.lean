import Criteria.Telemetry.Event

/-! Counters of compilations, in total, by entity and by code of rejection. -/

namespace Criteria

/-- The greatest number that a counter reaches; it stays there. -/
def counterLimit : Nat := 0xFFFFFFFFFFFFFFFF

/-- A counter moved up, but not past its greatest number. -/
def saturatingAdd (counter amount : Nat) : Nat :=
  min counterLimit (counter + amount)

/-- The counters of all compilations together. -/
structure TotalCounters where
  calls : Nat
  succeeded : Nat
  rejected : Nat
  criteria : Nat
  groups : Nat
  sortKeys : Nat
deriving DecidableEq

/-- The counters of the compilations for entities of one name. -/
structure EntityCounters where
  calls : Nat
  succeeded : Nat
  rejected : Nat
  criteria : Nat
  sortKeys : Nat
deriving DecidableEq

/-- Entity counters before any compilation. -/
def EntityCounters.zero : EntityCounters := ⟨0, 0, 0, 0, 0⟩

/-- All counters since the window was opened. -/
structure Counters where
  total : TotalCounters
  /-- Counters by entity name, in ascending order of names. -/
  entities : List (String × EntityCounters)
  /-- Numbers of rejections by code, in ascending order of codes. -/
  rejections : List (String × Nat)
  /-- When the window was opened, in milliseconds. -/
  windowStart : Int
deriving DecidableEq

/-- A table in ascending order of keys with one entry changed, or made out of a first value. -/
def adjust {α : Type} (key : String) (first : α) (change : α → α) :
    List (String × α) → List (String × α)
  | [] => [(key, change first)]
  | (present, value) :: rest =>
    match textOrder key.toList present.toList with
    | .lt => (key, change first) :: (present, value) :: rest
    | .eq => (present, change value) :: rest
    | .gt => (present, value) :: adjust key first change rest

namespace Counters

/-- The counters of a window that has just been opened. -/
def opened (now : Int) : Counters := ⟨⟨0, 0, 0, 0, 0, 0⟩, [], [], now⟩

/-- The counters with one entity's counters changed. -/
def adjustEntity (counters : Counters) (entity : String)
    (change : EntityCounters → EntityCounters) : Counters :=
  { counters with entities := adjust entity .zero change counters.entities }

/-- The counters after one more event. -/
def record (counters : Counters) (event : Event) : Counters :=
  match event with
  | .start entity =>
    let counted := counters.adjustEntity entity fun counter =>
      { counter with calls := saturatingAdd counter.calls 1 }
    { counted with
      total := { counters.total with calls := saturatingAdd counters.total.calls 1 } }
  | .finish entity criteria groups sortKeys =>
    let counted := counters.adjustEntity entity fun counter =>
      { counter with
        succeeded := saturatingAdd counter.succeeded 1
        criteria := saturatingAdd counter.criteria criteria
        sortKeys := saturatingAdd counter.sortKeys sortKeys }
    { counted with
      total :=
        { counters.total with
          succeeded := saturatingAdd counters.total.succeeded 1
          criteria := saturatingAdd counters.total.criteria criteria
          groups := saturatingAdd counters.total.groups groups
          sortKeys := saturatingAdd counters.total.sortKeys sortKeys } }
  | .rejected entity kind =>
    let counted := counters.adjustEntity entity fun counter =>
      { counter with rejected := saturatingAdd counter.rejected 1 }
    { counted with
      total := { counters.total with rejected := saturatingAdd counters.total.rejected 1 }
      rejections := adjust kind.code 0 (fun number => saturatingAdd number 1) counters.rejections }

end Counters

end Criteria
