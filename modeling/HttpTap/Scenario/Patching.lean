import HttpTap.Patching.Instrumentation
import HttpTap.Patching.Loading
import HttpTap.Value.Basic

/-!
# Scenarios of patching

Commands that put modules on the shelf, load and unload them, and register patches that only
note that they were called.  A patch may be told to fail, and it may be told to register another
one.
-/

namespace HttpTap
namespace Registry

/-- A patch of a scenario. -/
inductive ScriptedPatch where
  /-- A patch that may fail, or else may register a further one for a module. -/
  | function (name : String) (fails : Option Fault) (next : Option ModuleName)
  /-- A patch that was registered by another one. -/
  | further (name : String)
  /-- The patch of an instrumentation. -/
  | instrumentation (name : String)

/-- What a scenario works on. -/
abbrev Scene := Registry ScriptedPatch (List (String × Instrumentation))

/-- A part of a step. -/
abbrev Staging := Patching ScriptedPatch (List (String × Instrumentation))

/-- What a patch does. -/
def ScriptedPatch.work : ScriptedPatch → Staging Unit
  | .function name fails next => do
    match fails with
    | some f => throw f
    | none => pure ()
    match next with
    | some n => register (.further name) n (pure ())
    | none => pure ()
  | .further _ | .instrumentation _ => pure ()

/-- A command. -/
inductive Command where
  | provide (module : ModuleName) (isPackage : Bool) (code : ModuleCode)
  | provideDirectory (module : ModuleName)
  /-- Put an empty object among the loaded modules. -/
  | load (module : ModuleName)
  | forget (module : ModuleName)
  | import_ (module : ModuleName)
  | register (module : ModuleName) (patch : ScriptedPatch)
  | withdraw (module : ModuleName)
  | start (id : String) (module : ModuleName) (enabled : Bool)
  /-- Make an instrumentation that does not say how to undo its patch. -/
  | startIncomplete (module : ModuleName)
  | stop (id : String)
  | setEnabled (id : String) (enabled : Bool)

/-- The answer to a command. -/
inductive Answer where
  | nothing
  | flag (b : Bool)
  /-- The state of a module. -/
  | state (registered loaded patched : Bool)
  /-- A module after it was imported. -/
  | imported (hasValue patched : Bool)

/-- Why a step failed. -/
inductive Problem where
  | fault (f : Fault)
  | unknownName

/-- The state of a module. -/
def stateOf (r : Scene) (n : ModuleName) : Answer :=
  .state (r.patches n).isSome (r.loaded n).isSome (r.isMarked n)

/-- The fault for an instrumentation that does not say how to undo its patch. -/
def incomplete : Fault := .misuse .type "Can't instantiate abstract class"

/-- Do something and answer with the state of a module. -/
def andState (n : ModuleName) (work : Staging Unit) : ExceptT Problem (StateM Scene) Answer := do
  match ← (work.run : StateM Scene _) with
  | .ok () => return stateOf (← get) n
  | .error f => throw (.fault f)

/-- The instrumentation with a name. -/
def instrumentation (id : String) : ExceptT Problem (StateM Scene) Instrumentation := do
  match (← get).other.lookup id with
  | some i => return i
  | none => throw .unknownName

/-- Give an instrumentation a name. -/
def bindInstrumentation (id : String) (i : Instrumentation) (r : Scene) : Scene :=
  { r with other := (id, i) :: r.other.filter (·.1 != id) }

/-- Carry out one command. -/
def perform : Command → ExceptT Problem (StateM Scene) Answer
  | .provide n isPackage code => andState n <| modify fun r =>
    { r with shelf := if isPackage then r.shelf.addPackage n code else r.shelf.addFile n code }
  | .provideDirectory n => andState n <| modify fun r =>
    { r with shelf := r.shelf.addDirectory n }
  | .load n => andState n do let _ ← place n false
  | .forget n => do
    let wasLoaded := ((← get).loaded n).isSome
    modify fun r => r.setLoaded n none
    return .flag wasLoaded
  | .import_ n => do
    match ← ((importModule (fun p _ => p.work) n).run : StateM Scene _) with
    | .error f => throw (.fault f)
    | .ok () =>
      match (← get).loaded n with
      | some m => return .imported m.hasValue m.marked
      | none => throw (.fault notFound)
  | .register n p => andState n (register p n p.work)
  | .withdraw n => andState n (withdraw n)
  | .start id n enabled => do
    let i : Instrumentation := ⟨id, n, enabled⟩
    let answer ← andState n (i.start (.instrumentation id) (pure ()))
    modify (bindInstrumentation id i)
    return answer
  | .startIncomplete _ => throw (.fault incomplete)
  | .stop id => do
    let i ← instrumentation id
    let _ ← andState i.module (i.stop (.instrumentation id) (pure ()))
    return .nothing
  | .setEnabled id enabled => do
    let i ← instrumentation id
    modify (bindInstrumentation id { i with enabled := enabled })
    return .nothing

/-- How an event is shown, if it concerns a patch. -/
def shown? : PatchEvent ScriptedPatch → Option String
  | .called (.function name ..) n _ marked =>
    some (name ++ "(" ++ n.text ++ ",marked=" ++ toString marked ++ ")")
  | .called (.further name) n .. => some (name ++ "'(" ++ n.text ++ ")")
  | .called (.instrumentation name) n .. => some (name ++ ".patch(" ++ n.text ++ ")")
  | .undone (.instrumentation name) n => some (name ++ ".unpatch(" ++ n.text ++ ")")
  | _ => none

/-- What is known of one step. -/
structure Record where
  outcome : Except Problem Answer
  log : List LogRecord
  trace : List String

/-- Carry out one command and collect what is known of the step. -/
def step (r : Scene) (c : Command) : Record × Scene :=
  let (outcome, r) := (perform c).run { r with history := [], log := [] }
  (⟨outcome, r.log.reverse, r.history.reverse.filterMap shown?⟩, r)

/-- Carry out a list of commands. -/
def run (r : Scene) : List Command → List Record
  | [] => []
  | c :: cs =>
    let (record, r) := step r c
    record :: run r cs

end Registry
end HttpTap
