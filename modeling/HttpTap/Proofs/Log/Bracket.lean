import HttpTap.Proofs.Log.Calls
import HttpTap.Proofs.Log.Filling

/-!
# What stands in the brackets

A handler of the library writes a prefix in brackets in front of every line.  The prefix is written
into the format of the handler as it stands, and so it is a format itself: in the brackets stands
what the prefix gives when it is filled, and if it cannot be filled there is no line
(`write?_formatOf`).  What is attached to a line follows it as it would follow any other.

A prefix without percent signs gives itself.  Any other prefix gives something else, at least for
one line: from a line that has no signs of its own at most half of the signs of the prefix come out
(`sign_notMem_of_write?`).  So the brackets hold the prefix exactly if it has no percent signs
(`Setup.bracketed_iff`).
-/

namespace HttpTap
namespace Log

namespace Line

variable {l : Line} {message : String} {timed : Bool}

/-- The line with a text in brackets in front. -/
def bracketed (l : Line) (message text : String) : String :=
  "[" ++ text ++ "] " ++ l.levelName ++ " " ++ l.name ++ ": " ++ message

theorem bracketed_injective (l : Line) (message : String) :
    Function.Injective (l.bracketed message) := by
  intro s t same
  have same := congrArg String.toList same
  simp only [bracketed, String.toList_append, List.append_assoc] at same
  exact String.toList_injective (List.append_cancel_right (List.append_cancel_left same))

/-! ## The parts that a handler of the library asks for -/

theorem part?_name : (l.parts message timed).part? "name".toList = some (.text l.name) := by
  rw [Parts.part?, String.ofList_toList]
  rfl

theorem part?_levelname :
    (l.parts message timed).part? "levelname".toList = some (.text l.levelName) := by
  rw [Parts.part?, String.ofList_toList]
  rfl

theorem part?_message :
    (l.parts message timed).part? "message".toList = some (.text message) := by
  have nowhere : l.circumstances.lookup "message" = none := by
    refine List.lookup_eq_none_iff.2 fun part mem => ?_
    refine bne_iff_ne.2 fun same => l.fresh part mem ?_
    rw [← same]
    decide
  have front : ([("name", .text l.name), ("msg", l.said), ("args", l.arguments),
      ("levelname", .text l.levelName), ("levelno", .int l.level)] : Parts).lookup "message" =
        none := rfl
  rw [Parts.part?, String.ofList_toList, parts, List.lookup_append, List.lookup_append,
    List.lookup_append, front, nowhere]
  rfl

/-- A text that is asked for without any style. -/
theorem fieldForm?_plain (s : String) : fieldForm? .plain .said (.text s) = some s.toList := by
  show some (List.replicate (0 - s.toList.length) ' ' ++ s.toList) = some s.toList
  rw [Nat.zero_sub]
  rfl

/-- Behind the prefix stands the rest of the line, whatever was in the prefix. -/
theorem fill?_tailPieces (due : Option Value) :
    fill? (l.parts message timed) due Stage.tailPieces =
      some ("] " ++ l.levelName ++ " " ++ l.name ++ ": " ++ message).toList := by
  simp only [Stage.tailPieces, fill?, fieldText?, part?_name, part?_levelname, part?_message,
    Option.bind_some, fieldForm?_plain, Option.map_some, String.toList_append, List.append_assoc,
    List.append_nil]
  rfl

end Line

/-! ## Formats with a prefix -/

theorem toList_formatOf (lead : String) :
    (Setup.formatOf lead).toList = '[' :: (lead.toList ++ Stage.tail) := by
  have tail : "] %(levelname)s %(name)s: %(message)s".toList = Stage.tail := by decide
  rw [Setup.formatOf, String.toList_append, String.toList_append, tail, List.append_assoc]
  rfl

/-- In the brackets stands what the prefix gives. -/
theorem write?_formatOf (l : Line) (message : String) (timed : Bool) (lead : String) :
    Log.write? (Setup.formatOf lead) (l.parts message timed) =
      (Log.write? lead (l.parts message timed)).map (l.bracketed message) := by
  have rest (due : Option Value) : fill? (l.parts message timed) due Stage.tailPieces = _ :=
    Line.fill?_tailPieces due
  rw [Log.write?, Log.write?, toList_formatOf, pieces?_cons (by decide), pieces?_append_tail]
  rcases pieces? lead.toList with - | ps
  · rfl
  dsimp only [Option.map_some, Option.bind_some, fill?]
  rw [fill?_append rest]
  rcases fill? (l.parts message timed) (some (l.parts message timed).whole) ps with - | cs
  · rfl
  refine congrArg some (String.toList_injective ?_)
  simp [Line.bracketed]

/-! ## A line that shows the difference -/

/-- A line above all levels, from the first line of a program. -/
def Line.loud : Line where
  name := "bodycapture"
  level := 60
  levelName := Log.levelName 60
  said := .text "started"
  arguments := .tuple []
  message := some "started"
  circumstances := [("pathname", .text "/app/main.py"), ("filename", .text "main.py"),
    ("module", .text "main"), ("exc_info", .null), ("exc_text", .null), ("stack_info", .null),
    ("lineno", .int 1), ("funcName", .text "main"), ("created", .float (.zero false)),
    ("msecs", .float (.zero false)), ("relativeCreated", .float (.zero false)),
    ("thread", .int 1), ("threadName", .text "MainThread"),
    ("processName", .text "MainProcess"), ("process", .int 1), ("taskName", .null)]
  time := "1970-01-01 00:00:00,000"
  traceback := ""
  stack := ""
  fresh := by decide +kernel

/-- No part of it has a percent sign. -/
theorem Line.signless_loud (timed : Bool) :
    ∀ part ∈ loud.parts "started" timed, '%' ∉ part.1.toList ∧ part.2.signless = true := by
  have checked : (loud.parts "started" timed).all
      (fun part => !part.1.toList.contains '%' && part.2.signless) = true := by
    cases timed
    all_goals
      simp only [parts, loud, List.cons_append, List.nil_append, List.all_cons, List.all_nil,
        Value.signless_text, if_true, if_false, Bool.false_eq_true]
      decide +kernel
  intro part mem
  have both := List.all_eq_true.1 checked part mem
  rw [Bool.and_eq_true, Bool.not_eq_true', List.contains_eq_mem, decide_eq_false_iff_not] at both
  exact both

/-! ## The handlers of the library -/

namespace Setup

/-- No threshold is above the one of silence. -/
theorem threshold_le (es : List Event) : (start.after es).threshold ≤ 60 := by
  have low (l : Loudness) : l.threshold ≤ 60 := by cases l <;> decide
  have step {s : Setup} (before : s.threshold ≤ 60) (e : Event) : (e.on s).2.threshold ≤ 60 := by
    by_cases sets : e.Sets
    · rcases level_on sets s with ⟨-, agrees⟩ | ⟨f, -, same⟩
      · rw [agrees]
        exact low _
      · rw [same.threshold]
        exact before
    · cases e with
      | join format => exact before
      | configure level lead => exact absurd trivial sets
      | setLevel level => exact absurd trivial sets
  have all {s : Setup} (before : s.threshold ≤ 60) : (s.after es).threshold ≤ 60 := by
    induction es generalizing s with
    | nil => exact before
    | cons e es ih => exact ih (step before e)
  exact all (by decide)

/-- A line above all levels gets to the handlers in any case. -/
theorem reaches_loud (es : List Event) : (start.after es).reaches Line.loud = true := by
  have low := threshold_le es
  have counted : (start.after es).thresholdOf Line.loud.name ≤ 60 := by
    unfold thresholdOf
    split
    · exact low
    · decide
  exact Bool.and_eq_true_iff.2 ⟨decide_eq_true counted, by decide⟩

/-- A line that gets to the handlers is written by each of them. -/
theorem lineOf_mem_emit {s : Setup} {l : Line} {h : Handler} (reached : s.reaches l = true)
    (mem : h ∈ s.handlers) : lineOf h l ∈ s.emit l := by
  have some_handler : s.handlers.isEmpty = false :=
    List.isEmpty_eq_false_iff.2 (List.ne_nil_of_mem mem)
  rw [emit, reached, some_handler]
  exact List.mem_map_of_mem mem

/-- However the log was set up before, and whether the level makes sense or not: the library has a
handler on the channel, and in front of every line that gets there and has a message the handler
writes in brackets what the prefix gives when it is taken as a format.  That is the prefix itself,
for all of these lines, exactly if it has no percent signs.  What is attached to a line follows it
unchanged. -/
theorem bracketed_iff (before : List Event) (level : Value) (lead : String) :
    ∃ h, (start.after before).leftBy (.text lead) = some h ∧
      (∀ l, (start.after (before ++ [.configure level (.text lead)])).reaches l = true →
        lineOf h l ∈ (start.after (before ++ [.configure level (.text lead)])).emit l) ∧
      (∀ l : Line, lineOf h l = l.message.bind fun message =>
        (Log.write? lead (l.parts message (Line.mentionsTime h.format))).map fun text =>
          l.attached (l.bracketed message text)) ∧
      ((∀ l message, (start.after (before ++ [.configure level (.text lead)])).reaches l = true →
        l.message = some message → lineOf h l = some (l.attached (l.bracketed message lead))) ↔
          '%' ∉ lead.toList) := by
  have filled (l : Line) : l.write? (formatOf lead) = l.message.bind fun message =>
      (Log.write? lead (l.parts message (Line.mentionsTime (formatOf lead)))).map fun text =>
        l.attached (l.bracketed message text) := by
    refine congrArg l.message.bind (funext fun message => ?_)
    rw [write?_formatOf, Option.map_map]
    rfl
  refine ⟨⟨(start.after before).nextObject, formatOf lead⟩, rfl, ?_, filled, ?_⟩
  · intro l reached
    refine lineOf_mem_emit reached ?_
    rw [after_append]
    show _ ∈ ((start.after before).configure level (.text lead)).2.handlers
    rw [handlers_configure]
    exact List.mem_append_right _ List.mem_cons_self
  · constructor
    · intro literal
      have same := (filled Line.loud).symm.trans (literal Line.loud _ (reaches_loud _) rfl)
      obtain ⟨text, written, inBrackets⟩ := Option.map_eq_some_iff.1 same
      -- nothing is attached to this line
      obtain rfl := Line.bracketed_injective Line.loud "started" inBrackets
      exact sign_notMem_of_write? (Line.signless_loud _) written
    · intro literal l message _ said
      refine (filled l).trans ?_
      rw [said]
      exact congrArg (Option.map _) (write?_of_sign_notMem literal _)

/-- Two signs come out as one. -/
theorem not_literal_percent :
    ∃ h, (start.after [.configure (.text "info") (.text "100%%")]).handlers = [h] ∧
      (start.after [.configure (.text "info") (.text "100%%")]).reaches
        (.plain "bodycapture" 20 "msg") = true ∧
      lineOf h (.plain "bodycapture" 20 "msg") = some "[100%] INFO bodycapture: msg" ∧
      (Line.plain "bodycapture" 20 "msg").bracketed "msg" "100%%" =
        "[100%%] INFO bodycapture: msg" := by
  refine ⟨⟨0, formatOf "100%%"⟩, ?_⟩
  decide +kernel

end Setup
end Log
end HttpTap
