import WindowPlacement.Desktop.Basic
import WindowPlacement.Geometry.Head
import WindowPlacement.Placement.Target

/-!
# Inquiries

Carrying out a command starts with questions to the desktop.  An inquiry is a series of
such questions together with what came of it, a value or the reason to give up, and with
the remarks made on the way.  After a reason to give up nothing more is asked.

The events of a sequence of two inquiries are those of the first, followed by those of the
second if the first had a value.
-/

namespace WindowPlacement

/-- What is noted in the log while a command is carried out. -/
inductive Remark
  | placing (placement : Placement)
  | unbounded (expression : Expression) (value : Float)
  | moving (window : WindowId) (target : Rect)
  | matched (title : String)
  | toggling (state : WindowState) (window : WindowId)
  | switching (window : WindowId) (current destination : Nat)

/-- How serious a remark is. -/
inductive Level
  | info
  | warning
  deriving DecidableEq, Repr

def Level.name : Level → String
  | .info => "INFO"
  | .warning => "WARN"

/-- A window id as it is written in the log, in hexadecimal. -/
def windowText (window : WindowId) : String :=
  "0x" ++ String.ofList (Text.hexadecimal window)

namespace Remark

/-- Only a value that is infinite or no number is worth a warning. -/
def level : Remark → Level
  | .unbounded _ _ => .warning
  | _ => .info

def text : Remark → String
  | .placing placement => "moveresize " ++ placement.text
  | .unbounded expression value =>
    expression.text ++ " evaluated to " ++ String.ofList (Decimal.text value)
  | .moving window target => "moving " ++ windowText window ++ " to " ++ target.text
  | .matched title => "focus: found match " ++ Text.quoted title
  | .toggling state window => "toggle " ++ state.name ++ " on " ++ windowText window
  | .switching window current destination =>
    "switch " ++ windowText window ++ " from head " ++ toString current ++ " to head " ++
      toString destination

def line (r : Remark) : String :=
  r.level.name ++ " " ++ r.text

end Remark

/-- Something that happens while a command is carried out. -/
inductive Event
  | asked (query : Query)
  | remarked (remark : Remark)

/-- Why a command on a desktop is given up. -/
inductive RunError (Failure : Type)
  | desktop (failure : Failure)
  | head (failure : HeadError)
  | arity (failure : ArityMismatch)
  | noMatch (pattern : String)
  | badHeadIndex (index count : Nat)
  | overflow (cause : Overflow)
  deriving DecidableEq, Repr

/-- The wording of a failure, given the wording of the windowing system's failures. -/
def RunError.message {Failure : Type} (describe : Failure → String) : RunError Failure → String
  | .desktop failure => "window manager error: " ++ describe failure
  | .head failure => failure.message
  | .arity failure => failure.message
  | .noMatch pattern => "focus: no window matched " ++ Text.quoted pattern
  | .badHeadIndex index count =>
    "bad head index " ++ toString index ++ " (have " ++ toString count ++ ")"
  | .overflow cause => cause.message

/-- The events of some questions and what came of them. -/
structure Inquiry (Failure α : Type) where
  events : List Event
  result : Except (RunError Failure) α

namespace Inquiry

variable {Failure α β : Type}

/-- Nothing is asked, and the value is known. -/
def pure (value : α) : Inquiry Failure α :=
  ⟨[], .ok value⟩

/-- Go on with a value, unless there is none. -/
def bind (first : Inquiry Failure α) (next : α → Inquiry Failure β) : Inquiry Failure β :=
  match first.result with
  | .error reason => ⟨first.events, .error reason⟩
  | .ok value =>
    let second := next value
    ⟨first.events ++ second.events, second.result⟩

instance : Monad (Inquiry Failure) where
  pure := pure
  bind := bind

def giveUp (reason : RunError Failure) : Inquiry Failure α :=
  ⟨[], .error reason⟩

/-- Ask a question, and give up if it is not answered. -/
def ask (query : Query) (answer : Except Failure α) : Inquiry Failure α :=
  ⟨[.asked query], answer.mapError .desktop⟩

/-- Ask a question that need not be answered. -/
def tryAsk (query : Query) (answer : Except Failure α) : Inquiry Failure (Option α) :=
  ⟨[.asked query], .ok answer.toOption⟩

def note (remark : Remark) : Inquiry Failure Unit :=
  ⟨[.remarked remark], .ok ()⟩

/-- Go on with a value that has been computed, or give up. -/
def ofExcept (result : Except (RunError Failure) α) : Inquiry Failure α :=
  ⟨[], result⟩

end Inquiry

end WindowPlacement
