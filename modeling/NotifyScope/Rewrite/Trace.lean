import NotifyScope.Wrapper.Repair

/-
  This file defines what a rewrite tells while it goes on: a
  list of events, each with its text and the tone in which it
  is shown.

  Key definitions include:
    * `Tone`
    * `Tone.paint`
    * `Event`
    * `Event.message`
    * `Event.tone`
-/

namespace NotifyScope

------------------------------------------------------------
-- Tones
------------------------------------------------------------

/- The role of a piece of text on a console. -/
inductive Tone where
  | header
  | method
  | success
  | warning
  | dim
  | bold
  | statLabel
deriving DecidableEq, Repr

namespace Tone

/- The name that the markup language has for a tone. -/
def tag : Tone → String
  | header => "bold cyan"
  | method => "yellow"
  | success => "bold green"
  | warning => "bold red"
  | dim => "dim"
  | bold => "bold"
  | statLabel => "bold blue"

/- Mark a text up in a tone, on a console with colours. -/
def paint
    (colored : Bool)
    (tone : Tone)
    (text : String) : String :=
  if colored then
    "[" ++ tone.tag ++ "]" ++ text ++ "[/]"
  else
    text

/- The rule that stands beside a heading. -/
def separator
    (colored : Bool) : String :=
  paint colored dim "───"

end Tone

------------------------------------------------------------
-- Events
------------------------------------------------------------

/- Something that a rewrite tells. -/
inductive Event where
  /- A text with so many lines is next. -/
  | text (name : String) (lineCount : Nat)
  /- A rule is next. -/
  | rule (oldName newName : Text)
  /- The declaration on a line has no end. -/
  | skipped (line : Nat)
  /- A method is next. -/
  | method (target : Method) (state : BodyState)
  /- The method got a wrapper. -/
  | wrapped (edit : NewWrapper)
  /- The method was repaired. -/
  | repaired (report : Repair.Report)
  /- The rewrite was given up. -/
  | conflict (error : LocateError)
deriving DecidableEq, Repr

namespace Event

/- The text of an event, with lines counted from one. -/
def message : Event → String
  | text name lineCount =>
      "Processing " ++ name ++ " (" ++
        toString lineCount ++ " lines)..."
  | rule oldName newName =>
      "Rule: " ++ Text.str oldName ++ " -> " ++
        Text.str newName
  | skipped line =>
      "  Skipping declaration on line " ++
        toString (line + 1) ++ ": braces never balance"
  | method target state =>
      "  " ++ Text.str target.name ++ ": lines " ++
        toString (target.start + 1) ++ "-" ++
        toString (target.stop + 1) ++ " (" ++
        state.label ++ ")"
  | wrapped edit =>
      "    Wrapped: WrapperOpen on line " ++
        toString (edit.openLine + 1) ++
        ", WrapperClose on line " ++
        toString (edit.closeLine + 1)
  | repaired report =>
      "    Repaired: " ++ toString report.collapsed ++
        " stacked wrapper(s), " ++
        toString report.dropped ++
        " surplus closer(s), " ++
        toString report.normalized ++ " legacy closer(s)"
  | conflict error => "  " ++ error.message

/- The tone in which an event is shown. -/
def tone : Event → Tone
  | text _ _ => .bold
  | rule _ _ => .header
  | skipped _ => .warning
  | method _ _ => .method
  | wrapped _ => .dim
  | repaired _ => .dim
  | conflict _ => .warning

end Event

end NotifyScope
