import NotifyScope.Report.Document
import NotifyScope.Settings.Effective

/-
  This file defines the console that a run writes to: which
  messages are shown, and whether they have colours.

  Key definitions include:
    * `Tone.resolve`
    * `Console`
    * `Console.ofSettings`
    * `Console.say`
    * `Console.tell`
-/

namespace NotifyScope

------------------------------------------------------------
-- Colours
------------------------------------------------------------

namespace Text

/-
  Replace the occurrences of `old`, which is not empty, from
  a position on.  The first `skip` characters belong to an
  occurrence that is replaced already.
-/
def replaceFrom
    (old new : Text) :
    Nat → Text → Text
  | _, [] => []
  | skip + 1, _ :: rest => replaceFrom old new skip rest
  | 0, c :: rest =>
      if old.isPrefixOf (c :: rest) then
        new ++ replaceFrom old new (old.length - 1) rest
      else
        c :: replaceFrom old new 0 rest

end Text

namespace Tone

/- The attributes of a tone on a terminal. -/
def attributes : Tone → String
  | header => "1;36"
  | method => "33"
  | success => "1;32"
  | warning => "1;31"
  | dim => "2"
  | bold => "1"
  | statLabel => "1;34"

/- The sequence that gives a terminal attributes. -/
def escape
    (attributes : String) : String :=
  "\x1b[" ++ attributes ++ "m"

/- All tones. -/
def all : List Tone :=
  [header, method, success, warning, dim, bold, statLabel]

/- Replace a tag of the markup by terminal attributes. -/
def resolveTag
    (tag attributes : String)
    (text : Text) : Text :=
  Text.replaceFrom ("[" ++ tag ++ "]").toList
    (escape attributes).toList 0 text

/- A text for a terminal, from one that is marked up. -/
def resolve
    (text : String) : String :=
  Text.str
    (all.foldl
      (fun text tone => resolveTag tone.tag tone.attributes text)
      (resolveTag "/" "0" text.toList))

end Tone

------------------------------------------------------------
-- Consoles
------------------------------------------------------------

/- What a console shows. -/
structure Console where
  colored : Bool
  /- Whether it shows more than what concerns everyone. -/
  verbose : Bool
deriving DecidableEq, Repr

namespace Console

variable {m : Type → Type} [Monad m] [Host m]

/-
  Whether there are colours.  Unless an option says so, the
  environment decides, and then whether there is a terminal.
-/
def hasColors : ColorMode → m Bool
  | .always => pure true
  | .never => pure false
  | .auto => do
      if (← Host.environment "NO_COLOR").isSome then
        pure false
      else if (← Host.environment "FORCE_COLOR").isSome then
        pure true
      else
        Host.isTerminal

/- The console for some settings. -/
def ofSettings
    (settings : Settings) : m Console := do
  return {
    colored := ← hasColors settings.color
    verbose := settings.verbose }

/- Show a line. -/
def line
    (console : Console)
    (text : String) : m Unit :=
  Host.outputLine
    (if console.colored then Tone.resolve text else text)

/- Show a message to those who want to know more. -/
def say
    (console : Console)
    (tone : Tone)
    (text : String) : m Unit :=
  if console.verbose then
    console.line (tone.paint console.colored text)
  else
    pure ()

/- Show a message where it belongs. -/
def tell
    (console : Console) : Document.Message → m Unit
  | .notice text => Host.complainLine text
  | .progress tone text => console.say tone text

end Console

end NotifyScope
