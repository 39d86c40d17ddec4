import TileServer.Text.Caseless

namespace TileServer

class Keyword (α : Type) where
  title : String
  all : List α
  word : α → String

namespace Keyword

def ofWord? (α : Type) [Keyword α] (text : String) : Option α :=
  (all (α := α)).find? (fun value => Text.sameFolded (word value) text)

def refusal (title text : String) : String :=
  "Unknown " ++ title ++ ": " ++ text

end Keyword

inductive BarMode
  | dock
  | hide
  | invisible
  deriving Repr, DecidableEq

instance : Keyword BarMode where
  title := "BarMode"
  all := [.dock, .hide, .invisible]
  word
    | .dock => "dock"
    | .hide => "hide"
    | .invisible => "invisible"

inductive HiddenState
  | hide
  | show
  deriving Repr, DecidableEq

instance : Keyword HiddenState where
  title := "HiddenState"
  all := [.hide, .show]
  word
    | .hide => "hide"
    | .show => "show"

inductive Modifier
  | control
  | shift
  | mod1
  | mod2
  | mod3
  | mod4
  | mod5
  deriving Repr, DecidableEq

instance : Keyword Modifier where
  title := "Modifier"
  all := [.control, .shift, .mod1, .mod2, .mod3, .mod4, .mod5]
  word
    | .control => "ctrl"
    | .shift => "shift"
    | .mod1 => "Mod1"
    | .mod2 => "Mod2"
    | .mod3 => "Mod3"
    | .mod4 => "Mod4"
    | .mod5 => "Mod5"

inductive BarPosition
  | top
  | bottom
  deriving Repr, DecidableEq

instance : Keyword BarPosition where
  title := "BarPosition"
  all := [.top, .bottom]
  word
    | .top => "top"
    | .bottom => "bottom"

inductive LogLevel
  | trace
  | debug
  | info
  | warn
  | error
  deriving Repr, DecidableEq

namespace LogLevel

def word : LogLevel → String
  | trace => "trace"
  | debug => "debug"
  | info => "info"
  | warn => "warn"
  | error => "error"

def ofWord? (text : String) : Option LogLevel :=
  if Text.spells "warning".toList text.toList then some warn
  else [trace, debug, info, warn, error].find? (fun level =>
    Text.spells level.word.toList text.toList)

def refusal (text : String) : String :=
  "Unknown log level: " ++ text

end LogLevel

end TileServer
