import ObjectStore.Config
import ObjectStore.Logging.Directive

/-!
# Logging

Which events are logged is said by directives. A logger is installed once and for
all. A call with a wrong level is refused before it comes to installing, and so
never uses up the one installation; nor does a call that breaks down over the
reading of its level.
-/

namespace ObjectStore.Logging

/-- The layouts of a log. -/
inductive Layout where
  /-- One line for an event. -/
  | compact
  /-- Several lines for an event. -/
  | pretty
  deriving DecidableEq, Repr

/-- The layout of a name; any unknown one is the layout of several lines. -/
def Layout.ofName (name : String) : Layout := if name = "compact" then compact else pretty

/-- What a logger does. -/
structure Logger where
  /-- Which events it logs. -/
  directives : List Directive
  /-- How it logs them. -/
  layout : Layout
  deriving DecidableEq, Repr

/-- The most that is logged of any event; without a logger nothing is. -/
def maxLevel : Option Logger → Level
  | some logger => logger.directives.foldl (fun l d => l.max d.maxLevel) .off
  | none => .off

/-- What a call for a logger comes to. -/
inductive Outcome where
  /-- There is a logger now. -/
  | installed
  /-- The call failed. -/
  | refused (error : Error)
  /-- The call broke down. -/
  | crashed
  deriving DecidableEq, Repr

/--
The directives that count: those of the environment if they are well formed, else the configured
ones.
-/
def directives (environment : Option String) (settings : LogSettings) :
    Except Flaw (List Directive) :=
  match environment.map parseDirectives with
  | some (.ok ds) => .ok ds
  | some (.error .broken) => .error .broken
  | some (.error .malformed) => parseDirectives settings.level
  | none => parseDirectives settings.level

/-- Install a logger where none is; the answer, and the logger that is there afterwards. -/
def install (environment : Option String) (settings : LogSettings) (logger : Option Logger) :
    Outcome × Option Logger :=
  match directives environment settings with
  | .error .malformed =>
    (.refused <| .invalidConfig <| "Invalid log level " ++ Text.Quoted.quote settings.level, logger)
  | .error .broken => (.crashed, logger)
  | .ok ds =>
    match logger with
    | some logger =>
      (.refused <| .config <|
        "Failed to install logger: a global default trace dispatcher has already been set", some logger)
    | none => (.installed, some ⟨ds, .ofName settings.format⟩)

/-- The answers to calls made one after the other, and the logger that is there after them. -/
def installAll (environment : Option String) :
    List LogSettings → Option Logger → List Outcome × Option Logger
  | [], logger => ([], logger)
  | settings :: rest, logger =>
    let (outcome, logger) := install environment settings logger
    let (outcomes, logger) := installAll environment rest logger
    (outcome :: outcomes, logger)

end ObjectStore.Logging
