import HttpFetch.Network
import HttpFetch.Settings

/-!
# Logging

Notes are written by loggers, whose names form a tree below the root: a logger that has no level
of its own has that of the nearest logger above it that does. A level spec is a list of levels
divided by commas; one for a logger is written `name=level`, and of the others the last is the
root's.
-/

namespace HttpFetch

/-- How much a logger lets through. -/
inductive LogLevel
  | unset
  | debug
  | info
  | warning
  | error
  | critical
  deriving DecidableEq, Repr

namespace LogLevel

def number : LogLevel → Nat
  | unset => 0
  | debug => 10
  | info => 20
  | warning => 30
  | error => 40
  | critical => 50

/-- The names of the levels; some have two. -/
def names : List (String × LogLevel) :=
  [("NOTSET", unset), ("DEBUG", debug), ("INFO", info), ("WARN", warning), ("WARNING", warning),
    ("ERROR", error), ("CRITICAL", critical), ("FATAL", critical)]

/-- The level of a name in any case; an unknown name counts as a warning. -/
def ofName (name : Text) : LogLevel :=
  ((names.find? fun entry => entry.1.toList = name.trim.upper).map (·.2)).getD warning

/-- Whether debug notes pass a level. -/
def showsDebug (level : LogLevel) : Bool := level.number ≤ debug.number

end LogLevel

/-- What a level spec asks for. -/
structure LevelSpec where
  root : LogLevel
  loggers : OrderedMap Text LogLevel
  deriving Repr

namespace LevelSpec

/-- The spec with one more part of the text. -/
def add (spec : LevelSpec) (part : Text) : LevelSpec :=
  match Text.cut '=' part.trim with
  | ([], none) => spec
  | (level, none) => { spec with root := LogLevel.ofName level }
  | (name, some level) =>
    { spec with loggers := OrderedMap.insert spec.loggers name.trim (LogLevel.ofName level) }

/-- The spec that a text holds. -/
def parse (s : Text) : LevelSpec :=
  (Text.splitOn (· = ',') s).foldl add ⟨.warning, []⟩

/-- The spec of an environment, in capitals. -/
def ofEnvironment (environment : Environment) : Text :=
  ((environment.get? "HTTPWIRE_LOG_LEVEL").getD "WARNING".toList).upper

end LevelSpec

/-- The loggers in use, each with its own level, and the level of the root. -/
structure Loggers where
  root : LogLevel
  own : OrderedMap Text LogLevel

namespace Loggers

/-- The name of the root. -/
def rootName : Text := "root".toList

/-- Whether a name is one of the root's. -/
def isRoot (name : Text) : Bool := name.isEmpty || name = rootName

def set (loggers : Loggers) (name : Text) (level : LogLevel) : Loggers :=
  if isRoot name then { loggers with root := level }
  else { loggers with own := OrderedMap.insert loggers.own name level }

/-- The loggers that a spec sets up. -/
def ofSpec (spec : LevelSpec) : Loggers :=
  spec.loggers.foldl (fun loggers (name, level) => loggers.set name level) ⟨spec.root, []⟩

/-- The loggers for a spec given by a caller, or else by the environment. -/
def setup (environment : Environment) (given : Option Text) : Loggers :=
  let text := match given with
    | none | some [] => LevelSpec.ofEnvironment environment
    | some spec => spec
  ofSpec (LevelSpec.parse text)

/-- The loggers with one more in use. -/
def use (loggers : Loggers) (name : Text) : Loggers :=
  if isRoot name || (OrderedMap.find? loggers.own name).isSome then loggers
  else { loggers with own := loggers.own ++ [(name, .unset)] }

/-- The parts of a reversed name after its dots, nearest first, each reversed as well. Of two
adjacent dots the first one is passed over, and so is a dot that begins the name. -/
def above : Text → List Text
  | [] => []
  | '.' :: [] => []
  | '.' :: c :: rest => (c :: rest) :: above rest
  | _ :: rest => above rest

theorem length_of_mem_above {name ancestor : Text} (h : ancestor ∈ above name) :
    ancestor.length < name.length := by
  fun_induction above name with
  | case1 => simp at h
  | case2 => simp at h
  | case3 c rest ih =>
    rcases List.mem_cons.mp h with rfl | h
    · simp
    · have := ih h
      simp only [List.length_cons]
      omega
  | case4 _ _ _ _ ih =>
    have := ih h
    simp only [List.length_cons]
    omega

/-- Whether a logger in use stands above another one whose name goes on after its own. One whose
name begins the root's does so only for loggers that come into use after it: those before it are
taken to have it above them already. -/
def isAbove (loggers : Loggers) (name lower : Text) : Bool :=
  (OrderedMap.find? loggers.own name).isSome
    && (!name.isPrefixOf rootName || ((loggers.own.map (·.1)).takeWhile (· != lower)).elem name)

/-- The level in force for a logger whose name is given in reverse. -/
def levelOf (loggers : Loggers) (reversed : Text) : LogLevel :=
  match (OrderedMap.find? loggers.own reversed.reverse).getD .unset with
  | .unset =>
    match _h : (above reversed).find? fun part => loggers.isAbove part.reverse reversed.reverse with
    | some part => levelOf loggers part
    | none => loggers.root
  | level => level
termination_by reversed.length
decreasing_by exact length_of_mem_above (List.mem_of_find?_eq_some _h)

/-- The level in force for a logger. -/
def level (loggers : Loggers) (name : Text) : LogLevel :=
  if isRoot name then loggers.root else loggers.levelOf name.reverse

/-- The levels in force for loggers that come into use one after the other. -/
def levels (loggers : Loggers) : List Text → List (Text × LogLevel)
  | [] => []
  | name :: rest =>
    let loggers := loggers.use name
    (name, loggers.level name) :: loggers.levels rest

end Loggers

/-- The logger that writes the notes of a part of the library. -/
def NoteSource.logger : NoteSource → String
  | connector => "httpwire.transport.connector"
  | cookies => "httpwire.http.cookies"
  | pipeline => "httpwire.http.pipeline"

/-- The lines that the loggers write for notes, all of which are for debugging. -/
def Loggers.render (loggers : Loggers) (notes : List Note) : Text :=
  (notes.filter fun note => (loggers.level note.source.logger.toList).showsDebug).flatMap
    fun note => "DEBUG ".toList ++ note.source.logger.toList ++ ": ".toList ++ note.text ++ ['\n']

end HttpFetch
