import HttpFetch.Failure
import HttpFetch.Number.Decimal

/-!
# Settings

What a client assumes unless told otherwise, and how the environment tells it. A variable that
does not read as a number, or reads as a negative one, is as good as absent.
-/

namespace HttpFetch

/-- Variables by name; of one name the last counts. -/
abbrev Environment := List (Text × Text)

def Environment.get? (environment : Environment) (name : String) : Option Text :=
  environment.reverse.lookup name.toList

/-- The version of the program. -/
def version : String := "0.1.0"

def defaultUserAgent : Text := "httpwire/".toList ++ version.toList

/-- Timeouts in seconds, the redirects followed, and the name that the client goes by. -/
structure Settings where
  connectTimeout : Double
  readTimeout : Double
  writeTimeout : Double
  maxRedirects : Int
  userAgent : Text

namespace Settings

/-- No timeouts and five redirects. -/
def default : Settings := ⟨.zero, .zero, .zero, 5, defaultUserAgent⟩

/-- A number of seconds from a variable. -/
def seconds (environment : Environment) (name : String) (default : Double) : Double :=
  match (environment.get? name).bind Decimal.parse? with
  | some x => if x.isAtLeastZero then x else default
  | none => default

/-- A count from a variable. -/
def count (environment : Environment) (name : String) (default : Int) : Int :=
  match (environment.get? name).map Integer.parse with
  | some (.ok n) => if 0 ≤ n then n else default
  | _ => default

/-- The settings that an environment asks for. -/
def ofEnvironment (environment : Environment) : Settings where
  connectTimeout := seconds environment "HTTPWIRE_TIMEOUT_CONNECT" default.connectTimeout
  readTimeout := seconds environment "HTTPWIRE_TIMEOUT_READ" default.readTimeout
  writeTimeout := seconds environment "HTTPWIRE_TIMEOUT_WRITE" default.writeTimeout
  maxRedirects := count environment "HTTPWIRE_MAX_REDIRECTS" default.maxRedirects
  userAgent := (environment.get? "HTTPWIRE_USER_AGENT").getD default.userAgent

end Settings

end HttpFetch
