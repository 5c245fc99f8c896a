import HttpFetch.Text.Basic

/-!
# Flags

The options of the command line. A switch stands alone and a setting has a value; each has a long
spelling and most a short one. The usage text and the help are fixed.
-/

namespace HttpFetch.CommandLine

inductive Switch
  | help
  | showHead
  deriving DecidableEq, Repr

inductive Setting
  | method
  | header
  | data
  | maxRedirects
  | connectTimeout
  | readTimeout
  | logLevel
  deriving DecidableEq, Repr

inductive Flag
  | switch (s : Switch)
  | setting (s : Setting)
  deriving DecidableEq, Repr

namespace Flag

/-- The flags with their spellings, in the order in which the help has them. -/
def all : List (Flag × List String) :=
  [(.switch .help, ["-h", "--help"]),
    (.setting .method, ["-X", "--method"]),
    (.setting .header, ["-H", "--header"]),
    (.setting .data, ["-d", "--data"]),
    (.setting .maxRedirects, ["--max-redirects"]),
    (.setting .connectTimeout, ["--connect-timeout"]),
    (.setting .readTimeout, ["--read-timeout"]),
    (.switch .showHead, ["-i", "--include"]),
    (.setting .logLevel, ["--log-level"])]

/-- All spellings with their flags. -/
def spellings : List (Text × Flag) :=
  all.flatMap fun (flag, names) => names.map fun name => (name.toList, flag)

/-- The flag of a spelling. -/
def ofSpelling? (s : Text) : Option Flag := spellings.lookup s

/-- The spellings of a flag as messages give them. -/
def label (flag : Flag) : Text :=
  (String.intercalate "/" ((all.lookup flag).getD [])).toList

end Flag

/-- How the program is called. -/
def usage : String :=
  "usage: httpwire [-h] [-X METHOD] [-H 'Name: value'] [-d DATA]\n" ++
  "                [--max-redirects MAX_REDIRECTS]\n" ++
  "                [--connect-timeout CONNECT_TIMEOUT]\n" ++
  "                [--read-timeout READ_TIMEOUT] [-i] [--log-level LOG_LEVEL]\n" ++
  "                url\n"

/-- The usage and what the arguments mean. -/
def help : String :=
  usage ++
  "\nhttpwire: issue one HTTP/1.1 request and print the response\n" ++
  "\npositional arguments:\n" ++
  "  url                   Target URL (http or https)\n" ++
  "\noptions:\n" ++
  "  -h, --help            show this help message and exit\n" ++
  "  -X METHOD, --method METHOD\n" ++
  "                        Request method (default GET, or POST with --data)\n" ++
  "  -H 'Name: value', --header 'Name: value'\n" ++
  "                        Extra request header; may be repeated\n" ++
  "  -d DATA, --data DATA  Request body\n" ++
  "  --max-redirects MAX_REDIRECTS\n" ++
  "                        Redirect budget\n" ++
  "  --connect-timeout CONNECT_TIMEOUT\n" ++
  "                        Connect timeout in seconds\n" ++
  "  --read-timeout READ_TIMEOUT\n" ++
  "                        Read timeout in seconds\n" ++
  "  -i, --include         Print the status line and response headers before the\n" ++
  "                        body\n" ++
  "  --log-level LOG_LEVEL\n" ++
  "                        Log level, optionally per logger, e.g.\n" ++
  "                        WARNING,httpwire.http.pipeline=DEBUG (default from\n" ++
  "                        HTTPWIRE_LOG_LEVEL)\n"

end HttpFetch.CommandLine
