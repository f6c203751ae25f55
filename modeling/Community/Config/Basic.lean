import Community.Cache.Basic
import Community.Http.Identity
import Community.Tag

/-!
# The configuration

What the service has to know before it starts, in sections. Everything but the address of the
database has a default.
-/

namespace Community

namespace Config

/-- Where the service listens, and how long a request may take. -/
structure Server where
  host : String := "0.0.0.0"
  port : Nat := 8000
  /-- In seconds. -/
  requestTimeout : Nat := 30

/-- Where the database is, and how many connections to it are kept. -/
structure Database where
  url : String
  maxConnections : Nat := 20
  minConnections : Nat := 5

/-- Whether the cache is kept on a server of its own, and where. -/
structure Redis where
  enabled : Bool := true
  url : String := "redis://127.0.0.1:6379"
  /-- What every key begins with. -/
  keyPrefix : String := "plaza"

/-- How the log is written. -/
inductive LogFormat
  | pretty
  | json
  deriving DecidableEq, Repr

instance : Tag LogFormat where
  title := "LogFormat"
  all := [.pretty, .json]
  spelling
    | .pretty => "pretty"
    | .json => "json"

end Config

/-- The configuration of the service. -/
structure Config where
  server : Config.Server := {}
  database : Config.Database
  redis : Config.Redis := {}
  cache : Cache.Policy := {}
  gateway : Http.Gateway := {}
  logging : Config.LogFormat := .pretty

end Community
