import Community.Config.Basic
import Community.Config.Fault
import Community.Text.Integer

/-!
# From settings to the configuration

Each section is read field by field. A field takes every scalar that can stand for its type:
a switch takes numbers and words, a number takes switches and numerals, a text takes the text
of any scalar. A section may also be a list, which gives its fields in order. A setting of
the wrong kind is reported before a missing one.
-/

namespace Community.Config

open Text

/-! ## Scalars -/

/-- The text of a scalar; nothing has none. -/
def Scalar.text? : Scalar → Option String
  | .null => none
  | .bool b => some (if b then "true" else "false")
  | .int n => some (toString n)
  | .float x => some (Decimal.plainText x)
  | .text s => some s

/-- The truth value that a word stands for. -/
def switchWord? (s : String) : Option Bool :=
  if s = "true" ∨ s = "on" ∨ s = "yes" then some true
  else if s = "false" ∨ s = "off" ∨ s = "no" then some false
  else none

/-- The setting is not of the wanted kind. -/
def Setting.refuse {α : Type} (s : Setting) (found : Found) (wanted : Wanted) :
    Except Fault α :=
  .error (.mistyped found wanted "" s.origin)

/-- Reads a text. -/
def Setting.text (s : Setting) : Except Fault String :=
  match s with
  | .scalar v _ =>
    match v.text? with
    | some t => .ok t
    | none => s.refuse .null .text
  | .list _ _ => s.refuse .list .text
  | .group _ _ => s.refuse .group .text

/-- Reads a truth value. Every number but zero is true. -/
def Setting.bool (s : Setting) : Except Fault Bool :=
  match s with
  | .scalar (.bool b) _ => .ok b
  | .scalar (.int n) _ => .ok (n ≠ 0)
  | .scalar (.float x) _ => .ok !(x == 0.0)
  | .scalar (.text t) _ =>
    let word := lower t
    if word = "1" then .ok true
    else if word = "0" then .ok false
    else match switchWord? word with
      | some b => .ok b
      | none => s.refuse (.text word) .bool
  | .scalar .null _ => s.refuse .null .bool
  | .list _ _ => s.refuse .list .bool
  | .group _ _ => s.refuse .group .bool

/-- Reads an unsigned 64-bit number. A float goes to the nearest one. -/
def Setting.word (s : Setting) : Except Fault Nat :=
  match s with
  | .scalar (.int n) _ => if 0 ≤ n then .ok n.toNat else s.refuse (.int n) .word
  | .scalar (.bool b) _ => .ok b.toNat
  | .scalar (.float x) _ => .ok (Decimal.nearestWord x)
  | .scalar (.text t) _ =>
    match switchWord? (lower t) with
    | some b => .ok b.toNat
    | none =>
      match readWord64 t with
      | .ok n => .ok n
      | .error _ => s.refuse (.text t) .integer
  | .scalar .null _ => s.refuse .null .integer
  | .list _ _ => s.refuse .list .integer
  | .group _ _ => s.refuse .group .integer

/-- Reads an unsigned number of fewer bits. -/
def Setting.narrowWord (bits : Nat) (s : Setting) : Except Fault Nat := do
  let n ← s.word
  if n < Decimal.twoTo bits then return n
    else throw (.mistyped (.word n) (.narrowWord bits) "" none)

/-- The tag that a text spells, in any case. -/
def variant {α : Type} [Tag α] (name : String) : Except Fault α :=
  match (Tag.table α).find? fun entry => lower entry.1 = lower name with
  | some (_, a) => .ok a
  | none => .error (.unknownVariant (Tag.title α) name)

/-- Reads a tag: its spelling, or a group whose only name spells it. -/
def Setting.tag {α : Type} [Tag α] : Setting → Except Fault α
  | .scalar (.text t) _ => variant t
  | .group [(name, _)] _ => variant name
  | _ => .error (.notVariant (Tag.title α))

/-! ## Sections -/

/-- The settings of a section, under names or in order. -/
structure Section where
  title : String
  fields : List String
  content : List (String × Setting) ⊕ List Setting

/-- Reads a section with the given fields. -/
def Setting.asSection (title : String) (fields : List String) :
    Setting → Except Fault Section
  | .scalar v _ => .error (.notSection v title)
  | .list items _ => .ok ⟨title, fields, .inr items⟩
  | .group entries _ => .ok ⟨title, fields, .inl entries⟩

namespace Section

/-- The setting of a field, and the step that leads to it. -/
def find? (s : Section) (name : String) : Option (String × Setting) :=
  match s.content with
  | .inl entries => (entries.lookup name).map fun v => (name, v)
  | .inr items =>
    let i := s.fields.idxOf name
    items[i]?.map fun v => ("[" ++ toString i ++ "]", v)

/-- Reads a field if it is given. -/
def field? {α : Type} (s : Section) (name : String) (read : Setting → Except Fault α) :
    Except Fault (Option α) :=
  match s.find? name with
  | none => .ok none
  | some (step, v) =>
    match read v with
    | .ok a => .ok (some a)
    | .error fault => .error (fault.within step)

/-- Reads a field with a default. -/
def field {α : Type} (s : Section) (name : String) (read : Setting → Except Fault α)
    (default : α) : Except Fault α := do
  return (← s.field? name read).getD default

/-- The fault of a field that has to be given and is not. -/
def missing (s : Section) (name : String) : Fault :=
  match s.content with
  | .inl _ => .missingField name
  | .inr _ => .tooShort (s.fields.idxOf name) s.title s.fields.length

end Section

/-- Reads the section of the server. -/
def readServer (v : Setting) : Except Fault Server := do
  let s ← v.asSection "ServerConfig" ["host", "port", "request_timeout_secs"]
  let d : Server := {}
  return {
    host := ← s.field "host" Setting.text d.host
    port := ← s.field "port" (Setting.narrowWord 16) d.port
    requestTimeout := ← s.field "request_timeout_secs" Setting.word d.requestTimeout }

/-- Reads the section of the database, whose address has to be given. -/
def readDatabase (v : Setting) : Except Fault Database := do
  let s ← v.asSection "DatabaseConfig" ["url", "max_connections", "min_connections"]
  let url ← s.field? "url" Setting.text
  let max ← s.field? "max_connections" (Setting.narrowWord 32)
  let min ← s.field? "min_connections" (Setting.narrowWord 32)
  match url with
  | none => throw (s.missing "url")
  | some url =>
    let d : Database := { url := url }
    return ⟨url, max.getD d.maxConnections, min.getD d.minConnections⟩

/-- Reads the section of the cache server. -/
def readRedis (v : Setting) : Except Fault Redis := do
  let s ← v.asSection "RedisConfig" ["enabled", "url", "prefix"]
  let d : Redis := {}
  return {
    enabled := ← s.field "enabled" Setting.bool d.enabled
    url := ← s.field "url" Setting.text d.url
    keyPrefix := ← s.field "prefix" Setting.text d.keyPrefix }

/-- Reads a time that is given in seconds, as milliseconds. -/
def Setting.seconds (v : Setting) : Except Fault Nat :=
  v.word.map (1000 * ·)

/-- Reads the section of the cache. -/
def readCache (v : Setting) : Except Fault Cache.Policy := do
  let s ← v.asSection "CacheConfig"
      ["detail_ttl_secs", "list_ttl_secs", "idempotency_ttl_secs"]
  let d : Cache.Policy := {}
  return {
    detail := ← s.field "detail_ttl_secs" Setting.seconds d.detail
    list := ← s.field "list_ttl_secs" Setting.seconds d.list
    marker := ← s.field "idempotency_ttl_secs" Setting.seconds d.marker }

/-- Reads the section of the gateway. -/
def readGateway (v : Setting) : Except Fault Http.Gateway := do
  let s ← v.asSection "GatewayConfig" ["user_id_header", "username_header", "role_header"]
  let d : Http.Gateway := {}
  return {
    userIdHeader := ← s.field "user_id_header" Setting.text d.userIdHeader
    usernameHeader := ← s.field "username_header" Setting.text d.usernameHeader
    roleHeader := ← s.field "role_header" Setting.text d.roleHeader }

/-- Reads the section of the log. -/
def readLogging (v : Setting) : Except Fault LogFormat := do
  let s ← v.asSection "LoggingConfig" ["format"]
  s.field "format" Setting.tag .pretty

/-- Reads the whole configuration, in which the section of the database has to be given. -/
def ofSetting (v : Setting) : Except Fault Config := do
  let s ← v.asSection "Config" ["server", "database", "redis", "cache", "gateway", "logging"]
  let server ← s.field "server" readServer {}
  let database ← s.field? "database" readDatabase
  let redis ← s.field "redis" readRedis {}
  let cache ← s.field "cache" readCache {}
  let gateway ← s.field "gateway" readGateway {}
  let logging ← s.field "logging" readLogging .pretty
  match database with
  | none => throw (s.missing "database")
  | some database => return { server, database, redis, cache, gateway, logging }

end Community.Config
