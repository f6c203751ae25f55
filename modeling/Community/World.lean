import Community.Cache.Basic
import Community.Database.Basic
import Community.Problem

/-!
# The world that the service acts on

A database, a cache and a clock. A procedure yields a value or a problem, and the world after
it. It changes the database by whole statements only: a statement that fails leaves no trace.
-/

namespace Community

open Time Json

/-- What the service acts on. -/
structure World where
  database : Database
  cache : Cache
  /-- Microseconds since the start of 2025. -/
  clock : Nat

/-- A procedure of the service. -/
abbrev Procedure (α : Type) := ExceptT Problem (StateM World) α

namespace World

/-- The time of the clock. -/
def now (w : World) : Timestamp :=
  .ofMicros w.clock

end World

namespace Procedure

/-- What a procedure yields in a world, and the world after it. -/
def perform {α : Type} (a : Procedure α) (w : World) : Except Problem α × World :=
  a.run.run w

/-- A step that needs nothing of the world. -/
def check {α : Type} (outcome : Except Problem α) : Procedure α :=
  ExceptT.mk (pure outcome)

/-- The time of the clock. -/
def now : Procedure Timestamp :=
  return (← get).now

/-- A question to the database. -/
def query {α : Type} (q : Database → Except Database.Fault α) : Procedure α := do
  check (Problem.ofStatement (q (← get).database))

/-- A change of the database, made as a whole or not at all. -/
def transact {α : Type} (q : Database → Except Problem (α × Database)) : Procedure α := do
  let w ← get
  match q w.database with
  | .error p => throw p
  | .ok (a, db) =>
    set { w with database := db }
    return a

/-- A change of the database by one statement. -/
def write {α : Type} (q : Database → Except Database.Fault (α × Database)) : Procedure α :=
  transact fun db => Problem.ofStatement (q db)

/-- Writes a row by one statement and reads it then. A row that cannot be
read stays written. -/
def writeRow {ρ α : Type} [Database.Entity ρ α]
    (q : Database → Except Database.Fault (ρ × Database)) : Procedure α := do
  let row ← write q
  check (Problem.ofStatement (Database.readRow row))

/-- A change of the database that may fail without consequence. -/
def attempt {α : Type} (q : Database → Except Database.Fault (α × Database)) :
    Procedure Unit :=
  modify fun w => match q w.database with
    | .ok (_, db) => { w with database := db }
    | .error _ => w

/-! ## The cache -/

/-- The value kept under a key. -/
def fetch {α : Type} [Decode α] (key : String) : Procedure (Option α) := do
  let w ← get
  let (found, cache) := w.cache.get w.clock key
  set { w with cache := cache }
  return found

/-- Keeps a value under a key, for a time that the policy of the cache gives. -/
def keep {α : Type} [Encode α] (key : String) (a : α) (ttl : Cache.Policy → Nat) :
    Procedure Unit :=
  modify fun w => { w with cache := w.cache.set w.clock key a (ttl w.cache.policy) }

/-- Removes a key. -/
def forget (key : String) : Procedure Unit :=
  modify fun w => { w with cache := w.cache.delete key }

/-- Removes families of keys. -/
def forgetFamilies (patterns : List String) : Procedure Unit :=
  modify fun w => { w with cache := w.cache.deletePatterns patterns }

/-- The value kept under a key, or else the one that `compute` yields, which is
kept from then on. -/
def readThrough {α : Type} [Encode α] [Decode α] (key : String) (ttl : Cache.Policy → Nat)
    (compute : Procedure α) : Procedure α := do
  match ← fetch key with
  | some a => return a
  | none =>
    let a ← compute
    keep key a ttl
    return a

/-- The outcome kept for an action that was carried out a short while ago, or else the
outcome of carrying it out now, which is kept afterwards. -/
def once {α : Type} [Encode α] [Decode α] (marker : String) (carryOut : Procedure α) :
    Procedure α :=
  readThrough marker Cache.Policy.marker carryOut

end Procedure

end Community
