import Community.Cache.Key
import Community.Cache.Store
import Community.Json.Decoder
import Community.Json.Printer

/-!
# The cache of the service

Values are kept as JSON text. The cache never fails: a store that cannot be read has nothing,
one that cannot be written keeps what it has. A value that does not decode as the type that
is asked for is removed. Every call of the store is noted.

Outcomes of actions are kept for a short while, so that a repeated request is answered
without being carried out again.
-/

namespace Community

open Json

namespace Cache

/-- How long values are kept, in milliseconds. -/
structure Policy where
  /-- For single things. -/
  detail : Nat := 1800000
  /-- For lists. -/
  list : Nat := 300000
  /-- For outcomes of actions. -/
  marker : Nat := 5000

/-- The calls that a store may fail to carry out. -/
inductive Operation
  | get
  | set
  | delete
  | deletePattern
  | close
  deriving DecidableEq, Repr

/-- What a read found. -/
inductive Finding
  | hit
  | miss
  | error
  deriving DecidableEq, Repr

/-- A call of the store. A number of removed entries is missing if the call failed. -/
inductive Call
  | get (key : String) (finding : Finding)
  | set (key : String) (ttl : Nat)
  | delete (key : String) (count : Option Nat)
  | deletePattern (pattern : String) (count : Option Nat)
  | close
  deriving DecidableEq, Repr

end Cache

/-- The cache: its store, the calls of it that fail, and the calls made so far. -/
structure Cache where
  policy : Cache.Policy
  store : Cache.Store := {}
  calls : List Cache.Call := []
  /-- Whether the store fails to carry out a call, by the number of calls made before it. -/
  fails : Nat → Cache.Operation → Bool := fun _ _ => false

namespace Cache

/-- Whether the next call of the store fails. -/
def down (c : Cache) (op : Operation) : Bool :=
  c.fails c.calls.length op

/-- The cache with one more call noted. -/
def note (c : Cache) (call : Call) : Cache :=
  { c with calls := c.calls ++ [call] }

/-- The text under a key. -/
def getText (c : Cache) (now : Nat) (key : String) : Option String × Cache :=
  if c.down .get then (none, c.note (.get key .error))
  else
    let (found, store) := c.store.get now key
    let finding := if found.isSome then .hit else .miss
    (found, { c with store := store }.note (.get key finding))

/-- Keeps a text. -/
def setText (c : Cache) (now : Nat) (key text : String) (ttl : Nat) : Cache :=
  if c.down .set then c.note (.set key ttl)
  else { c with store := c.store.set now key text ttl }.note (.set key ttl)

/-- Removes a key. -/
def delete (c : Cache) (key : String) : Cache :=
  if c.down .delete then c.note (.delete key none)
  else
    let (count, store) := c.store.delete key
    { c with store := store }.note (.delete key (some count))

/-- Removes a family of keys. -/
def deletePattern (c : Cache) (pattern : String) : Cache :=
  if c.down .deletePattern then c.note (.deletePattern pattern none)
  else
    let (count, store) := c.store.deletePattern pattern
    { c with store := store }.note (.deletePattern pattern (some count))

/-- Removes several families of keys, one after the other. -/
def deletePatterns (c : Cache) (patterns : List String) : Cache :=
  patterns.foldl deletePattern c

/-- Gives up what is kept. -/
def close (c : Cache) : Cache :=
  if c.down .close then c.note .close
  else { c with store := c.store.clear }.note .close

/-- The value under a key. A text that does not decode is removed. -/
def get {α : Type} [Decode α] (c : Cache) (now : Nat) (key : String) : Option α × Cache :=
  match c.getText now key with
  | (none, c) => (none, c)
  | (some text, c) =>
    match parse text with
    | .ok a => (some a, c)
    | .error _ => (none, c.delete key)

/-- Keeps a value. -/
def set {α : Type} [Encode α] (c : Cache) (now : Nat) (key : String) (a : α) (ttl : Nat) :
    Cache :=
  c.setText now key (encode a).render ttl

end Cache

end Community
