import Community.Cache.Glob

/-!
# A map whose entries expire

Every entry of the store has an instant at which it expires; before that instant it is live.
Instants are microseconds since the start of 2025, lifetimes milliseconds. An expired entry
stays in the map until it is read, replaced or removed, and counts among the removed ones.
-/

namespace Community

/-- A text that is kept until an instant. -/
structure Cache.Entry where
  key : String
  value : String
  expiresAt : Nat
  deriving DecidableEq, Repr

/-- The entries, one for each key. -/
structure Cache.Store where
  entries : List Cache.Entry := []

namespace Cache.Store

/-- Whether an entry is live. -/
def isLive (now : Nat) (e : Entry) : Bool :=
  now < e.expiresAt

/-- The entry of a key, live or not. -/
def find? (s : Store) (key : String) : Option Entry :=
  s.entries.find? fun e => e.key == key

/-- The entries that do not have the key. -/
def erase (s : Store) (key : String) : Store :=
  ⟨s.entries.filter fun e => e.key != key⟩

/-- The value of a key, if its entry is live. -/
def lookup? (s : Store) (now : Nat) (key : String) : Option String :=
  (s.find? key).bind fun e => if isLive now e then some e.value else none

/-- The value of a key; an entry found expired is dropped. -/
def get (s : Store) (now : Nat) (key : String) : Option String × Store :=
  match s.find? key with
  | some e => if isLive now e then (some e.value, s) else (none, s.erase key)
  | none => (none, s)

/-- Keeps a value for `ttl` milliseconds. -/
def set (s : Store) (now : Nat) (key value : String) (ttl : Nat) : Store :=
  ⟨⟨key, value, now + 1000 * ttl⟩ :: (s.erase key).entries⟩

/-- Removes a key, and says how many entries that were. -/
def delete (s : Store) (key : String) : Nat × Store :=
  (if (s.find? key).isSome then 1 else 0, s.erase key)

/-- Removes the keys of a family, and says how many entries that were. -/
def deletePattern (s : Store) (pattern : String) : Nat × Store :=
  let rest := s.entries.filter fun e => !Glob.matchesKey pattern e.key
  (s.entries.length - rest.length, ⟨rest⟩)

/-- Removes everything. -/
def clear (_ : Store) : Store :=
  {}

/-- How many entries are live. -/
def size (s : Store) (now : Nat) : Nat :=
  (s.entries.filter (isLive now)).length

/-- Whether no entry is live. -/
def isEmpty (s : Store) (now : Nat) : Bool :=
  s.size now == 0

/-- The live entries only. -/
def purge (s : Store) (now : Nat) : Store :=
  ⟨s.entries.filter (isLive now)⟩

/-- The keys of the live entries, in order. -/
def keys (s : Store) (now : Nat) : List String :=
  ((s.purge now).entries.map Entry.key).mergeSort fun a b => a ≤ b

end Cache.Store

end Community
