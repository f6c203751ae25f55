import Community.Cache.Basic
import Community.Text.Integer

/-!
# A store on a key-value server

The server is reached by commands, each answered by one reply. All keys carry a common label
in front. A family of keys is removed in two phases: first the server is asked page by page
for the keys, following its cursor until that is 0 again, then the keys are removed, at most
five hundred with one command.

The replies are given as a list; a command that finds none left has failed. The keys that are
removed are counted in 64 bits, and a removal whose count does not fit is broken off.
-/

namespace Community.Cache.Remote

/-- A reply of the server. -/
inductive Reply
  | failure
  | nothing
  | text (s : String)
  | number (n : Int)
  | list (items : List Reply)
  deriving Inhabited

/-- A command to the server. -/
inductive Command
  | get (key : String)
  | set (key value : String) (seconds : Nat)
  | delete (keys : List String)
  | scan (cursor pattern : String)
  | quit
  deriving DecidableEq, Repr

/-- The words of a command. -/
def Command.words : Command → List Json
  | get key => [.str "GET", .str key]
  | set key value seconds => [.str "SET", .str key, .str value, .str "EX", encode seconds]
  | delete keys => .str "DEL" :: keys.map .str
  | scan cursor pattern =>
    [.str "SCAN", .str cursor, .str "MATCH", .str pattern, .str "COUNT", .int 100]
  | quit => [.str "QUIT"]

/-- Why a request comes to no value. -/
inductive Fault
  /-- A command failed. -/
  | command
  /-- A count does not fit 64 bits. -/
  | overflow
  deriving DecidableEq, Repr

/-- What came of a request: a value or what was in its way, the commands sent, and
the replies left. -/
structure Outcome (α : Type) where
  result : Except Fault α
  commands : List Command
  replies : List Reply

/-- The key with the label in front. -/
def labelled (label key : String) : String :=
  if label.isEmpty then key else label ++ ":" ++ key

/-- Sends one command and reads its reply. -/
def send {α : Type} (command : Command) (read : Reply → Option α) : List Reply → Outcome α
  | [] => ⟨.error .command, [command], []⟩
  | reply :: replies => ⟨(read reply).elim (.error .command) .ok, [command], replies⟩

/-- The text of a reply. A list of one item stands for the item. -/
def Reply.text? : Reply → Option String
  | .text s => some s
  | .number n => some (toString n)
  | .list [item] => item.text?
  | _ => none

/-- The signed 64-bit number of a reply. A list of one item stands for the item. -/
def Reply.number? : Reply → Option Int
  | .number n => some n
  | .text s => (Text.readInt64 s).toOption
  | .list [item] => item.number?
  | _ => none

/-- Reads a text, or nothing. -/
def readText : Reply → Option (Option String)
  | .nothing => some none
  | .list [] => some none
  | reply => reply.text?.map some

/-- Reads how many keys were removed. -/
def readCount (reply : Reply) : Option Nat :=
  reply.number?.map Int.toNat

/-- The texts of replies that are all texts. -/
def texts? : List Reply → Option (List String)
  | [] => some []
  | .text s :: rest => (texts? rest).map (s :: ·)
  | _ :: _ => none

/-- Reads the next cursor and the keys of a page. -/
def readPage : Reply → Option (String × List String)
  | .list [.text cursor, .list keys] => (texts? keys).map fun keys => (cursor, keys)
  | _ => none

/-- Reads any reply but a failure. -/
def readAny : Reply → Option Unit
  | .failure => none
  | _ => some ()

/-- Reads a key. -/
def get (label key : String) (replies : List Reply) : Outcome (Option String) :=
  send (.get (labelled label key)) readText replies

/-- Writes a key. Lifetimes are whole seconds, at least one. -/
def set (label key value : String) (ttl : Nat) (replies : List Reply) : Outcome Unit :=
  send (.set (labelled label key) value (max 1 (ttl / 1000))) readAny replies

/-- Removes a key. -/
def delete (label key : String) (replies : List Reply) : Outcome Nat :=
  send (.delete [labelled label key]) readCount replies

/-- Ends the connection. -/
def close (replies : List Reply) : Outcome Unit :=
  send .quit readAny replies

/-- Asks for the pages of a family from a cursor on. -/
def scanFrom (pattern cursor : String) : List Reply → Outcome (List String)
  | [] => ⟨.error .command, [.scan cursor pattern], []⟩
  | reply :: replies =>
    match readPage reply with
    | none => ⟨.error .command, [.scan cursor pattern], replies⟩
    | some (next, keys) =>
      if next = "0" then ⟨.ok keys, [.scan cursor pattern], replies⟩
      else
        let rest := scanFrom pattern next replies
        ⟨rest.result.map (keys ++ ·), .scan cursor pattern :: rest.commands, rest.replies⟩

/-- How many keys one command removes at most. -/
def batchSize : Nat := 500

/-- The list in pieces of `batchSize`; the last piece may be shorter. -/
def batches : List String → List (List String)
  | [] => []
  | key :: rest => (key :: rest.take (batchSize - 1)) :: batches (rest.drop (batchSize - 1))
  termination_by keys => keys.length
  decreasing_by
    simp only [List.length_drop, List.length_cons]
    omega

/-- Removes the batches one after the other, up to the first failure, and counts the removed
keys on. The count is checked: where it does not fit 64 bits, nothing more is removed. -/
def deleteAll (removed : Nat) : List (List String) → List Reply → Outcome Nat
  | [], replies => ⟨.ok removed, [], replies⟩
  | batch :: rest, replies =>
    let first := send (.delete batch) readCount replies
    match first.result with
    | .error fault => ⟨.error fault, first.commands, first.replies⟩
    | .ok n =>
      if removed + n ≤ Text.word64Max then
        let more := deleteAll (removed + n) rest first.replies
        ⟨more.result, first.commands ++ more.commands, more.replies⟩
      else ⟨.error .overflow, first.commands, first.replies⟩

/-- Removes a family of keys. -/
def deletePattern (label pattern : String) (replies : List Reply) : Outcome Nat :=
  let scanned := scanFrom (labelled label pattern) "0" replies
  match scanned.result with
  | .error fault => ⟨.error fault, scanned.commands, scanned.replies⟩
  | .ok keys =>
    let removed := deleteAll 0 (batches keys) scanned.replies
    ⟨removed.result, scanned.commands ++ removed.commands, removed.replies⟩

end Community.Cache.Remote
