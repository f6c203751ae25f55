import Community.Json.Draft
import Community.Decimal.Shortest
import Community.Text.Blank
import Community.Text.Quoted

/-!
# Decoding JSON into domain types

A decoder turns a draft into a value or says what is wrong with it: the text is not JSON
(`malformed`), or a value in it is not what is wanted (`mismatch`). Whatever stands first in
the text is reported, and after the text is used up the first member that is missing, in the
order of declaration.

Records are read from an object, whose members may come in any order, or from an array
with the members in the order of declaration. Unknown members are skipped; a member
given twice is refused.
-/

namespace Community.Json

open Community.Decimal Community.Text

/-- A step from a value to a part of it. -/
inductive Step
  | member (name : String)
  | item (index : Nat)
  deriving DecidableEq, Repr

/-- What was found in place of the wanted value. -/
inductive Found
  | null
  | bool (b : Bool)
  | int (n : Int)
  | float (x : Float)
  | str (s : String)
  | sequence
  | map

/-- The text of a float in a message. -/
def floatText (x : Float) : String :=
  match text? x with
  | some cs => String.ofList cs
  | none => "NaN"

/-- What was found, in words. -/
def Found.text : Found → String
  | .null => "null"
  | .bool b => "boolean `" ++ (if b then "true" else "false") ++ "`"
  | .int n => "integer `" ++ toString n ++ "`"
  | .float x => "floating point `" ++ floatText x ++ "`"
  | .str s => "string " ++ quoted s
  | .sequence => "sequence"
  | .map => "map"

/-- Why a value is not what is wanted. -/
inductive Mismatch
  | invalidType (found : Found) (wanted : String)
  | invalidValue (found : Found) (wanted : String)
  | invalidLength (length : Nat) (wanted : String)
  | unknownVariant (found : String) (names : List String)
  | missingField (name : String)
  | duplicateField (name : String)
  | custom (text : String)

/-- Names between backquotes, as a choice. -/
def choice (names : List String) : String :=
  let marked := names.map fun n => "`" ++ n ++ "`"
  match marked with
  | [] => "there are no variants"
  | [a] => "expected " ++ a
  | [a, b] => "expected " ++ a ++ " or " ++ b
  | all => "expected one of " ++ ", ".intercalate all

/-- The sentence that names the mismatch. -/
def Mismatch.message : Mismatch → String
  | .invalidType found wanted => "invalid type: " ++ found.text ++ ", expected " ++ wanted
  | .invalidValue found wanted => "invalid value: " ++ found.text ++ ", expected " ++ wanted
  | .invalidLength n wanted => "invalid length " ++ toString n ++ ", expected " ++ wanted
  | .unknownVariant found names => "unknown variant `" ++ found ++ "`, " ++ choice names
  | .missingField name => "missing field `" ++ name ++ "`"
  | .duplicateField name => "duplicate field `" ++ name ++ "`"
  | .custom text => text

/-- Why decoding stopped. -/
inductive Fault
  | malformed
  | mismatch (path : List Step) (what : Mismatch)

/-- The fault seen from one step further out. -/
def Fault.under (step : Step) : Fault → Fault
  | .malformed => .malformed
  | .mismatch path what => .mismatch (step :: path) what

/-- A path in words: names joined by points, indices in brackets. -/
def pathText : List Step → String
  | [] => ""
  | .member name :: rest => name ++ tail rest
  | .item i :: rest => "[" ++ toString i ++ "]" ++ tail rest
where
  /-- The steps after the first one. -/
  tail : List Step → String
    | [] => ""
    | .member name :: rest => "." ++ name ++ tail rest
    | .item i :: rest => "[" ++ toString i ++ "]" ++ tail rest

/-- A mismatch with the path of the value in front. -/
def located (path : List Step) (what : Mismatch) : String :=
  if path.isEmpty then what.message else pathText path ++ ": " ++ what.message

/-- How a draft is read. -/
structure Mode where
  /-- How many containers may still be entered, less one. -/
  depth : Nat
  /-- Whether the text was read to its end before decoding began. -/
  buffered : Bool
  /-- Whether an object without members stands for no value where none is wanted. -/
  emptyIsUnit : Bool

/-- The mode for a text that is decoded while it is read. -/
def Mode.start : Mode :=
  ⟨128, false, false⟩

/-- The mode inside a container; none if it lies too deep. -/
def Mode.enter? (m : Mode) : Option Mode :=
  if m.depth ≤ 1 then none else some { m with depth := m.depth - 1 }

/-- A decoder for `α`. -/
abbrev Decoder (α : Type) := Mode → Draft → Except Fault α

/-- How a type is read from JSON. -/
class Decode (α : Type) where
  decode : Decoder α
  /-- The value of a member that an object does not have. -/
  absent : Option α := none

export Decode (decode)

/-- A mismatch at the value itself. -/
def refuse {α : Type} (what : Mismatch) : Except Fault α :=
  .error (.mismatch [] what)

/-- The fault of a draft that is not of the wanted kind. -/
def unwanted {α : Type} (d : Draft) (wanted : String) : Except Fault α :=
  match d with
  | .null => refuse (.invalidType .null wanted)
  | .bool b => refuse (.invalidType (.bool b) wanted)
  | .num n =>
    match n.value? with
    | none => .error .malformed
    | some (.int i) => refuse (.invalidType (.int i) wanted)
    | some (.float x) => refuse (.invalidType (.float x) wanted)
  | .str none => .error .malformed
  | .str (some s) => refuse (.invalidType (.str s) wanted)
  | .arr _ _ => refuse (.invalidType .sequence wanted)
  | .obj _ _ => refuse (.invalidType .map wanted)
  | .broken => .error .malformed

/-- Reads an integer from `lo` to `hi`. A float is never an integer, whatever its value. -/
def decodeInt (lo hi : Int) (wanted : String) : Decoder Int := fun _ d =>
  match d with
  | .num n =>
    match n.value? with
    | some (.int i) =>
      if lo ≤ i ∧ i ≤ hi then .ok i else refuse (.invalidValue (.int i) wanted)
    | _ => unwanted d wanted
  | _ => unwanted d wanted

/-- Reads a signed 64-bit number. -/
def decodeInt64 : Decoder Int := decodeInt int64Min int64Max "i64"

/-- Reads a signed 32-bit number. -/
def decodeInt32 : Decoder Int := decodeInt int32Min int32Max "i32"

/-- Reads an unsigned 64-bit number. -/
def decodeWord64 : Decoder Nat := fun m d =>
  (decodeInt 0 word64Max "u64" m d).map Int.toNat

/-- Reads a number as a float. -/
def decodeFloat : Decoder Float := fun _ d =>
  match d with
  | .num n =>
    match n.value? with
    | some (.int i) => .ok (Float.ofInt i)
    | some (.float x) => .ok x
    | none => .error .malformed
  | _ => unwanted d "f64"

/-- Reads a truth value. -/
def decodeBool : Decoder Bool := fun _ d =>
  match d with
  | .bool b => .ok b
  | _ => unwanted d "a boolean"

/-- Reads a text. -/
def decodeString : Decoder String := fun _ d =>
  match d with
  | .str (some s) => .ok s
  | _ => unwanted d "a string"

/-- Reads a value, or none from null. -/
def decodeOption {α : Type} (inner : Decoder α) : Decoder (Option α) := fun m d =>
  match d with
  | .null => .ok none
  | _ => (inner m d).map some

/-- The fault of a container that lies too deep or whose text cannot be followed. -/
def decodeItems {α : Type} (inner : Decoder α) (m : Mode) (closed : Bool) :
    Nat → List Draft → Except Fault (List α)
  | _, [] => if closed then .ok [] else .error .malformed
  | i, d :: ds =>
    match inner m d with
    | .error f => .error (f.under (.item i))
    | .ok a =>
      match decodeItems inner m closed (i + 1) ds with
      | .error f => .error f
      | .ok as => .ok (a :: as)

/-- Reads a list. -/
def decodeList {α : Type} (inner : Decoder α) : Decoder (List α) := fun m d =>
  match d with
  | .arr ds closed =>
    match m.enter? with
    | none => .error .malformed
    | some m => decodeItems inner m closed 0 ds
  | _ => unwanted d "a sequence"

/-- Whether a draft says that there is no value. -/
def Draft.isUnit (emptyIsUnit : Bool) : Draft → Bool
  | .null => true
  | .obj [] true => emptyIsUnit
  | _ => false

/-- Reads the name of one of `variants`, or an object with that name and no value. -/
def decodeVariant {α : Type} (wanted : String) (variants : List (String × α)) : Decoder α :=
  fun m d =>
    match d with
    | .str (some s) => pick s
    | .obj ((some s, v) :: more) closed =>
      match m.enter? with
      | none => .error .malformed
      | some _ =>
        match pick s with
        | .error f => .error f
        | .ok a =>
          if v.isUnit m.emptyIsUnit then
            if !closed then .error .malformed
            else if more.isEmpty then .ok a
            else if m.buffered then refuse (.invalidValue .map "map with a single key")
            else .error .malformed
          else (unwanted v "unit" : Except Fault α).mapError (Fault.under (.member s))
    | .broken => .error .malformed
    | .str none => .error .malformed
    | .obj _ closed =>
      if m.buffered && closed then refuse (.invalidValue .map "map with a single key")
      else .error .malformed
    | d => if m.buffered then unwanted d ("enum " ++ wanted) else .error .malformed
where
  /-- The variant of that name. -/
  pick (s : String) : Except Fault α :=
    match variants.lookup s with
    | some a => .ok a
    | none => refuse (.unknownVariant s (variants.map Prod.fst))

/-- Reads any value. -/
def decodeJson : Decoder Json := fun m d =>
  match d.json? m.depth with
  | some j => .ok j
  | none => .error .malformed

/-! ## Records -/

/-- Where the members of a record come from. -/
structure Members where
  /-- The draft of the member with that place in the declaration and that name, and its
  place in the text. -/
  find? : Nat → String → Option (Nat × Draft)
  /-- The fault of a member that is not there, and its place in the text, if it has one. -/
  missing : Nat → String → Option Nat × Fault
  /-- Whether members without a value may take the value that stands for an absent one. -/
  named : Bool

/-- A fault and its place in the text; faults without a place come last. -/
abbrev Placed := Option Nat × Fault

/-- The earlier of two faults; of two without a place the first. -/
def earlier (a b : Placed) : Placed :=
  match a.1, b.1 with
  | none, none => a
  | some _, none => a
  | none, some _ => b
  | some i, some j => if j < i then b else a

/-- How a record is read from its members. -/
structure Fields (α : Type) where
  names : List String
  /-- Reads the members that begin at that place in the declaration. -/
  build : Mode → Members → Nat → Except Placed α

/-- A record without members. -/
def Fields.pure {α : Type} (a : α) : Fields α :=
  ⟨[], fun _ _ _ => .ok a⟩

/-- A record with one more member. -/
def Fields.seq {α β : Type} (f : Fields (α → β)) (x : Fields α) : Fields β :=
  ⟨f.names ++ x.names, fun m src i =>
    match f.build m src i, x.build m src (i + f.names.length) with
    | .ok g, .ok a => .ok (g a)
    | .error e, .ok _ => .error e
    | .ok _, .error e => .error e
    | .error e, .error e' => .error (earlier e e')⟩

instance : Functor Fields where
  map g x := Fields.seq (Fields.pure g) x

instance : Applicative Fields where
  pure := Fields.pure
  seq f x := Fields.seq f (x ())

/-- A member read by `inner`. `ifUnnamed` is its value where an object lacks it, `ifMissing`
its value where even an array ends before it. -/
def Fields.one {α : Type} (name : String) (inner : Decoder α)
    (ifUnnamed ifMissing : Option α) : Fields α :=
  ⟨[name], fun m src i =>
    match src.find? i name with
    | some (at_, d) =>
      match inner m d with
      | .ok a => .ok a
      | .error f => .error (some at_, f.under (if src.named then .member name else .item i))
    | none =>
      match ifMissing, (if src.named then ifUnnamed else none) with
      | some a, _ => .ok a
      | none, some a => .ok a
      | none, none => .error (src.missing i name)⟩

/-- A member of type `α`, which has to be given unless the type has a value for absence. -/
def field {α : Type} [Decode α] (name : String) : Fields α :=
  Fields.one name decode Decode.absent none

/-- A member that may be left out. -/
def fieldOr {α : Type} [Decode α] (name : String) (default : α) : Fields α :=
  Fields.one name decode Decode.absent (some default)

/-- The first place of a name among members. -/
def findMember? (name : String) : Nat → List (Option String × Draft) → Option (Nat × Draft)
  | _, [] => none
  | i, (n, d) :: rest => if n = some name then some (i, d) else findMember? name (i + 1) rest

/-- The first member, from place `i` on, that is refused because of its name: half a
surrogate pair in it, a second member of that name, or an unknown name whose value
cannot be followed. -/
def refusedName (known : List String) :
    List String → Nat → List (Option String × Draft) → Option Placed
  | _, _, [] => none
  | _, i, (none, _) :: _ => some (some i, .malformed)
  | seen, i, (some n, d) :: rest =>
    if n ∈ known then
      if n ∈ seen then some (some i, .mismatch [] (.duplicateField n))
      else refusedName known (n :: seen) (i + 1) rest
    else if d.followed then refusedName known seen (i + 1) rest
    else some (some i, .malformed)

/-- The earliest of the faults that the names, the missing end and the members have. -/
def settle {α : Type} (names ending : Option Placed) (built : Except Placed α) :
    Except Fault α :=
  let first := match names, ending with
    | none, e => e
    | some a, none => some a
    | some a, some b => some (earlier a b)
  match built, first with
  | .ok a, none => .ok a
  | .ok _, some (_, f) => .error f
  | .error (_, f), none => .error f
  | .error e, some n => .error (earlier n e).2

/-- The members of an object. -/
def Members.ofObject (ms : List (Option String × Draft)) : Members :=
  { find? := fun _ name => findMember? name 0 ms
    missing := fun _ name => (none, .mismatch [] (.missingField name))
    named := true }

/-- Reads a record from the members of an object. -/
def Fields.fromMembers {α : Type} (x : Fields α) (m : Mode)
    (ms : List (Option String × Draft)) (closed : Bool) : Except Fault α :=
  settle (refusedName x.names [] 0 ms)
    (if closed then none else some (some ms.length, .malformed))
    (x.build m (.ofObject ms) 0)

/-- Reads a record from the items of an array. -/
def Fields.fromItems {α : Type} (x : Fields α) (wanted : String) (m : Mode) (ds : List Draft)
    (closed : Bool) : Except Fault α :=
  let count := x.names.length
  let short : Nat → Fault := fun i =>
    if closed then .mismatch [] (.invalidLength i
      (wanted ++ " with " ++ toString count ++
        (if count = 1 then " element" else " elements")))
    else .malformed
  let src : Members :=
    { find? := fun i _ => ds[i]?.map fun d => (i, d)
      missing := fun i _ => (some i, short i)
      named := false }
  let ending : Option Placed :=
    if !closed then some (some ds.length, .malformed)
    else if count < ds.length then
      some (some count, if m.buffered then
        .mismatch [] (.invalidLength ds.length "fewer elements in sequence") else .malformed)
    else none
  settle none ending (x.build m src 0)

/-- Reads a record called `wanted` from an object or an array. -/
def Fields.decode {α : Type} (wanted : String) (x : Fields α) : Decoder α := fun m d =>
  match d with
  | .obj ms closed =>
    match m.enter? with
    | none => .error .malformed
    | some m => x.fromMembers m ms closed
  | .arr ds closed =>
    match m.enter? with
    | none => .error .malformed
    | some m => x.fromItems wanted m ds closed
  | d => unwanted d wanted

/-- Reads a record whose members share an object with those of an inner record: the
outer members are decoded where they stand, all others are read as values first and go
to the inner record. -/
def decodeFlattened {α β γ : Type} (wanted : String) (outer : Fields α) (inner : Fields β)
    (join : α → β → γ) : Decoder γ := fun m d =>
  match d with
  | .obj ms closed =>
    match m.enter? with
    | none => .error .malformed
    | some m =>
      let rest := ms.filter fun e => match e.1 with
        | some n => !outer.names.contains n
        | none => true
      let unread := firstUnread outer.names m.depth 0 ms
      let names := match refusedName outer.names [] 0 ms, unread with
        | none, u => u
        | some a, none => some a
        | some a, some b => some (earlier a b)
      match settle names (if closed then none else some (some ms.length, .malformed))
          (outer.build m (.ofObject ms) 0) with
      | .error f => .error f
      | .ok a =>
        match inner.fromMembers
          { m with buffered := true, emptyIsUnit := true } rest true with
        | .error f => .error f
        | .ok b => .ok (join a b)
  | d => unwanted d wanted
where
  /-- The first member outside the outer record that is not a value. -/
  firstUnread (known : List String) (depth : Nat) : Nat →
    List (Option String × Draft) → Option Placed
    | _, [] => none
    | i, (n, d) :: rest =>
      let outerName := match n with
        | some n => known.contains n
        | none => false
      if outerName || (d.json? depth).isSome then firstUnread known depth (i + 1) rest
      else some (some i, .malformed)

/-- Reads the first of several kinds of value that fits. The text is read to the end
of the value first. -/
def decodeFirst {α : Type} (wanted : String) (kinds : List (Decoder α)) :
    Decoder α := fun m d =>
  match d.json? m.depth with
  | none => .error .malformed
  | some _ =>
    match kinds.findSome? fun k => (k { m with buffered := true } d).toOption with
    | some a => .ok a
    | none => refuse (.custom ("data did not match any variant of untagged enum " ++ wanted))

/-! ## Instances -/

instance : Decode Int := ⟨decodeInt64, none⟩
instance : Decode Nat := ⟨decodeWord64, none⟩
instance : Decode Bool := ⟨decodeBool, none⟩
instance : Decode Float := ⟨decodeFloat, none⟩
instance : Decode String := ⟨decodeString, none⟩
instance : Decode Json := ⟨decodeJson, none⟩
instance {α : Type} [Decode α] : Decode (Option α) := ⟨decodeOption decode, some none⟩
instance {α : Type} [Decode α] : Decode (List α) := ⟨decodeList decode, none⟩

/-- Decodes a text; only space may follow the value. -/
def parse {α : Type} [Decode α] (s : String) : Except Fault α :=
  let doc := Draft.read s
  match decode Mode.start doc.value with
  | .error f => .error f
  | .ok a => if doc.ended then .ok a else .error .malformed

end Community.Json
