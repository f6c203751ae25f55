import Community.Category.Service
import Community.Proofs.User.Veil
import Community.Relation.Service
import Community.Search.Storage

/-!
# What is done through a veil

A statement about other tables than that of the users finds and changes the same through any
veil: the only thing that it asks of users is who is there.

A procedure is `Unaware` of a veil if it does the same through it as without it. This is
closed under everything that services are made of. Where a step asks for users, what it finds
through the veil is not the same but changed as the veil has it, and the procedure that goes
on with that has to do the same:

> `Mirrors.bind`: two procedures do the same step by step, if what the first step yields in
> one is what it yields in the other, changed by `f`, and the rest does the same with both.
-/

namespace Community

open Database

/-! ## Statements about other tables -/

namespace Database

/-- A table that no veil lies on. -/
class Unveiled (ρ : Type) {α : outParam Type} [Entity ρ α] : Prop where
  slot_veiled : ∀ (v : User.Veil) (db : Database), Entity.slot (db.veiled v) =
    (Entity.slot db : Slot ρ)
  put_veiled : ∀ (v : User.Veil) (db : Database) (s : Slot ρ),
    Entity.put (db.veiled v) s = (Entity.put db s).veiled v

instance : Unveiled Category.Row := ⟨fun _ _ => rfl, fun _ _ _ => rfl⟩
instance : Unveiled Content.Row := ⟨fun _ _ => rfl, fun _ _ _ => rfl⟩
instance : Unveiled Comment := ⟨fun _ _ => rfl, fun _ _ _ => rfl⟩
instance : Unveiled Dynamic := ⟨fun _ _ => rfl, fun _ _ _ => rfl⟩
instance : Unveiled Goods.Row := ⟨fun _ _ => rfl, fun _ _ _ => rfl⟩
instance : Unveiled Like.Row := ⟨fun _ _ => rfl, fun _ _ _ => rfl⟩
instance : Unveiled Favorite.Row := ⟨fun _ _ => rfl, fun _ _ _ => rfl⟩
instance : Unveiled HistoryEntry.Row := ⟨fun _ _ => rfl, fun _ _ _ => rfl⟩
instance : Unveiled HotSearch.Row := ⟨fun _ _ => rfl, fun _ _ _ => rfl⟩

/-- A change of the database finds the same through the veil, and changes the same. -/
def Overlooks {ε α : Type} (v : User.Veil) (q : Database → Except ε (α × Database)) : Prop :=
  ∀ db, q (db.veiled v) = (q db).map fun x => (x.1, x.2.veiled v)

section Statements

variable {ρ α : Type} [Entity ρ α] {v : User.Veil} {db : Database}

/-- Who is there is there through the veil. -/
theorem hasUser_veiled (id : Int) : (db.veiled v).hasUser id = db.hasUser id := by
  have hholds : ∀ t : Table User.Row,
      (t.map v.row).rows.any (fun u => u.id == id) = t.rows.any fun u => u.id == id := by
    intro t
    rw [Table.map, List.any_map]
    exact congrArg t.rows.any (funext fun u => congrArg (· == id) (v.id_row u))
  rw [hasUser, hasUser, veiled, Slot.map]
  dsimp only
  cases db.users.table? <;> cases db.users.hidden? <;> simp only [Option.map_none,
    Option.map_some, hholds]

/-- Whether the user of a row is there does not depend on what is behind the veil. -/
theorem isOwned_veiled (r : ρ) : (db.veiled v).isOwned r = db.isOwned r := by
  rw [isOwned, isOwned]
  split
  · exact hasUser_veiled _
  · rfl

variable [Unveiled ρ]

/-- A table other than that of the users is seen as it is. -/
theorem table_unveiled : (db.veiled v).table ρ = db.table ρ := by
  rw [table, table, Unveiled.slot_veiled]

/-- A table other than that of the users is stored on either side of the veil. -/
theorem withTable_unveiled (t : Table ρ) :
    (db.veiled v).withTable t = (db.withTable t).veiled v := by
  rw [withTable, Unveiled.slot_veiled, Unveiled.put_veiled]
  rfl

/-- A row goes into another table than that of the users as if there were no veil. -/
theorem overlooks_insertRow (r : ρ) : Overlooks v (insertRow r) := by
  intro db
  rw [insertRow, insertRow, table_unveiled]
  cases db.table ρ with
  | error f => rfl
  | ok t =>
    simp only [bind, Except.bind, isOwned_veiled, withTable_unveiled]
    split
    · rfl
    · split <;> rfl

/-- A new row gets the same identifier through the veil as without it. -/
theorem overlooks_insert (make : Int → ρ) : Overlooks v (insert make) := by
  intro db
  rw [insert, insert, table_unveiled]
  cases db.table ρ with
  | error f => rfl
  | ok t =>
    simp only [bind, Except.bind]
    split
    · exact overlooks_insertRow _ db
    · rfl

/-- Rows of another table are changed as if there were no veil. -/
theorem overlooks_update (pick : ρ → Bool) (change : ρ → ρ) :
    Overlooks v (update pick change) := by
  intro db
  have howned : (db.veiled v).isOwned (ρ := ρ) = db.isOwned := funext isOwned_veiled
  rw [update, update, table_unveiled]
  cases db.table ρ with
  | error f => rfl
  | ok t =>
    simp only [bind, Except.bind, howned, withTable_unveiled]
    split
    · rfl
    · split <;> rfl

/-- A row of another table is replaced as if there were no veil. -/
theorem overlooks_replace (r : ρ) : Overlooks v (replace r) := by
  intro db
  have hupdate := overlooks_update (v := v) (fun s : ρ => Entity.id s == Entity.id r)
    (fun _ => r) db
  rw [replace, replace, hupdate]
  rcases update (fun s : ρ => Entity.id s == Entity.id r) (fun _ => r) db with _ | ⟨rows, _⟩
  · rfl
  · cases rows <;> rfl

/-- Rows of another table are removed as if there were no veil. -/
theorem overlooks_delete (pick : ρ → Bool) : Overlooks v (delete pick) := by
  intro db
  rw [delete, delete, table_unveiled]
  cases db.table ρ with
  | error f => rfl
  | ok t =>
    simp only [bind, Except.bind, withTable_unveiled]
    rfl

/-- A row of another table is found, and made or changed, as if there were no veil. -/
theorem overlooks_upsert (pick : ρ → Bool) (make : Int → ρ) (change : α → ρ) :
    Overlooks v (upsert pick make change) := by
  intro db
  have hread : ∀ q : Database → Except Fault (ρ × Database), Overlooks v q →
      Overlooks v fun db => q db >>= fun x => readRow x.1 >>= fun a => pure (a, x.2) := by
    intro q hq db
    dsimp only
    rw [hq db]
    rcases q db with _ | ⟨r, _⟩
    · rfl
    · cases h : readRow r <;> simp [h, Except.map, bind, Except.bind, pure, Except.pure]
  rw [upsert, upsert, findFirst, findFirst, table_unveiled, ← findFirst]
  cases findFirst pick db with
  | error f => rfl
  | ok found =>
    cases found with
    | none => exact hread _ (overlooks_insert make) db
    | some a => exact hread _ (overlooks_replace (change a)) db

end Statements

end Database

variable {v : User.Veil}

/-- Categories are removed as if there were no veil. -/
theorem Category.overlooks_erase (id : Int) : Overlooks v (erase id) := by
  intro db
  rw [erase, erase, overlooks_delete _ db]
  cases delete (fun r : Row => r.id == id) db <;> rfl

namespace HotSearch

/-- A keyword that is there is counted as if there were no veil. -/
theorem overlooks_increment (keyword : String) (now : Time.Timestamp) :
    Overlooks v (increment keyword now) := by
  intro db
  rw [increment, increment, overlooks_update _ _ db]
  cases update (fun h : Row => h.keyword == keyword) _ db <;> rfl

/-- A keyword is counted or added as if there were no veil. -/
theorem overlooks_bump (keyword : String) (now : Time.Timestamp) :
    Overlooks v (bump keyword now) := by
  intro db
  have hincrement := overlooks_increment (v := v) keyword now
  have hinsert := overlooks_insert (v := v) fun id => (ofKeyword keyword now id).stored
  rw [bump, bump, hincrement db]
  rcases increment keyword now db with _ | ⟨_ | _, db'⟩
  · rfl
  · -- not counted yet
    simp only [Except.map, bind, Except.bind, hinsert db']
    cases insert (fun id => (ofKeyword keyword now id).stored) db' with
    | ok x => rfl
    | error f =>
      cases f with
      | duplicate =>
        simp only [hincrement db']
        cases increment keyword now db' <;> rfl
      | _ => rfl
  · rfl

end HotSearch

namespace Counter

/-- Counters are columns of other tables than that of the users. -/
theorem overlooks_adjust (counter : Counter) (id : Int) (delta : Delta) :
    Overlooks v (counter.adjust id delta) := by
  intro db
  cases counter with
  | contentLikes | contentFavorites =>
    simp only [adjust, onContent, overlooks_update _ _ db]
    cases update (fun c : Content.Row => c.id == id) _ db <;> rfl
  | commentLikes =>
    simp only [adjust, overlooks_update _ _ db]
    cases update (fun c : Comment => c.id == id) _ db <;> rfl
  | dynamicLikes =>
    simp only [adjust, overlooks_update _ _ db]
    cases update (fun d : Dynamic => d.id == id) _ db <;> rfl
  | goodsFavorites =>
    simp only [adjust, overlooks_update _ _ db]
    cases update (fun g : Goods.Row => g.id == id) _ db <;> rfl

/-- A step of a counter finds its target through the veil as without it. -/
theorem overlooks_count (counter : Counter) (id : Int) (delta : Delta) :
    Overlooks v (counter.count id delta) := by
  intro db
  rw [count, count, overlooks_adjust counter id delta db]
  rcases counter.adjust id delta db with _ | ⟨n, _⟩
  · rfl
  · cases n <;> rfl

end Counter

/-- Toggles overlook what is behind the veil, like their two statements. -/
theorem Relation.Toggling.overlooks_run {ρ α : Type} [Entity ρ α] [LawfulEntity ρ]
    [Unveiled ρ] (t : Toggling ρ α) : Overlooks v t.run := by
  intro db
  have hflip : Overlooks v t.flip := overlooks_upsert _ _ _
  rw [run, run, hflip db]
  rcases t.flip db with _ | ⟨a, db'⟩
  · rfl
  · simp only [Except.map, Problem.ofStatement, Except.mapError, bind, Except.bind,
      Counter.overlooks_count _ _ _ db']
    cases t.counter.count t.targetId (.ofState (t.status a).isActive) db' <;> rfl

/-! ## Procedures -/

/-- The world through a veil. -/
def World.veiled (v : User.Veil) (w : World) : World :=
  { w with database := w.database.veiled v }

namespace Procedure

variable {α β γ δ : Type} {f : α → β} {h : γ → δ}

/-- What `a'` does through the veil is what `a` does without it, but for its value, which
is changed by `f`. -/
def Mirrors (v : User.Veil) (f : α → β) (a' : Procedure β) (a : Procedure α) : Prop :=
  ∀ w : World, a'.perform (w.veiled v) = ((a.perform w).1.map f, (a.perform w).2.veiled v)

/-- A procedure does the same through the veil as without it. -/
def Unaware (v : User.Veil) (a : Procedure α) : Prop :=
  Mirrors v id a a

namespace Mirrors

theorem pure (x : α) : Mirrors v f (Pure.pure (f x)) (Pure.pure x) := fun _ => rfl

theorem throw (p : Problem) : Mirrors v f (throw p) (throw p) := fun _ => rfl

/-- Steps that mirror each other, followed by steps that do, mirror each other together. -/
theorem bind {a' : Procedure β} {a : Procedure α} {g' : β → Procedure δ}
    {g : α → Procedure γ} (ha : Mirrors v f a' a) (hg : ∀ x, Mirrors v h (g' (f x)) (g x)) :
    Mirrors v h (a' >>= g') (a >>= g) := by
  intro w
  rw [perform_bind, perform_bind, ha w]
  rcases a.perform w with ⟨p | x, u⟩
  · rfl
  · exact hg x u

/-- Queries mirror each other if they do on every database. -/
theorem query {q' : Database → Except Fault β} {q : Database → Except Fault α}
    (hq : ∀ db, q' (db.veiled v) = (q db).map f) : Mirrors v f (query q') (query q) := by
  intro w
  rw [perform_query, perform_query, World.veiled, hq]
  cases q w.database <;> rfl

/-- A row is written and read, both through the veil. -/
theorem writeRow {ρ : Type} [Entity ρ α] {q' q : Database → Except Fault (ρ × Database)}
    {g : ρ → ρ} {f : α → α}
    (hq : ∀ db, q' (db.veiled v) = (q db).map fun done => (g done.1, done.2.veiled v))
    (hread : ∀ r : ρ, readRow (g r) = (readRow r).map f) :
    Mirrors v f (writeRow q') (writeRow q) := by
  intro w
  rw [perform_writeRow, perform_writeRow, World.veiled, hq]
  rcases q w.database with _ | ⟨r, db⟩
  · rfl
  · simp only [Except.map, hread]
    cases readRow r <;> rfl

end Mirrors

namespace Unaware

variable {a b : Procedure α} {g : α → Procedure γ}

/-- What is unaware of the veil answers the same through it, and leaves the same behind it.
-/
theorem perform_veiled (ha : Unaware v a) (w : World) :
    a.perform (w.veiled v) = ((a.perform w).1, (a.perform w).2.veiled v) := by
  rw [ha w, Except.map_id]
  rfl

theorem pure (x : α) : Unaware v (Pure.pure x : Procedure α) := fun _ => rfl

theorem throw (p : Problem) : Unaware v (throw p : Procedure α) := fun _ => rfl

theorem check (e : Except Problem α) : Unaware v (check e) := by
  intro w
  rw [perform_check, perform_check, Except.map_id]
  rfl

theorem now : Unaware v now := fun _ => rfl

/-- Two steps that are unaware of the veil are so together. -/
theorem bind (ha : Unaware v a) (hg : ∀ x, Unaware v (g x)) : Unaware v (a >>= g) :=
  Mirrors.bind ha hg

/-- A part that goes on with what it reads of the database. -/
theorem bind_get {g : World → Procedure γ} (hsame : ∀ w, g (w.veiled v) = g w)
    (hg : ∀ w, Unaware v (g w)) : Unaware v ((get : Procedure World) >>= g) := by
  refine Mirrors.bind (f := World.veiled v) (fun _ => rfl) fun w => ?_
  rw [hsame]
  exact hg w

/-- A choice is unaware of the veil if both of its branches are. -/
theorem ite {c : Prop} [Decidable c] (ha : Unaware v a) (hb : Unaware v b) :
    Unaware v (if c then a else b) := by
  split
  · exact ha
  · exact hb

/-- A query is unaware of the veil if it has the same answer through it. -/
theorem query {q : Database → Except Fault α} (hq : ∀ db, q (db.veiled v) = q db) :
    Unaware v (query q) := by
  refine Mirrors.query fun db => ?_
  rw [hq, Except.map_id]
  rfl

section Questions

variable {ρ ε : Type} [Entity ρ ε] [Unveiled ρ]

/-- Searches in other tables than that of the users are unaware of the veil. -/
theorem findFirst (pick : ρ → Bool) : Unaware v (Procedure.query (findFirst pick)) := by
  refine query fun db => ?_
  rw [Database.findFirst, Database.findFirst, table_unveiled]

theorem count (pick : ρ → Bool) : Unaware v (Procedure.query (count pick)) := by
  refine query fun db => ?_
  rw [Database.count, Database.count, table_unveiled]

theorem all (pick : ρ → Bool) (before : ρ → ρ → Bool) :
    Unaware v (Procedure.query (all pick before)) := by
  refine query fun db => ?_
  rw [Database.all, Database.all, select, select, table_unveiled]

/-- Pages of other tables than that of the users are unaware of the veil. -/
theorem page (pick : ρ → Bool) (before : ρ → ρ → Bool) (p : Page) :
    Unaware v (Procedure.query (page pick before p)) := by
  refine query fun db => ?_
  rw [Database.page, Database.page, Database.count, Database.count, select, select,
    table_unveiled]

/-- The first rows of other tables than that of the users are unaware of the veil. -/
theorem top (pick : ρ → Bool) (before : ρ → ρ → Bool) (limit : Nat) :
    Unaware v (Procedure.query (top pick before limit)) := by
  refine query fun db => ?_
  rw [Database.top, Database.top, select, select, table_unveiled]

end Questions

/-- A transaction is unaware of a veil that its statements overlook. -/
theorem transact {q : Database → Except Problem (α × Database)} (hq : Overlooks v q) :
    Unaware v (transact q) := by
  intro w
  rw [perform_transact, perform_transact, World.veiled, hq]
  cases q w.database <;> rfl

/-- A statement that is carried out alone is unaware of a veil that it overlooks. -/
theorem write {q : Database → Except Fault (α × Database)} (hq : Overlooks v q) :
    Unaware v (write q) := by
  refine transact fun db => ?_
  rw [hq db]
  cases q db <;> rfl

/-- Writing a row is unaware of a veil that the statement overlooks. -/
theorem writeRow {ρ : Type} [Entity ρ α] {q : Database → Except Fault (ρ × Database)}
    (hq : Overlooks v q) : Unaware v (writeRow q : Procedure α) :=
  (write hq).bind fun _ => check _

/-- An attempt is unaware of a veil that its statement overlooks. -/
theorem attempt {q : Database → Except Fault (α × Database)} (hq : Overlooks v q) :
    Unaware v (attempt q) := by
  intro w
  rw [perform_attempt, perform_attempt, World.veiled, hq]
  cases q w.database <;> rfl

theorem forget (key : String) : Unaware v (forget key) := fun _ => rfl

theorem forgetFamilies (patterns : List String) :
    Unaware v (forgetFamilies patterns) := fun _ => rfl

/-- Whether something is kept is the same through the veil, which does not
lie on the cache. -/
theorem readThrough [Encode α] [Json.Decode α] {key : String} {ttl : Cache.Policy → Nat}
    (ha : Unaware v a) : Unaware v (readThrough key ttl a) := by
  have hfetch : Unaware v (fetch key : Procedure (Option α)) := fun _ => rfl
  have hkeep : ∀ x : α, Unaware v (keep key x ttl) := fun _ _ => rfl
  refine .bind hfetch fun found => ?_
  cases found with
  | some x => exact .pure x
  | none => exact .bind ha fun x => .bind (hkeep x) fun _ => .pure x

end Unaware

end Procedure

end Community
