import Community.Proofs.Rows
import Community.Proofs.User.Change

/-!
# Users seen through a veil

A veil changes what is stored of users, but neither who they are nor whether they can
be read. Two databases that differ in certain columns only are the same through the
veil that covers these columns, so what depends on the veiled database alone does not
depend on the columns.
-/

namespace Community

open Database

/-- A change of what is stored of users that keeps who they are, and whether
they can be read. -/
structure User.Veil where
  row : Row → Row
  /-- What becomes of a user whose row is changed. -/
  user : User → User
  id_row : ∀ u, (row u).id = u.id
  read?_row : ∀ u, (row u).read? = u.read?.map user

namespace Database

/-- A table with all rows changed. -/
def Table.map {ρ : Type} (f : ρ → ρ) (t : Table ρ) : Table ρ :=
  { t with rows := t.rows.map f }

@[inherit_doc Table.map]
def Slot.map {ρ : Type} (f : ρ → ρ) (s : Slot ρ) : Slot ρ :=
  ⟨s.table?.map (Table.map f), s.hidden?.map (Table.map f)⟩

/-- The database through a veil. -/
def veiled (v : User.Veil) (db : Database) : Database :=
  { db with users := db.users.map v.row }

variable {v : User.Veil} {db : Database}

/-- A veil changes the users alone. -/
theorem agreeOff_veiled (v : User.Veil) (db : Database) :
    AgreeOff [.user] db (db.veiled v) :=
  ⟨fun n h => by cases n <;> first | rfl | exact absurd List.mem_cons_self h, rfl⟩

/-- Through the veil the table is read row by row. -/
theorem table_veiled :
    (db.veiled v).table User.Row = (db.table User.Row).map (Table.map v.row) := by
  have hslot : (Entity.slot (db.veiled v) : Slot User.Row).table?
      = (Entity.slot db : Slot User.Row).table?.map (Table.map v.row) := rfl
  rw [table, table, hslot]
  cases (Entity.slot db : Slot User.Row).table? <;> rfl

theorem rowsOf_veiled : rowsOf User.Row (db.veiled v) = (rowsOf User.Row db).map v.row := by
  have hslot : (Entity.slot (db.veiled v) : Slot User.Row).table?
      = (Entity.slot db : Slot User.Row).table?.map (Table.map v.row) := rfl
  rw [rowsOf, rowsOf, hslot]
  cases (Entity.slot db : Slot User.Row).table? <;> rfl

/-- A veiled row is read as the veiled user. -/
theorem readRow_veiled (u : User.Row) : readRow (v.row u) = (readRow u).map v.user := by
  have hread : Entity.read? (v.row u) = (Entity.read? u).map v.user := v.read?_row u
  rw [readRow, readRow, hread]
  cases Entity.read? u <;> rfl

/-- The first user that is picked by what the veil leaves open. -/
theorem findFirst_veiled {pick : User.Row → Bool} (hpick : ∀ u, pick (v.row u) = pick u) :
    findFirst pick (db.veiled v) = (findFirst pick db).map (Option.map v.user) := by
  rw [findFirst, findFirst, table_veiled]
  cases db.table User.Row with
  | error f => rfl
  | ok t =>
    have hfind : (t.map v.row).rows.find? pick = (t.rows.find? pick).map v.row := by
      rw [Table.map, List.find?_map]
      exact congrArg (fun picked => (t.rows.find? picked).map v.row) (funext hpick)
    simp only [Except.map, bind, Except.bind, hfind]
    cases t.rows.find? pick with
    | none => rfl
    | some u =>
      simp only [Option.map_some, readRow_veiled]
      cases readRow u <;> rfl

/-- So are many. -/
theorem mapM_readRow_veiled (us : List User.Row) :
    (us.map v.row).mapM readRow = (us.mapM readRow).map (List.map v.user) := by
  induction us with
  | nil => rfl
  | cons u us ih =>
    rw [List.map_cons, List.mapM_cons, List.mapM_cons, ih, readRow_veiled]
    cases readRow u with
    | error f => rfl
    | ok a => cases us.mapM readRow <;> rfl

/-- A page of the users that are picked and ordered by what the veil leaves open. -/
theorem page_veiled {pick : User.Row → Bool} {before : User.Row → User.Row → Bool}
    (hpick : ∀ u, pick (v.row u) = pick u)
    (hbefore : ∀ a b, before (v.row a) (v.row b) = before a b) (p : Page) :
    page pick before p (db.veiled v)
      = (page pick before p db).map fun found => (found.1.map v.user, found.2) := by
  rw [page, page, count, count, select, select, table_veiled]
  cases db.table User.Row with
  | error f => rfl
  | ok t =>
    have hfilter : (t.map v.row).rows.filter pick = (t.rows.filter pick).map v.row := by
      rw [Table.map, List.filter_map]
      exact congrArg (fun picked => (t.rows.filter picked).map v.row) (funext hpick)
    have hsort : ((t.rows.filter pick).map v.row).mergeSort before
        = ((t.rows.filter pick).mergeSort before).map v.row :=
      (List.map_mergeSort fun a _ b _ => (hbefore a b).symm).symm
    have hrows : ∀ rows : List User.Row, p.rows (rows.map v.row) =
        (p.rows rows).map v.row := by
      intro rows
      rw [Page.rows, Page.rows, List.map_take, List.map_drop]
    simp only [Except.map, bind, Except.bind, pure, Except.pure, hfilter, hsort, hrows,
      List.length_map, mapM_readRow_veiled]
    cases (p.rows ((t.rows.filter pick).mergeSort before)).mapM readRow <;> rfl

/-! ## Writing -/

/-- A veil that leaves the clashes leaves the table distinct, or not. -/
theorem distinct_veiled
    (hclash : ∀ a b : User.Row, Entity.clashes (v.row a) (v.row b) = Entity.clashes a b)
    (us : List User.Row) : distinct (us.map v.row) = distinct us := by
  have hconflict : ∀ a b : User.Row, conflict (v.row a) (v.row b) = conflict a b := by
    intro a b
    have hid : ∀ u : User.Row, Entity.id (v.row u) = Entity.id u := v.id_row
    rw [conflict, conflict, hid, hid, hclash]
  induction us with
  | nil => rfl
  | cons u us ih =>
    rw [List.map_cons, distinct, distinct, ih, List.all_map]
    exact congrArg (us.all · && distinct us) (funext fun s => congrArg (! ·) (hconflict u s))

/-- A row is put in the place of another one alike, if what has to be unique is left open. -/
theorem replace_veiled
    (hclash : ∀ a b : User.Row, Entity.clashes (v.row a) (v.row b) = Entity.clashes a b)
    (u : User.Row) :
    replace (v.row u) (db.veiled v) = (replace u db).map fun done =>
      (v.row done.1, done.2.veiled v) := by
  have hid : ∀ u : User.Row, Entity.id (v.row u) = Entity.id u := v.id_row
  rw [replace, replace, update, update, table_veiled]
  cases db.table User.Row with
  | error f => rfl
  | ok t =>
    have hpicked :
        ((t.map v.row).rows.filter fun s => Entity.id s == Entity.id (v.row u)).map
          (fun _ => v.row u)
        = ((t.rows.filter fun s => Entity.id s == Entity.id u).map fun _ =>
          u).map v.row := by
      rw [Table.map, List.filter_map, List.map_map, List.map_map]
      simp only [Function.comp_def, hid]
    have hrows : (t.map v.row).rows.map
        (fun s => if Entity.id s == Entity.id (v.row u) then v.row u else s)
        = (t.rows.map fun s => if Entity.id s == Entity.id u then u else s).map v.row := by
      rw [Table.map, List.map_map, List.map_map]
      refine List.map_congr_left fun s _ => ?_
      simp only [Function.comp_apply, hid]
      split <;> rfl
    -- users refer to nobody
    have howned : ∀ (db : Database) (us : List User.Row), us.all db.isOwned = true :=
      fun db us => List.all_eq_true.mpr fun _ _ => rfl
    simp only [Except.map, bind, Except.bind, hpicked, hrows, distinct_veiled hclash, howned]
    cases distinct (t.rows.map fun s => if Entity.id s == Entity.id u then u else s) with
    | false => rfl
    | true =>
      cases (t.rows.filter fun s => Entity.id s == Entity.id u).map fun _ => u <;> rfl

end Database

/-- A user is found through the veil, and shown through it. -/
theorem User.find_veiled (v : Veil) (id : Int) (db : Database) :
    find id (db.veiled v) = (find id db).map (Option.map v.user) :=
  findFirst_veiled fun u => congrArg (· == id) (v.id_row u)

/-! ## Contact data -/

namespace User

/-- A user without contact data and password hash. -/
def Columns.bare {col : Type → Type} (u : Columns col) : Columns col :=
  { u with email := none, phone := none, passwordHash := none }

theorem Columns.read?_bare (r : Row) : r.bare.read? = r.read?.map Columns.bare := by
  obtain ⟨_, _, _, _, _, _, _, _, gender, _, status, role, _, _, _, _⟩ := r
  cases gender <;> cases status <;> cases role <;> rfl

/-- A user, without contact data and password hash if the identifier is this one. -/
def Columns.bareAt {col : Type → Type} (id : Int) (u : Columns col) : Columns col :=
  if u.id = id then u.bare else u

/-- The veil over the contact data and the password hash of one user. -/
def Veil.contact (id : Int) : Veil where
  row := Columns.bareAt id
  user := Columns.bareAt id
  id_row u := by
    unfold Columns.bareAt
    split <;> rfl
  read?_row u := by
    by_cases hid : u.id = id
    · rw [Columns.bareAt, if_pos hid, Columns.read?_bare]
      refine Option.map_congr fun a ha => ?_
      rw [Columns.bareAt, if_pos ((Columns.id_of_read? ha).trans hid)]
    · rw [Columns.bareAt, if_neg hid]
      refine Option.map_id'.symm.trans (Option.map_congr fun a ha => ?_)
      rw [Columns.bareAt, if_neg fun h => hid ((Columns.id_of_read? ha).symm.trans h)]

/-- Who is not the user sees no contact data, and nobody sees the password hash, so that the
veil makes no difference to what is shown. -/
theorem shownTo_bareAt {id other : Int} {viewer : Option Int} {u : User}
    (hviewer : viewer ≠ some id) (hu : u.id = other) :
    shownTo viewer other (.owned (Columns.bareAt id u)) =
      shownTo viewer other (.owned u) := by
  by_cases hid : u.id = id
  · have hother : viewer ≠ some other := by
      rw [← hu, hid]
      exact hviewer
    rw [Columns.bareAt, if_pos hid, shownTo, shownTo, if_neg hother, if_neg hother]
    rfl
  · rw [Columns.bareAt, if_neg hid]

end User

end Community
