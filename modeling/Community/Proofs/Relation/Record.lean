import Community.Proofs.Relation.Link
import Community.Proofs.Relation.Repeat

/-!
# The row of a relation, toggle by toggle

A relation is between a user, an action with the type of its target, and a target: its
`Subject`. A table has at most one row of a subject, since two would clash. So a toggle of
the subject, when it is carried out, finds nothing and makes the row, active, or finds the
row and turns it over; and it leaves the rows of all other subjects alone:

> `Executed.turned`: the rows of the subject before and after, and the record in the
> outcome.

> `Subject.rows_next`: whatever else happens leaves the rows of the subject as they are.
-/

namespace Community

open Procedure Database Time

namespace Toggle

/-- What a relation is between. -/
structure Subject where
  userId : Int
  kind : Kind
  targetId : Int
  deriving DecidableEq

/-- What a toggle is about. -/
def subject : Toggle → Subject
  | like userId r _ => ⟨userId, .like r.likeType, r.targetId⟩
  | favorite userId r _ => ⟨userId, .favorite r.favoriteType, r.targetId⟩

/-- A relation of either kind. -/
inductive Record
  | like (l : Like)
  | favorite (f : Favorite)

/-- A row of either table of relations. -/
inductive Row
  | like (r : Like.Row)
  | favorite (r : Favorite.Row)

/-- What of a relation is there from its first toggle on. -/
structure Origin where
  id : Int
  createdAt : Timestamp
  subject : Subject

namespace Record

def stored : Record → Row
  | like l => .like l.stored
  | favorite f => .favorite f.stored

def origin : Record → Origin
  | like l => ⟨l.id, l.createdAt, l.userId, .like l.likeType, l.targetId⟩
  | favorite f => ⟨f.id, f.createdAt, f.userId, .favorite f.favoriteType, f.targetId⟩

def isActive : Record → Bool
  | like l => RelationStatus.isActive l.status
  | favorite f => RelationStatus.isActive f.status

end Record

namespace Outcome

/-- The relation that an outcome shows. -/
def record : Outcome → Record
  | like o => .like o.record
  | favorite o => .favorite o.record

/-- Whether an outcome says that the user likes the target, or keeps it. -/
def isOn : Outcome → Bool
  | like o => o.liked
  | favorite o => o.favorited

end Outcome

/-- The rows of a subject. -/
def Subject.rows (s : Subject) (db : Database) : List Row :=
  match s.kind with
  | .like type =>
    ((rowsOf Like.Row db).filter (Like.isOf s.userId type s.targetId)).map .like
  | .favorite type =>
    ((rowsOf Favorite.Row db).filter (Favorite.isOf s.userId type s.targetId)).map .favorite

/-- Rows are in the two tables of relations and nowhere else. -/
theorem Subject.rows_agreeOff {s : Subject} {names : List TableName} {db db' : Database}
    (h : AgreeOff names db db') (hlike : TableName.like ∉ names)
    (hfavorite : TableName.favorite ∉ names) : s.rows db' = s.rows db := by
  rw [rows, rows, rowsOf_agreeOff h hlike, rowsOf_agreeOff h hfavorite]

/-! ## At most one row -/

section OneRow

variable {ρ α : Type} [Entity ρ α] {p : ρ → Bool}

/-- Of rows that clash a table has one at most. -/
theorem filter_length_le_one {rows : List ρ}
    (hclash : ∀ a b, p a = true → p b = true → conflict a b = true)
    (h : distinct rows = true) : (rows.filter p).length ≤ 1 := by
  have hpairs := (distinct_iff.mp h).filter p
  have hpicked : ∀ a ∈ rows.filter p, p a = true := fun a ha => (List.mem_filter.mp ha).2
  match hrows : rows.filter p with
  | [] | [_] => simp
  | a :: b :: rest =>
    rw [hrows] at hpairs hpicked
    have hfree := (List.pairwise_cons.mp hpairs).1 b List.mem_cons_self
    rw [hclash a b (hpicked a (by simp)) (hpicked b (by simp))] at hfree
    cases hfree

omit [Entity ρ α] in
/-- A row that is the only one of its kind has none beside it. -/
theorem filter_of_one {before after : List ρ} {x : ρ} (hx : p x = true)
    (hone : ((before ++ x :: after).filter p).length ≤ 1) :
    before.filter p = [] ∧ after.filter p = [] := by
  rw [List.filter_append, List.filter_cons, if_pos hx, List.length_append,
    List.length_cons] at hone
  exact ⟨List.length_eq_zero_iff.mp (by omega), List.length_eq_zero_iff.mp (by omega)⟩

end OneRow

/-- The rows of a subject before and after one of its toggles, and the
record that comes out. -/
inductive Turned : List Row → List Row → Record → Prop
  | made (r : Record) (hactive : r.isActive = true) : Turned [] [r.stored] r
  | turned (old r : Record) (hactive : r.isActive = !old.isActive)
    (horigin : r.origin = old.origin) :
    Turned [old.stored] [r.stored] r

/-- One row more at the end of a table, or one row turned over, where the table has one
such row at most. -/
theorem Turned.ofRows {ρ : Type} {p : ρ → Bool} {wrap : ρ → Row} {rows rows' : List ρ}
    {x : ρ} {r : Record} (hx : p x = true) (hr : wrap x = r.stored)
    (hone : (rows'.filter p).length ≤ 1)
    (h : (rows' = rows ++ [x] ∧ r.isActive = true) ∨
      ∃ before y after, ∃ old : Record, rows = before ++ y :: after ∧
      rows' = before ++ x :: after ∧ p y = true ∧ wrap y = old.stored ∧
      r.isActive = (!old.isActive) ∧ r.origin = old.origin) :
    Turned ((rows.filter p).map wrap) ((rows'.filter p).map wrap) r := by
  rcases h with ⟨rfl, hactive⟩ |
    ⟨before, y, after, old, rfl, rfl, hy, hold, hactive, horigin⟩
  · obtain ⟨hnone, -⟩ := filter_of_one hx hone
    rw [List.filter_append, hnone, List.filter_cons, hx, List.filter_nil]
    show Turned [] [wrap x] r
    rw [hr]
    exact .made r hactive
  · obtain ⟨hbefore, hafter⟩ := filter_of_one hx hone
    have honly : ∀ z, p z = true → (before ++ z :: after).filter p = [z] := by
      intro z hz
      rw [List.filter_append, hbefore, List.filter_cons, if_pos hz, hafter, List.nil_append]
    rw [honly x hx, honly y hy, List.map_singleton, List.map_singleton, hr, hold]
    exact .turned old r hactive horigin

/-- A flip that is of no interest leaves nothing of it. -/
theorem filter_flip_eq {ρ : Type} {p : ρ → Bool} {rows rows' : List ρ} {x : ρ}
    (hx : p x = false)
    (h : rows' = rows ++ [x] ∨ ∃ before y after, rows = before ++ y :: after ∧
      rows' = before ++ x :: after ∧ p y = p x) : rows'.filter p = rows.filter p := by
  rcases h with rfl | ⟨before, y, after, rfl, rfl, hy⟩
  · rw [List.filter_append, List.filter_cons, hx, List.filter_nil]
    exact List.append_nil _
  · rw [List.filter_append, List.filter_append, List.filter_cons, List.filter_cons, hy, hx]
    rfl

end Toggle

/-! ## Toggles -/

namespace Relation.Toggling

variable {ρ α : Type} [Entity ρ α] [LawfulEntity ρ] (t : Toggling ρ α) {a : α}
  {db db' : Database}

/-- A toggle turns the row of its subject: it is the only one of that subject,
since two would clash. -/
theorem turned_run {wrap : ρ → Toggle.Row} {record : α → Toggle.Record}
    (hclash : ∀ x y, t.pick x = true → t.pick y = true → conflict x y = true)
    (hwrap : ∀ b, wrap (t.write b) = (record b).stored)
    (hmake : ∀ id, (record (t.make id)).isActive = true)
    (hturn : ∀ b, (record (t.turn b)).isActive = (!(record b).isActive) ∧
      (record (t.turn b)).origin = (record b).origin)
    (h : t.run db = .ok (a, db')) (hdb : distinct (rowsOf ρ db) = true) :
    Toggle.Turned (((rowsOf ρ db).filter t.pick).map wrap)
      (((rowsOf ρ db').filter t.pick).map wrap)
      (record a) := by
  obtain ⟨hturns, hdistinct⟩ := t.rows_run h
  have hone := Toggle.filter_length_le_one hclash (hdistinct hdb)
  refine Toggle.Turned.ofRows (t.pick_run h) (hwrap a) hone (hturns.imp ?_ ?_)
  · rintro ⟨hrows, id, rfl⟩
    exact ⟨hrows, hmake id⟩
  · rintro ⟨before, old, after, hrows, hrows', rfl⟩
    have hold : t.pick (t.write old) = true := (t.pick_turn old).symm.trans (t.pick_run h)
    exact ⟨before, t.write old, after, record old, hrows, hrows', hold, hwrap old, hturn old⟩

/-- A toggle leaves the rows alone that its relation is not among. -/
theorem filter_run_eq {p : ρ → Bool} (hp : p (t.write a) = false)
    (hturn : ∀ b, p (t.write b) = p (t.write (t.turn b))) (h : t.run db = .ok (a, db')) :
    (rowsOf ρ db').filter p = (rowsOf ρ db).filter p := by
  refine Toggle.filter_flip_eq hp ((t.rows_run h).1.imp And.left ?_)
  rintro ⟨before, old, after, hrows, hrows', rfl⟩
  exact ⟨before, t.write old, after, hrows, hrows', hturn old⟩

end Relation.Toggling

open Toggle

namespace Like

variable {userId : Int} {r : LikeToggle} {now : Timestamp} {l : Like} {db db' : Database}

/-- Two likes of one user on one target clash. -/
theorem conflict_of_isOf {type : LikeType} {targetId : Int} {a b : Row}
    (ha : isOf userId type targetId a = true) (hb : isOf userId type targetId b = true) :
    conflict a b = true := by
  obtain ⟨huser, htype, htarget⟩ := isOf_iff.mp ha
  obtain ⟨huser', htype', htarget'⟩ := isOf_iff.mp hb
  exact conflict_of_eq (huser.trans huser'.symm) (htype.trans htype'.symm)
    (htarget.trans htarget'.symm)

/-- The row of the subject is made or turned over, and no other one. -/
theorem turned (h : toggle userId r now db = .ok (l, db')) (hdb : db.IsTogether) :
    Turned (Subject.rows ⟨userId, .like r.likeType, r.targetId⟩ db)
        (Subject.rows ⟨userId, .like r.likeType, r.targetId⟩ db') (.like l) ∧
      ∀ s : Subject, s ≠ ⟨userId, .like r.likeType, r.targetId⟩ →
      s.rows db' = s.rows db := by
  let t := toggling userId r now
  refine ⟨t.turned_run (fun _ _ => conflict_of_isOf) (fun _ => rfl) (fun _ => rfl)
    (fun b => ⟨RelationStatus.isActive_flipped b.status, rfl⟩) h hdb.1, ?_⟩
  rintro ⟨user, kind, target⟩ hother
  cases kind with
  | favorite type =>
    have hfavorites : rowsOf Favorite.Row db' = rowsOf Favorite.Row db :=
      rowsOf_agreeOff (t.agreeOff_run h) (Counter.not_mem_tables (by decide) (by decide))
    rw [Subject.rows, Subject.rows, hfavorites]
  | like type =>
    have hl : isOf user type target l.stored = false := by
      rw [Bool.eq_false_iff]
      intro htrue
      obtain ⟨huser, htype, htarget⟩ := isOf_stored.mp (t.pick_run h)
      obtain ⟨rfl, rfl, rfl⟩ := isOf_stored.mp htrue
      exact hother (by rw [huser, htype, htarget])
    exact congrArg (List.map Toggle.Row.like) (t.filter_run_eq hl (fun _ => rfl) h)

end Like

namespace Favorite

variable {userId : Int} {r : FavoriteToggle} {now : Timestamp} {f : Favorite}
  {db db' : Database}

/-- Two favourites of one user and one target clash. -/
theorem conflict_of_isOf {type : FavoriteType} {targetId : Int} {a b : Row}
    (ha : isOf userId type targetId a = true) (hb : isOf userId type targetId b = true) :
    conflict a b = true := by
  obtain ⟨huser, htype, htarget⟩ := isOf_iff.mp ha
  obtain ⟨huser', htype', htarget'⟩ := isOf_iff.mp hb
  exact conflict_of_eq (huser.trans huser'.symm) (htype.trans htype'.symm)
    (htarget.trans htarget'.symm)

/-- The row of the subject is made or turned over, and no other one. -/
theorem turned (h : toggle userId r now db = .ok (f, db')) (hdb : db.IsTogether) :
    Turned (Subject.rows ⟨userId, .favorite r.favoriteType, r.targetId⟩ db)
        (Subject.rows ⟨userId, .favorite r.favoriteType, r.targetId⟩ db') (.favorite f) ∧
      ∀ s : Subject, s ≠ ⟨userId, .favorite r.favoriteType, r.targetId⟩ →
      s.rows db' = s.rows db := by
  let t := toggling userId r now
  refine ⟨t.turned_run (fun _ _ => conflict_of_isOf) (fun _ => rfl) (fun _ => rfl)
    (fun b => ⟨RelationStatus.isActive_flipped b.status, rfl⟩) h hdb.2, ?_⟩
  rintro ⟨user, kind, target⟩ hother
  cases kind with
  | like type =>
    have hlikes : rowsOf Like.Row db' = rowsOf Like.Row db :=
      rowsOf_agreeOff (t.agreeOff_run h) (Counter.not_mem_tables (by decide) (by decide))
    rw [Subject.rows, Subject.rows, hlikes]
  | favorite type =>
    have hf : isOf user type target f.stored = false := by
      rw [Bool.eq_false_iff]
      intro htrue
      obtain ⟨huser, htype, htarget⟩ := isOf_stored.mp (t.pick_run h)
      obtain ⟨rfl, rfl, rfl⟩ := isOf_stored.mp htrue
      exact hother (by rw [huser, htype, htarget])
    exact congrArg (List.map Toggle.Row.favorite) (t.filter_run_eq hf (fun _ => rfl) h)

end Favorite

namespace Toggle

variable {t : Toggle} {w : World} {o : Outcome}

/-- What a toggle that is carried out does to the rows of relations, and what
its outcome says. -/
theorem Executed.turned (h : t.Executed w o) (hdb : w.database.IsTogether) :
    Turned (t.subject.rows w.database)
      (t.subject.rows (t.operation.next w).database) o.record ∧
      o.isOn = o.record.isActive ∧ o.record.origin.subject = t.subject ∧
      ∀ s : Subject, s ≠ t.subject → s.rows (t.operation.next w).database =
        s.rows w.database := by
  have hcarried := request_again h.issues h.recalled
  have hok : (t.carryOut.perform w).1 = .ok o := hcarried.result ▸ h.result
  rw [next_operation, hcarried.database]
  cases t with
  | like userId r requestId =>
    obtain ⟨l, db, hchange, rfl, hdatabase⟩ := Relation.carryOut_eq_ok hok
    obtain ⟨hturned, hother⟩ := Like.turned hchange hdb
    obtain ⟨huser, htype, htarget⟩ :=
      Like.isOf_stored.mp ((Like.toggling userId r w.now).pick_run hchange)
    have hsubject : (Record.like l).origin.subject = (like userId r requestId).subject := by
      show Subject.mk _ _ _ = Subject.mk _ _ _
      rw [huser, htype, htarget]
    exact ⟨hdatabase ▸ hturned, rfl, hsubject, hdatabase ▸ hother⟩
  | favorite userId r requestId =>
    obtain ⟨f, db, hchange, rfl, hdatabase⟩ := Relation.carryOut_eq_ok hok
    obtain ⟨hturned, hother⟩ := Favorite.turned hchange hdb
    obtain ⟨huser, htype, htarget⟩ :=
      Favorite.isOf_stored.mp ((Favorite.toggling userId r w.now).pick_run hchange)
    have hsubject : (Record.favorite f).origin.subject =
        (favorite userId r requestId).subject := by
      show Subject.mk _ _ _ = Subject.mk _ _ _
      rw [huser, htype, htarget]
    exact ⟨hdatabase ▸ hturned, rfl, hsubject, hdatabase ▸ hother⟩

end Toggle

end Community
