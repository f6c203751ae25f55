import Community.Proofs.Relation.Repeat
import Community.Proofs.User.Change

/-!
# What a write that succeeds touches

Seen from the tables a write is one of two things. A row is *added*: it comes last, under an
identifier that was never given. Or a row is *exchanged*: another one stands in its place,
and the rows before and after it stay. A toggle does one of the two to the table of its
relations and then exchanges the row of its target, which differs in one number; a change of
a category or of a profile exchanges one row.

> `Like.touches_toggle`, `Favorite.touches_toggle`: the row of the relation, the one number,
> and the eight other tables.

> `Category.touches_change`, `User.touches_change`: the one row, and the nine other tables.

Which columns of a row change is read off the row that comes in: it is the old one, with the
new values named.
-/

namespace Community

open Database Procedure Time

section Rows

variable {ρ α : Type} [Entity ρ α]

/-- A row gives way to another, which stands in its place. No other row has its identifier,
and nothing else of the table changes. -/
inductive Database.Slot.Exchanged (old new : ρ) : Slot ρ → Slot ρ → Prop
  | intro {before after : List ρ} {lastId : Int} {hidden? : Option (Table ρ)}
    (hother : ∀ r ∈ before ++ after, Entity.id r ≠ Entity.id old) :
    Exchanged old new ⟨some ⟨before ++ old :: after, lastId⟩, hidden?⟩
      ⟨some ⟨before ++ new :: after, lastId⟩, hidden?⟩

/-- A row comes last in a table, under a new identifier, and is in conflict
with no other row. -/
inductive Database.Slot.Added (new : ρ) : Slot ρ → Slot ρ → Prop
  | intro {rows : List ρ} {lastId : Int} {hidden? : Option (Table ρ)}
    (hlast : lastId < Entity.id new) (hid : ∀ r ∈ rows, Entity.id r < Entity.id new)
    (hfree : ∀ r ∈ rows, conflict new r = false) :
    Added new ⟨some ⟨rows, lastId⟩, hidden?⟩ ⟨some ⟨rows ++ [new], Entity.id new⟩, hidden?⟩

namespace Database

variable {db db' : Database}

theorem slot_eq_of_table {t : Table ρ} (ht : db.table ρ = .ok t) :
    (Entity.slot db : Slot ρ) = ⟨some t, (Entity.slot db : Slot ρ).hidden?⟩ := by
  rw [← table_eq_ok.mp ht]

variable [LawfulEntity ρ]

/-- Writing a row back in its place exchanges it for the one before. -/
theorem exchanged_withTable {before after : List ρ} {old new : ρ} {lastId : Int}
    (ht : db.table ρ = .ok ⟨before ++ old :: after, lastId⟩)
    (hother : ∀ r ∈ before ++ after, Entity.id r ≠ Entity.id old) :
    (Entity.slot db : Slot ρ).Exchanged old new
      (Entity.slot (db.withTable ⟨before ++ new :: after, lastId⟩)) := by
  rw [withTable, LawfulEntity.slot_put, slot_eq_of_table ht]
  exact .intro hother

/-- An insertion adds one row at the end. -/
theorem added_of_insert {make : Int → ρ} {r : ρ} (hmake : ∀ id, Entity.id (make id) = id)
    (h : insert make db = .ok (r, db')) :
    (Entity.slot db : Slot ρ).Added r (Entity.slot db') := by
  obtain ⟨⟨rows, lastId⟩, id, ht, hid, rfl, hfree, -, rfl⟩ := insert_eq_ok h
  obtain ⟨hlast, hrows, -⟩ := nextId?_gt hid
  rw [← hmake id] at hlast hrows
  rw [withTable, LawfulEntity.slot_put, slot_eq_of_table ht,
    Int.max_eq_right (Int.le_of_lt hlast)]
  exact .intro hlast hrows hfree

/-- The row that is there under the identifier gives way to the one that is stored. -/
theorem exchanged_of_replace {x y r : ρ} (hr : r ∈ rowsOf ρ db)
    (hid : Entity.id r = Entity.id x) (h : replace x db = .ok (y, db')) :
    (Entity.slot db : Slot ρ).Exchanged r x (Entity.slot db') := by
  obtain ⟨⟨rows, lastId⟩, before, old, after, ht, hrows, hold, honly, -, hdistinct, rfl⟩ :=
    replace_eq_ok h
  rw [rowsOf_eq ht] at hr
  cases hrows
  obtain rfl := honly r hr hid
  refine exchanged_withTable ht fun s hs => ?_
  rw [hid]
  exact (ne_id_of_not_conflict ((distinct_middle.mp hdistinct).1 s hs)).symm

/-- The row that an update finds under an identifier gives way to the changed one. -/
theorem exchanged_of_update {id : Int} {change : ρ → ρ} {changed : List ρ}
    (hkeep : ∀ r, Entity.id (change r) = Entity.id r) (hchanged : changed ≠ [])
    (h : update (fun r => Entity.id r == id) change db = .ok (changed, db')) :
    ∃ r, Entity.id r = id ∧ (Entity.slot db : Slot ρ).Exchanged r (change r)
      (Entity.slot db') := by
  obtain ⟨⟨rows, lastId⟩, before, r, after, ht, hrows, hid, hother, -, -, rfl⟩ :=
    update_one_eq_ok (fun r hr => (hkeep r).trans hr) hchanged h
  cases hrows
  exact ⟨r, hid, exchanged_withTable ht fun s hs => hid.symm ▸ hother s hs⟩

/-- An upsert adds the row that it makes, or exchanges the one that it finds. -/
theorem touches_upsert {pick : ρ → Bool} {make : Int → ρ} {change : α → ρ} {a : α}
    (hmake : ∀ id, Entity.id (make id) = id)
    (hkeep : ∀ (r : ρ) (b : α), Entity.read? r = some b → Entity.id (change b) = Entity.id r)
    (h : upsert pick make change db = .ok (a, db')) :
    ∃ x, Entity.read? x = some a ∧
      ((∃ id, x = make id ∧ (Entity.slot db : Slot ρ).Added x (Entity.slot db')) ∨
        ∃ r b, pick r = true ∧ Entity.read? r = some b ∧ x = change b ∧
          (Entity.slot db : Slot ρ).Exchanged r x (Entity.slot db')) := by
  obtain ⟨x, t, hx, ht, ⟨-, hinsert⟩ | ⟨r, b, hr, hb, hreplace⟩⟩ := upsert_cases h
  · obtain ⟨-, id, -, -, rfl, -⟩ := insert_eq_ok hinsert
    exact ⟨_, hx, Or.inl ⟨id, rfl, added_of_insert hmake hinsert⟩⟩
  · obtain ⟨-, -, -, -, -, -, -, -, rfl, -⟩ := replace_eq_ok hreplace
    have hmem : r ∈ rowsOf ρ db := rowsOf_eq ht ▸ List.mem_of_find?_eq_some hr
    exact ⟨_, hx, Or.inr ⟨r, b, List.find?_some hr, hb, rfl,
      exchanged_of_replace hmem (hkeep r b hb).symm hreplace⟩⟩

/-- A row that is found by its identifier gives way to the one that is stored under it. -/
theorem exchanged_of_findById {id : Int} {a : α} {x y : ρ}
    (hfind : findById ρ id db = .ok (some a))
    (hkeep : ∀ r : ρ, Entity.read? r = some a → Entity.id x = Entity.id r)
    (h : replace x db = .ok (y, db')) :
    ∃ r, Entity.read? r = some a ∧ Entity.id r = id ∧
      (Entity.slot db : Slot ρ).Exchanged r x (Entity.slot db') := by
  obtain ⟨t, ht, ⟨-, hnone⟩ | ⟨r, b, hr, hb, hsome⟩⟩ := findFirst_eq_ok hfind
  · cases hnone
  · cases hsome
    have hmem : r ∈ rowsOf ρ db := rowsOf_eq ht ▸ List.mem_of_find?_eq_some hr
    have hid : (Entity.id r == id) = true :=
      List.find?_some (p := fun s : ρ => Entity.id s == id) hr
    exact ⟨r, hb, beq_iff_eq.mp hid, exchanged_of_replace hmem (hkeep r hb).symm h⟩

end Database

end Rows

/-! ## Counters -/

/-- A number of active relations, after one more has come to the state. -/
def RelationStatus.counted : RelationStatus → Int → Int
  | active, n => n + 1
  | cancelled, n => max (n - 1) 0

namespace Counter

variable {counter : Counter} {id : Int} {status : RelationStatus} {db db₁ db' : Database}

/-- The row of the target gives way to one that differs in the number of the counter. -/
def Moved (counter : Counter) (id : Int) (status : RelationStatus) (db db' : Database) :
    Prop :=
  match counter with
  | contentLikes => ∃ c : Content.Row, c.id = id ∧
    db.contents.Exchanged c { c with likeCount := status.counted c.likeCount } db'.contents
  | commentLikes => ∃ c : Comment, c.id = id ∧
    db.comments.Exchanged c { c with likeCount := status.counted c.likeCount } db'.comments
  | dynamicLikes => ∃ d : Dynamic, d.id = id ∧
    db.dynamics.Exchanged d { d with likeCount := status.counted d.likeCount } db'.dynamics
  | contentFavorites => ∃ c : Content.Row, c.id = id ∧
    db.contents.Exchanged c
      { c with favoriteCount := status.counted c.favoriteCount } db'.contents
  | goodsFavorites => ∃ g : Goods.Row, g.id = id ∧
    db.goods.Exchanged g { g with favoriteCount := status.counted g.favoriteCount } db'.goods

/-- The delta of a state does to a counter what the state does. -/
theorem apply_ofState (status : RelationStatus) :
    (Delta.ofState status.isActive).apply = status.counted := by
  cases status <;> rfl

/-- An adjustment that found the target moved its counter by the state. -/
theorem moved_of_adjust {n : Nat}
    (h : adjust counter id (.ofState status.isActive) db = .ok (n + 1, db')) :
    Moved counter id status db db' := by
  -- the statement has found at least one row
  have hne : ∀ {ρ : Type} {changed : List ρ}, changed.length = n + 1 → changed ≠ [] := by
    rintro ρ changed hlength rfl
    cases hlength
  cases counter with
  | contentLikes | commentLikes | dynamicLikes | contentFavorites | goodsFavorites =>
    obtain ⟨⟨changed, db₁⟩, hupdate, h⟩ := bind_eq_ok h
    obtain ⟨hlength, rfl⟩ := Prod.mk.inj (Except.ok.inj h)
    rw [apply_ofState] at hupdate
    exact exchanged_of_update (fun _ => rfl) (hne hlength) hupdate

/-- So did one that was asked to count. -/
theorem moved_of_count (h : count counter id (.ofState status.isActive) db = .ok ((), db')) :
    Moved counter id status db db' := by
  unfold count at h
  split at h
  · cases h
  · cases h
  · next n db₁ hadjust =>
    cases h
    exact moved_of_adjust hadjust

/-- A step before that leaves the targets alone. -/
theorem Moved.after_agreeOff {names : List TableName}
    (hmoved : Moved counter id status db₁ db') (h : AgreeOff names db db₁)
    (hnames : ∀ name ∈ targetTables, name ∉ names) : Moved counter id status db db' := by
  have hslot := h.slotAt counter.table (hnames _ counter.table_mem)
  cases counter with
  | contentLikes | contentFavorites =>
    have hcontents : db₁.contents = db.contents := hslot
    rwa [Moved, ← hcontents]
  | commentLikes =>
    have hcomments : db₁.comments = db.comments := hslot
    rwa [Moved, ← hcomments]
  | dynamicLikes =>
    have hdynamics : db₁.dynamics = db.dynamics := hslot
    rwa [Moved, ← hdynamics]
  | goodsFavorites =>
    have hgoods : db₁.goods = db.goods := hslot
    rwa [Moved, ← hgoods]

end Counter

/-! ## Toggles -/

/-- A toggle adds the row that it makes, or exchanges the one that it turns over, and the
number of its target moves. -/
theorem Relation.Toggling.touches_run {ρ α : Type} [Entity ρ α] [LawfulEntity ρ]
    (t : Toggling ρ α) {a : α} {db db' : Database} (h : t.run db = .ok (a, db')) :
    ((∃ id, a = t.make id ∧ (Entity.slot db : Slot ρ).Added (t.write a) (Entity.slot db')) ∨
      ∃ old, t.pick (t.write old) = true ∧ a = t.turn old ∧
        (Entity.slot db : Slot ρ).Exchanged (t.write old) (t.write a) (Entity.slot db')) ∧
    t.counter.Moved t.targetId (t.status a) db db' := by
  obtain ⟨db₁, hflip, hcount⟩ := t.run_eq_ok h
  obtain ⟨n, hadjusted⟩ := Counter.count_eq_ok hcount
  rw [LawfulEntity.slot_eq hadjusted.agreeOff t.name_not_mem]
  obtain ⟨x, hx, hwritten⟩ := touches_upsert t.id_make (fun _ _ => t.id_of_read?) hflip
  constructor
  · rcases hwritten with ⟨id, rfl, hadded⟩ | ⟨row, old, hpick, hold, rfl, hexchanged⟩
    · obtain rfl := Option.some.inj ((t.read?_write _).symm.trans hx)
      exact Or.inl ⟨id, rfl, hadded⟩
    · obtain rfl := Option.some.inj ((t.read?_write _).symm.trans hx)
      obtain rfl := t.write_of_read? hold
      exact Or.inr ⟨old, hpick, rfl, hexchanged⟩
  · refine (Counter.moved_of_count hcount).after_agreeOff (t.agreeOff_flip hflip) ?_
    rintro name hname hmem
    exact t.not_target (List.mem_singleton.mp hmem ▸ hname)

namespace Like

variable {userId : Int} {r : LikeToggle} {now : Timestamp} {l : Like} {db db' : Database}

/-- How a toggle writes the like that comes to the state. The like is made, or that of
the user and the target takes the state and the time and, where they are given, the
nickname and the avatar. -/
inductive Written (userId : Int) (r : LikeToggle) (now : Timestamp) :
    RelationStatus → Slot Row → Slot Row → Prop
  | made {id : Int} {s s' : Slot Row}
    (h : s.Added
      { id := id, likeType := .tag r.likeType, targetId := r.targetId, userId := userId,
        targetTitle := r.targetTitle, targetAuthorId := r.targetAuthorId,
        userNickname := r.userNickname, userAvatar := r.userAvatar,
        status := .tag .active, createdAt := now, updatedAt := now } s') :
    Written userId r now .active s s'
  | turned {old : Row} {status : RelationStatus} {s s' : Slot Row}
    (huser : old.userId = userId)
    (htype : old.likeType = .tag r.likeType) (htarget : old.targetId = r.targetId)
    (hstatus : old.status = .tag status.flipped)
    (h : s.Exchanged old
      { old with
        status := .tag status
        updatedAt := now
        userNickname := r.userNickname <|> old.userNickname
        userAvatar := r.userAvatar <|> old.userAvatar } s') :
    Written userId r now status s s'

/-- What a toggle that brings the like to the state touches: the like, and the
number of its target. -/
structure Touches (userId : Int) (r : LikeToggle) (now : Timestamp) (status : RelationStatus)
    (db db' : Database) : Prop where
  written : Written userId r now status db.likes db'.likes
  moved : r.likeType.counter.Moved r.targetId status db db'
  agreeOff : AgreeOff [.like, r.likeType.counter.table] db db'

/-- A toggle writes the like and moves the number of its target. -/
theorem touches_toggle (h : toggle userId r now db = .ok (l, db')) :
    Touches userId r now l.status db db' := by
  obtain ⟨hwritten, hmoved⟩ := (toggling userId r now).touches_run h
  refine ⟨?_, hmoved, (toggling userId r now).agreeOff_run h⟩
  rcases hwritten with ⟨id, rfl, hadded⟩ | ⟨old, hof, rfl, hexchanged⟩
  · exact .made hadded
  · obtain ⟨huser, htype, htarget⟩ := isOf_iff.mp hof
    exact .turned huser htype htarget
      (congrArg Column.tag (RelationStatus.flipped_flipped old.status).symm) hexchanged

end Like

namespace Favorite

variable {userId : Int} {r : FavoriteToggle} {now : Timestamp} {f : Favorite}
  {db db' : Database}

/-- How a toggle writes the favourite that comes to the state. The favourite is made, or
that of the user and the target takes the state and the time and, where they are given, the
title and the cover. -/
inductive Written (userId : Int) (r : FavoriteToggle) (now : Timestamp) :
    RelationStatus → Slot Row → Slot Row → Prop
  | made {id : Int} {s s' : Slot Row}
    (h : s.Added
      { id := id, favoriteType := .tag r.favoriteType, targetId := r.targetId,
        userId := userId, targetTitle := r.targetTitle, targetCover := r.targetCover,
        targetAuthorId := r.targetAuthorId, userNickname := r.userNickname,
        status := .tag .active, createdAt := now, updatedAt := now } s') :
    Written userId r now .active s s'
  | turned {old : Row} {status : RelationStatus} {s s' : Slot Row}
    (huser : old.userId = userId)
    (htype : old.favoriteType = .tag r.favoriteType) (htarget : old.targetId = r.targetId)
    (hstatus : old.status = .tag status.flipped)
    (h : s.Exchanged old
      { old with
        status := .tag status
        updatedAt := now
        targetTitle := r.targetTitle <|> old.targetTitle
        targetCover := r.targetCover <|> old.targetCover } s') :
    Written userId r now status s s'

/-- What a toggle that brings the favourite to the state touches: the favourite, and the
number of its target. -/
structure Touches (userId : Int) (r : FavoriteToggle) (now : Timestamp)
    (status : RelationStatus) (db db' : Database) : Prop where
  written : Written userId r now status db.favorites db'.favorites
  moved : r.favoriteType.counter.Moved r.targetId status db db'
  agreeOff : AgreeOff [.favorite, r.favoriteType.counter.table] db db'

/-- A toggle writes the favourite and moves the number of its target. -/
theorem touches_toggle (h : toggle userId r now db = .ok (f, db')) :
    Touches userId r now f.status db db' := by
  obtain ⟨hwritten, hmoved⟩ := (toggling userId r now).touches_run h
  refine ⟨?_, hmoved, (toggling userId r now).agreeOff_run h⟩
  rcases hwritten with ⟨id, rfl, hadded⟩ | ⟨old, hof, rfl, hexchanged⟩
  · exact .made hadded
  · obtain ⟨huser, htype, htarget⟩ := isOf_iff.mp hof
    exact .turned huser htype htarget
      (congrArg Column.tag (RelationStatus.flipped_flipped old.status).symm) hexchanged

end Favorite

/-! ## Changes of one row -/

/-- What a change of a category touches: its row, in the columns that the request
names, and in the time. -/
structure Category.Touches (id : Int) (r : CategoryChange) (now : Timestamp) (old new : Row)
    (db db' : Database) : Prop where
  id : old.id = id
  columns : new = { old with
    name := (r.name.map Text.trim).getD old.name
    description := r.description <|> old.description
    parentId := r.parentId.getD old.parentId
    iconUrl := r.iconUrl <|> old.iconUrl
    sort := r.sort.getD old.sort
    status := (r.status.map Column.tag).getD old.status
    updatedAt := now }
  exchanged : db.categories.Exchanged old new db'.categories
  agreeOff : AgreeOff [.category] db db'

/-- What a change of a profile touches: the row of the user, in the columns that the request
names, and in the time. -/
structure User.Touches (id : Int) (r : ProfileChange) (now : Timestamp) (old new : Row)
    (db db' : Database) : Prop where
  id : old.id = id
  columns : new = { old with
    username := r.username.getD old.username
    email := r.email <|> old.email
    nickname := r.nickname <|> old.nickname
    avatar := r.avatar <|> old.avatar
    bio := r.bio <|> old.bio
    gender := (r.gender.map Column.tag).getD old.gender
    location := r.location <|> old.location
    updatedAt := now }
  exchanged : db.users.Exchanged old new db'.users
  agreeOff : AgreeOff [.user] db db'

/-- What a change of a category touched. -/
theorem Category.touches_change {id : Int} {r : CategoryChange} {c : Category} {w w' : World}
    (h : (change id r).perform w = (.ok c, w')) :
    ∃ old, Touches id r w.now old c.stored w.database w'.database := by
  obtain ⟨a, hfind, -, rfl, db, hreplace, rfl⟩ := change_eq_ok h
  have hkeep : ∀ row : Row, row.read? = some a → (a.changed r w.now).id = row.id :=
    fun _ => Columns.id_of_read?
  obtain ⟨old, hread, hid, hexchanged⟩ := exchanged_of_findById hfind hkeep hreplace
  obtain rfl := Columns.stored_of_read? hread
  refine ⟨a.stored, hid, ?_, hexchanged, agreeOff_replace hreplace⟩
  obtain ⟨name, description, parentId, iconUrl, sort, status⟩ := r
  cases status <;> rfl

/-- What a change of the profile touched. -/
theorem User.touches_change {id : Int} {r : ProfileChange} {p : Profile} {w w' : World}
    (h : (change id r).perform w = (.ok p, w')) :
    ∃ old u, p = .owned u ∧ Touches id r w.now old u.stored w.database w'.database := by
  obtain ⟨a, row, db, hfind, hreplace, rfl, rfl⟩ := change_eq_ok h
  have hkeep : ∀ row : Row, row.read? = some a → (a.changed r w.now).id = row.id :=
    fun _ => Columns.id_of_read?
  obtain ⟨old, hread, hid, hexchanged⟩ := exchanged_of_findById hfind hkeep hreplace
  obtain rfl := Columns.stored_of_read? hread
  refine ⟨a.stored, a.changed r w.now, rfl, hid, ?_, hexchanged, agreeOff_replace hreplace⟩
  obtain ⟨username, email, nickname, avatar, bio, gender, location⟩ := r
  cases gender <;> rfl

/-- A write that succeeds touches what it names. A toggle that is carried out touches one row
of its table and one number of its target, which goes up as the relation becomes active, and
down, though never below zero, as it becomes cancelled. A change of a category or of a
profile touches the row with the identifier, in the columns that the request gives and in the
time, and yields that row. All other rows, columns and tables are what they were. -/
theorem writes_touch_only_what_they_name (w : World) :
    (∀ userId r requestId o, (Toggle.like userId r requestId).Executed w o →
      ∃ status, Like.Touches userId r w.now status w.database
        ((Toggle.like userId r requestId).request.perform w).2.database) ∧
    (∀ userId r requestId o, (Toggle.favorite userId r requestId).Executed w o →
      ∃ status, Favorite.Touches userId r w.now status w.database
        ((Toggle.favorite userId r requestId).request.perform w).2.database) ∧
    (∀ id r c w', (Category.change id r).perform w = (.ok c, w') →
      ∃ old, Category.Touches id r w.now old c.stored w.database w'.database) ∧
    (∀ id r p w', (User.change id r).perform w = (.ok p, w') →
      ∃ old u, p = .owned u ∧
        User.Touches id r w.now old u.stored w.database w'.database) := by
  refine ⟨?_, ?_, fun _ _ _ _ => Category.touches_change, fun _ _ _ _ => User.touches_change⟩
  · intro userId r requestId o h
    obtain ⟨-, hresult, hdatabase⟩ := Toggle.request_again h.issues h.recalled
    obtain ⟨l, db, hchange, -, hdb⟩ := Relation.carryOut_eq_ok (hresult.symm.trans h.result)
    rw [hdatabase]
    exact ⟨l.status, hdb ▸ Like.touches_toggle hchange⟩
  · intro userId r requestId o h
    obtain ⟨-, hresult, hdatabase⟩ := Toggle.request_again h.issues h.recalled
    obtain ⟨f, db, hchange, -, hdb⟩ := Relation.carryOut_eq_ok (hresult.symm.trans h.result)
    rw [hdatabase]
    exact ⟨f.status, hdb ▸ Favorite.touches_toggle hchange⟩

/-- The sample world, and a category in it. -/
def World.sampleShelf : World :=
  { World.sample with
    database :=
      { World.sample.database with
        categories := ⟨some ⟨[Category.sample.stored], 1⟩, none⟩ } }

/-- A content is liked and kept, a category gets another name, and a user a nickname. -/
theorem writes_touch_only_what_they_name_sample :
    let w := World.sampleShelf
    let like : Toggle := .like 1 ⟨.content, 7, none, none, none, none⟩ none
    let keep : Toggle := .favorite 1 ⟨.content, 7, none, none, none, none⟩ none
    let rename : CategoryChange := ⟨some " Essays ", none, none, none, none, none⟩
    let introduce : ProfileChange := ⟨none, none, some "Ada", none, none, none, none⟩
    (∃ status, Like.Touches 1 ⟨.content, 7, none, none, none, none⟩ w.now status w.database
      (like.request.perform w).2.database) ∧
    (∃ status, Favorite.Touches 1 ⟨.content, 7, none, none, none, none⟩ w.now status
      w.database (keep.request.perform w).2.database) ∧
    (∃ (old : Category.Row) (c : Category), c.name = "Essays" ∧
      Category.Touches 1 rename w.now old c.stored w.database
        ((Category.change 1 rename).perform w).2.database) ∧
    ∃ (old : User.Row) (u : User), u.nickname = some "Ada" ∧
      User.Touches 1 introduce w.now old u.stored w.database
        ((User.change 1 introduce).perform w).2.database := by
  obtain ⟨htoggle, hfavorite, hcategory, huser⟩ :=
    writes_touch_only_what_they_name World.sampleShelf
  have hlike : ∃ o, (Toggle.like 1 ⟨.content, 7, none, none, none, none⟩ none).Executed
      World.sampleShelf o := ⟨_, rfl, rfl⟩
  have hkeep : ∃ o, (Toggle.favorite 1 ⟨.content, 7, none, none, none, none⟩ none).Executed
      World.sampleShelf o := ⟨_, rfl, rfl⟩
  have hrename : ∃ c : Category,
      ((Category.change 1 ⟨some " Essays ", none, none, none, none, none⟩).perform
        World.sampleShelf).1 = .ok c ∧ c.name = "Essays" := ⟨_, rfl, rfl⟩
  have hintroduce : ∃ p : Profile,
      ((User.change 1 ⟨none, none, some "Ada", none, none, none, none⟩).perform
        World.sampleShelf).1 = .ok p ∧ p.nickname = some "Ada" := ⟨_, rfl, rfl⟩
  obtain ⟨o, hlike⟩ := hlike
  obtain ⟨f, hkeep⟩ := hkeep
  obtain ⟨c, hrename, hname⟩ := hrename
  obtain ⟨p, hintroduce, hnickname⟩ := hintroduce
  obtain ⟨old, hold⟩ := hcategory _ _ _ _ (Prod.ext hrename rfl)
  obtain ⟨was, u, rfl, hwas⟩ := huser _ _ _ _ (Prod.ext hintroduce rfl)
  exact ⟨htoggle _ _ _ _ hlike, hfavorite _ _ _ _ hkeep, ⟨old, c, hname, hold⟩, was, u,
    hnickname, hwas⟩

end Community
