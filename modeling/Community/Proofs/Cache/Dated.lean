import Community.Proofs.Cache.Cached
import Community.Proofs.Category.Position
import Community.Proofs.Relation.Fits
import Community.Proofs.User.Change

/-!
# Timestamps of the calendar

The columns of the database hold timestamps of the calendar, and so does everything that is
read from them. What the services write comes from the clock or from the row before, so that
nothing else gets into the tables as long as the calendar lasts:

> `World.dated_next`: the timestamps that are read through the cache are of the calendar
> after an event if they were before.

> `Cached.faithful_answer`: what the database answers then comes back
> from its text as it was.
-/

namespace Community

open Json Procedure Database Time

/-! ## Rows of one table -/

namespace Database

variable {ρ α : Type} [Entity ρ α] {P : ρ → Prop} {Q : α → Prop} {db db' : Database}

/-- All rows that statements see have the property. -/
def Every (ρ : Type) {α : Type} [Entity ρ α] (P : ρ → Prop) (db : Database) : Prop :=
  ∀ r ∈ rowsOf ρ db, P r

namespace Every

/-- The rows of a table have what every row has. -/
theorem rows {t : Table ρ} (h : Every ρ P db) (ht : db.table ρ = .ok t) :
    ∀ r ∈ t.rows, P r := by
  intro r hr
  rw [← rowsOf_eq ht] at hr
  exact h r hr

/-- A change of other tables keeps what holds of every row. -/
theorem agreeOff [LawfulEntity ρ] {names : List TableName} (h : Every ρ P db)
    (hagree : AgreeOff names db db') (hname : Entity.name ρ ∉ names) : Every ρ P db' := by
  intro r hr
  rw [rowsOf_agreeOff hagree hname] at hr
  exact h r hr

/-- An insertion keeps what every row has, if the new row has it. -/
theorem insert [LawfulEntity ρ] {make : Int → ρ} {r : ρ} (hdb : Every ρ P db)
    (hmake : ∀ id, P (make id)) (h : insert make db = .ok (r, db')) : Every ρ P db' := by
  obtain ⟨t, id, ht, -, rfl, -, -, rfl⟩ := insert_eq_ok h
  intro s hs
  rw [rowsOf_withTable] at hs
  rcases List.mem_append.mp hs with hs | hs
  · exact hdb.rows ht s hs
  · rw [List.mem_singleton.mp hs]
    exact hmake id

/-- So does writing one row back. -/
theorem replace [LawfulEntity ρ] {x y : ρ} (hdb : Every ρ P db) (hx : P x)
    (h : replace x db = .ok (y, db')) : Every ρ P db' := by
  obtain ⟨t, before, r, after, ht, hrows, -, -, -, -, rfl⟩ := replace_eq_ok h
  intro s hs
  rw [rowsOf_withTable] at hs
  rcases mem_exchange hrows hs with rfl | hs
  · exact hx
  · exact hdb.rows ht s hs

/-- So does an upsert, if the row has it that is made and the row that is changed. -/
theorem upsert [LawfulEntity ρ] {pick : ρ → Bool} {make : Int → ρ} {change : α → ρ} {a : α}
    (hdb : Every ρ P db)
    (hkeep : ∀ (r : ρ) (b : α), Entity.read? r = some b → Entity.id (change b) = Entity.id r)
    (hmake : ∀ id, P (make id))
    (hchange : ∀ r b, Entity.read? r = some b → P r → P (change b))
    (h : upsert pick make change db = .ok (a, db')) : Every ρ P db' := by
  obtain ⟨t, rows, lastId, x, ht, rfl, -, -, -, ⟨id, -, rfl, rfl⟩ |
    ⟨before, r, after, b, hrows, rfl, -, hb, rfl⟩⟩ := upsert_eq_ok hkeep h
  · intro s hs
    rw [rowsOf_withTable] at hs
    rcases List.mem_append.mp hs with hs | hs
    · exact hdb.rows ht s hs
    · rw [List.mem_singleton.mp hs]
      exact hmake id
  · intro s hs
    rw [rowsOf_withTable] at hs
    rcases mem_exchange hrows hs with rfl | hs
    · exact hchange r b hb
        (hdb.rows ht r (hrows ▸ List.mem_append_right _ List.mem_cons_self))
    · exact hdb.rows ht s hs

/-- A deletion leaves rows that were there before. -/
theorem delete [LawfulEntity ρ] {pick : ρ → Bool} {n : Nat} (hdb : Every ρ P db)
    (h : delete pick db = .ok (n, db')) : Every ρ P db' := by
  obtain ⟨t, ht, rfl⟩ := delete_eq_ok h
  intro s hs
  rw [rowsOf_withTable] at hs
  exact hdb.rows ht s (List.mem_of_mem_filter hs)

/-- What is found has what its row has. -/
theorem findFirst {pick : ρ → Bool} {a : α} (hdb : Every ρ P db)
    (hread : ∀ r b, Entity.read? r = some b → P r → Q b)
    (h : findFirst pick db = .ok (some a)) : Q a := by
  obtain ⟨t, ht, ⟨-, hnone⟩ | ⟨r, b, hr, hb, hsome⟩⟩ := findFirst_eq_ok h
  · cases hnone
  · cases hsome
    exact hread r a hb (hdb.rows ht r (List.mem_of_find?_eq_some hr))

/-- What is decoded from rows that have P has Q, if decoding leads from one to the other. -/
theorem mapM_readRow {rs : List ρ} {as : List α}
    (hread : ∀ r b, Entity.read? r = some b → P r → Q b) (hrs : ∀ r ∈ rs, P r)
    (h : rs.mapM readRow = .ok as) : ∀ a ∈ as, Q a := by
  induction rs generalizing as with
  | nil =>
    cases h
    exact fun _ ha => absurd ha List.not_mem_nil
  | cons r rs ih =>
    rw [List.mapM_cons] at h
    obtain ⟨b, hb, h⟩ := bind_eq_ok h
    obtain ⟨bs, hbs, h⟩ := bind_eq_ok h
    cases h
    intro a ha
    rcases List.mem_cons.mp ha with rfl | ha
    · exact hread r a (readRow_eq_ok.mp hb) (hrs r List.mem_cons_self)
    · exact ih (fun s hs => hrs s (List.mem_cons_of_mem r hs)) hbs a ha

/-- The rows that are picked have what every row has. -/
theorem select {pick : ρ → Bool} {before : ρ → ρ → Bool} {rs : List ρ} (hdb : Every ρ P db)
    (h : select pick before db = .ok rs) : ∀ r ∈ rs, P r := by
  obtain ⟨t, ht, h⟩ := bind_eq_ok h
  cases h
  intro r hr
  exact hdb.rows ht r (List.mem_of_mem_filter (List.mem_mergeSort.mp hr))

/-- The values that are read have what decoding makes of it. -/
theorem all {pick : ρ → Bool} {before : ρ → ρ → Bool} {as : List α} (hdb : Every ρ P db)
    (hread : ∀ r b, Entity.read? r = some b → P r → Q b) (h : all pick before db = .ok as) :
    ∀ a ∈ as, Q a := by
  obtain ⟨rs, hrs, h⟩ := bind_eq_ok h
  exact mapM_readRow hread (hdb.select hrs) h

/-- So have the values of one page. -/
theorem page {pick : ρ → Bool} {before : ρ → ρ → Bool} {p : Page} {as : List α} {n : Nat}
    (hdb : Every ρ P db) (hread : ∀ r b, Entity.read? r = some b → P r → Q b)
    (h : page pick before p db = .ok (as, n)) : ∀ a ∈ as, Q a := by
  obtain ⟨total, -, h⟩ := bind_eq_ok h
  obtain ⟨rs, hrs, h⟩ := bind_eq_ok h
  obtain ⟨bs, hbs, h⟩ := bind_eq_ok h
  cases h
  refine mapM_readRow hread (fun r hr => hdb.select hrs r ?_) hbs
  exact List.mem_of_mem_drop (List.mem_of_mem_take hr)

end Every

/-- The timestamps that are read through the cache are of the calendar, as those that the
columns of the tables can hold are. -/
structure Dated (db : Database) : Prop where
  categories : Every Category.Row (·.Dated) db
  users : Every User.Row (·.Dated) db
  favorites : Every Favorite.Row (·.Dated) db

/-- After a change of the categories only these are to be looked at. -/
theorem Dated.of_categories (h : Dated db) (hagree : AgreeOff [.category] db db')
    (hrows : Every Category.Row (·.Dated) db') : Dated db' :=
  ⟨hrows, h.users.agreeOff hagree (by decide), h.favorites.agreeOff hagree (by decide)⟩

/-- A change of tables without dates in the cache keeps the database dated. -/
theorem Dated.agreeOff {names : List TableName} (h : Dated db)
    (hagree : AgreeOff names db db')
    (hnames : .category ∉ names ∧ .user ∉ names ∧ .favorite ∉ names) : Dated db' :=
  ⟨h.categories.agreeOff hagree hnames.1, h.users.agreeOff hagree hnames.2.1,
    h.favorites.agreeOff hagree hnames.2.2⟩

end Database

/-! ## What is read of the rows -/

/-- A category that is read from a dated row is dated. -/
theorem Category.dated_of_read {r : Row} {c : Category} (h : r.read? = some c)
    (hr : r.Dated) : c.Dated := by
  rw [← Columns.stored_of_read? h] at hr
  exact ⟨hr.createdAt, hr.updatedAt⟩

/-- A user that is read from a dated row is dated. -/
theorem User.dated_of_read {r : Row} {u : User} (h : r.read? = some u) (hr : r.Dated) :
    u.Dated := by
  rw [← Columns.stored_of_read? h] at hr
  exact ⟨hr.lastLoginAt, hr.createdAt⟩

/-- A favorite that is read from a dated row is dated. -/
theorem Favorite.dated_of_read {r : Row} {f : Favorite} (h : r.read? = some f)
    (hr : r.Dated) : f.Dated := by
  rw [← Columns.stored_of_read? h] at hr
  exact ⟨hr.createdAt, hr.updatedAt⟩

namespace Cached

/-- What is in a forest is in the list that it is assembled from. -/
theorem mem_of_buildForest {cs : List Category} {ns : List CategoryNode}
    (h : Category.buildForest cs = .ok ns) {x : Category × Nat × Nat}
    (hx : x ∈ CategoryNode.preorders 0 ns) : x.1 ∈ cs := by
  unfold Category.buildForest at h
  dsimp only at h
  split at h
  · cases h
  · split at h
    · cases h
      obtain ⟨path, node, hnode, hcategory⟩ := Category.leads_of_mem_preorders hx
      have hmem := hnode.hangs_of_forest.mem
      rw [hcategory] at hmem
      exact List.mem_of_mem_filter hmem
    · cases h

/-- What the database answers comes back from its text as it was, or not at all. -/
theorem faithful_answer {c : Cached} {db : Database} {a : c.Value} (hdb : db.Dated)
    (h : c.answer db = .ok a) : Faithful a := by
  cases c with
  | category id =>
    obtain ⟨kept, hkept, h⟩ := bind_eq_ok h
    obtain ⟨found, hfound, hkept⟩ := bind_eq_ok hkept
    cases kept with
    | none => cases h
    | some c =>
      cases h
      obtain ⟨rfl, -⟩ := Option.filter_eq_some_iff.mp (Except.ok.inj hkept)
      exact Category.faithful (hdb.categories.findFirst (fun _ _ => Category.dated_of_read)
        (Problem.ofStatement_eq_ok hfound))
  | forest =>
    obtain ⟨rows, hrows, h⟩ := bind_eq_ok h
    cases hforest : Category.buildForest rows with
    | error f =>
      rw [hforest] at h
      cases h
    | ok ns =>
      rw [hforest] at h
      cases h
      refine CategoryNode.faithful fun x hx => ?_
      exact hdb.categories.all (fun _ _ => Category.dated_of_read)
        (Problem.ofStatement_eq_ok hrows) x.1
        (mem_of_buildForest hforest hx)
  | profile id =>
    obtain ⟨found, hfound, h⟩ := bind_eq_ok h
    split at h
    · next u =>
      cases h
      have hu : User.Columns.Dated u := hdb.users.findFirst (fun _ _ => User.dated_of_read)
        (Problem.ofStatement_eq_ok hfound)
      exact Profile.faithful ⟨hu.lastLoginAt, hu.createdAt⟩
    · cases h
  | users keyword status role page =>
    obtain ⟨⟨rows, total⟩, hrows, h⟩ := bind_eq_ok h
    cases h
    have hall := hdb.users.page (fun _ _ => User.dated_of_read)
      (Problem.ofStatement_eq_ok hrows)
    refine Listing.faithful (fun p hp => ?_) fun p _ => Profile.opens p
    obtain ⟨u, hu, rfl⟩ := List.mem_map.mp hp
    exact Profile.faithful ⟨(hall u hu).lastLoginAt, (hall u hu).createdAt⟩
  | favorites userId type status page =>
    obtain ⟨⟨rows, total⟩, hrows, h⟩ := bind_eq_ok h
    cases h
    have hall := hdb.favorites.page (fun _ _ => Favorite.dated_of_read)
      (Problem.ofStatement_eq_ok hrows)
    exact Listing.faithful (fun f hf => Favorite.faithful (hall f hf)) fun f _ => opens_obj _

end Cached

/-! ## What the services write -/

section Writes

variable {w w' : World} {id : Int}

/-- Every write of a category keeps the categories dated, while the clock is within the
calendar. -/
theorem Category.Changed.dated (h : Changed w w') (hdb : Every Row (·.Dated) w.database)
    (hnow : w.now.Valid) : Every Row (·.Dated) w'.database := by
  cases h with
  | refused => exact hdb
  | created _ hadd => exact hdb.insert (fun _ => ⟨hnow, hnow⟩) hadd
  | @replaced _ _ c _ _ hfind _ hreplace =>
    have hc : Columns.Dated c := hdb.findFirst (fun _ _ => dated_of_read) hfind
    exact hdb.replace ⟨hc.createdAt, hnow⟩ hreplace
  | removed herase =>
    obtain ⟨⟨n, db⟩, hdelete, herase⟩ := bind_eq_ok herase
    cases herase
    exact hdb.delete hdelete

/-- A change of a profile keeps the users dated. -/
theorem User.dated_change {r : ProfileChange} (hdb : Every Row (·.Dated) w.database) :
    Every Row (·.Dated) ((change id r).perform w).2.database := by
  rcases database_change id r w with hsame | ⟨u, row, hfind, hreplace⟩
  · rw [hsame]
    exact hdb
  · -- the timestamps that profiles show are those of the row before
    have hu : Columns.Dated u := hdb.findFirst (fun _ _ => dated_of_read) hfind
    exact hdb.replace ⟨hu.lastLoginAt, hu.createdAt⟩ hreplace

/-- A toggle of a favorite keeps the favorites dated. -/
theorem Favorite.dated_flip {userId : Int} {r : FavoriteToggle} {now : Timestamp}
    {f : Favorite} {db db' : Database} (hdb : Every Row (·.Dated) db) (hnow : now.Valid)
    (h : flip userId r now db = .ok (f, db')) : Every Row (·.Dated) db' := by
  refine hdb.upsert (fun _ _ => Columns.id_of_read?) (fun _ => ⟨hnow, hnow⟩)
    (fun row old hread hrow => ?_) h
  exact ⟨(dated_of_read hread hrow).createdAt, hnow⟩

theorem Favorite.dated_request {userId : Int} {r : FavoriteToggle}
    {requestId : Option String} (hdb : Every Row (·.Dated) w.database) (hnow : w.now.Valid) :
    Every Row (·.Dated) ((request userId r requestId).perform w).2.database := by
  rcases database_request userId r requestId w with hsame | ⟨f, htoggle⟩
  · rw [hsame]
    exact hdb
  · obtain ⟨db₁, hflip, hcount⟩ := (toggling userId r w.now).run_eq_ok htoggle
    obtain ⟨n, hadjusted⟩ := Counter.count_eq_ok hcount
    -- the counter is a column of another table
    exact (dated_flip hdb hnow hflip).agreeOff hadjusted.agreeOff
      (Counter.not_mem_table (by decide))

end Writes

/-! ## Events -/

/-- Every operation keeps the database dated. -/
theorem Operation.dated_next {w : World} (op : Operation) (hw : w.database.Dated)
    (hnow : w.now.Valid) : (op.next w).database.Dated := by
  have hagree := op.agreeOff_next w
  cases op with
  | createCategory r =>
    refine hw.of_categories hagree ?_
    rw [next, run, snd_perform_silently]
    exact (Category.changed_create r w).dated hw.categories hnow
  | changeCategory id r =>
    refine hw.of_categories hagree ?_
    rw [next, run, snd_perform_silently]
    exact (Category.changed_change id r w).dated hw.categories hnow
  | removeCategory id =>
    refine hw.of_categories hagree ?_
    rw [next, run, snd_perform_silently]
    exact (Category.changed_remove id w).dated hw.categories hnow
  | changeProfile id r =>
    have husers : AgreeOff [.user] w.database ((changeProfile id r).next w).database :=
      hagree
    refine ⟨hw.categories.agreeOff husers (by decide), ?_,
      hw.favorites.agreeOff husers (by decide)⟩
    rw [next, run, snd_perform_silently]
    exact User.dated_change hw.users
  | toggleFavorite userId r requestId =>
    refine ⟨hw.categories.agreeOff hagree (Counter.not_mem_tables (by decide) (by decide)),
      hw.users.agreeOff hagree (Counter.not_mem_tables (by decide) (by decide)), ?_⟩
    rw [next, run, snd_perform_silently]
    exact Favorite.dated_request hw.favorites hnow
  | toggleLike userId r requestId =>
    have hname : ∀ name : TableName, name ≠ .like → name ∉ targetTables →
        name ∉ (toggleLike userId r requestId).tables := fun _ => Counter.not_mem_tables
    exact hw.agreeOff hagree ⟨hname _ (by decide) (by decide),
      hname _ (by decide) (by decide), hname _ (by decide) (by decide)⟩
  | search r userId page =>
    have htraces : AgreeOff [.history, .hotSearch] w.database
        ((search r userId page).next w).database :=
      hagree
    exact hw.agreeOff htraces (by decide)
  | _ => exact hw.agreeOff hagree ⟨List.not_mem_nil, List.not_mem_nil, List.not_mem_nil⟩

/-- Every event does, as long as the clock has not left the calendar. -/
theorem World.dated_next {w : World} {e : Event} (hw : w.database.Dated)
    (htime : w.clock < calendarEnd) : (e.next w).database.Dated := by
  cases e with
  | call op => exact op.dated_next hw (valid_now htime)
  | wait time => exact hw
  | closeCache => exact hw

end Community
