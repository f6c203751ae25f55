import Community.Proofs.Relation.Toggle
import Community.Proofs.Target.Tally

/-!
# Relations as the counters see them

Likes and favourites are kept in two tables, and counted in five columns of four others.
Seen from the counters a row of either table is a *link*: a user, the counter that it is
for, a target, and whether it counts. All claims about counters are about the links of a
database and its tallies; which table a link is from no longer matters.

> `Like.toggled`, `Favorite.toggled`: a toggle that succeeds makes an active link or turns
> one over, and the counter of that link, and no other, makes the step that goes with it.
-/

namespace Community

open Database Time

/-- A stored relation as the counters see it. There is no counter if the row does not say
what kind it is of. -/
structure Link where
  userId : Int
  counter : Option Counter
  targetId : Int
  isActive : Bool

/-- A like as the counters see it. -/
def Like.Columns.link (l : Like.Row) : Link :=
  ⟨l.userId, l.likeType.read?.map LikeType.counter, l.targetId, l.status == .tag .active⟩

/-- A favourite as the counters see it. -/
def Favorite.Columns.link (f : Favorite.Row) : Link :=
  ⟨f.userId, f.favoriteType.read?.map FavoriteType.counter, f.targetId,
    f.status == .tag .active⟩

namespace Database

/-- All relations in a database. -/
def links (db : Database) : List Link :=
  (rowsOf Like.Row db).map Like.Columns.link ++
    (rowsOf Favorite.Row db).map Favorite.Columns.link

variable {db db' : Database} {names : List TableName}

/-- Links are in the two tables of relations and nowhere else. -/
theorem links_agreeOff (h : AgreeOff names db db') (hlike : TableName.like ∉ names)
    (hfavorite : TableName.favorite ∉ names) : links db' = links db := by
  rw [links, links, rowsOf_agreeOff h hlike, rowsOf_agreeOff h hfavorite]

/-- Whether the rows of both tables of relations may be there together. -/
def IsTogether (db : Database) : Prop :=
  distinct (rowsOf Like.Row db) = true ∧ distinct (rowsOf Favorite.Row db) = true

/-- A change of other tables leaves the relations together. -/
theorem isTogether_agreeOff (h : AgreeOff names db db') (hlike : TableName.like ∉ names)
    (hfavorite : TableName.favorite ∉ names) (htogether : IsTogether db) :
    IsTogether db' := by
  rw [IsTogether, rowsOf_agreeOff h hlike, rowsOf_agreeOff h hfavorite]
  exact htogether

end Database

/-! ## Who supports a target -/

namespace Counter

/-- Whether a link counts for the target. -/
def counts (counter : Counter) (target : Int) (l : Link) : Bool :=
  l.isActive && l.counter == some counter && l.targetId == target

/-- The users whose relations to the target count. -/
def supporters (counter : Counter) (target : Int) (links : List Link) : List Int :=
  (links.filter (counter.counts target)).map Link.userId

variable {counter : Counter} {target : Int} {l : Link}

/-- A link counts for a target if it is active and of the counter's kind. -/
theorem counts_eq_true :
    counter.counts target l = true ↔
      l.isActive = true ∧ l.counter = some counter ∧ l.targetId = target := by
  simp [counts, and_assoc]

/-- The supporters of a list of links are those of its parts. -/
theorem supporters_append (before after : List Link) :
    counter.supporters target (before ++ after)
      = counter.supporters target before ++ counter.supporters target after := by
  rw [supporters, List.filter_append, List.map_append]
  rfl

theorem supporters_cons_of_counts {links : List Link} (h : counter.counts target l = true) :
    counter.supporters target (l :: links) =
      l.userId :: counter.supporters target links := by
  rw [supporters, List.filter_cons, if_pos h]
  rfl

theorem supporters_cons_of_not_counts {links : List Link}
    (h : counter.counts target l = false) :
    counter.supporters target (l :: links) = counter.supporters target links := by
  rw [supporters, List.filter_cons, if_neg (by simp [h])]
  rfl

end Counter

/-! ## Users are counted once -/

namespace Link

/-- Whether two links of one counter to one target are of different users. -/
def IsApart (a b : Link) : Prop :=
  ∀ counter, a.counter = some counter → b.counter = some counter → a.targetId = b.targetId →
    a.userId ≠ b.userId

end Link

/-- The types of like have counters of their own. -/
theorem LikeType.counter_inj {x y : LikeType} (h : x.counter = y.counter) : x = y := by
  cases x <;> cases y <;> first | rfl | cases h

/-- So have the types of favorite. -/
theorem FavoriteType.counter_inj {x y : FavoriteType} (h : x.counter = y.counter) :
    x = y := by
  cases x <;> cases y <;> first | rfl | cases h

/-- No counter is shared by likes and favorites. -/
theorem LikeType.counter_ne (x : LikeType) (y : FavoriteType) : x.counter ≠ y.counter := by
  cases x <;> cases y <;> decide

/-- Rows for one counter are of one type. So links of a table are apart if no two of its rows
are of one user, one type and one target. -/
theorem Link.isApart_of_type {τ : Type} {count : τ → Counter}
    (hinj : ∀ {x y}, count x = count y → x = y) {a b : Link} {c d : Column τ}
    (ha : a.counter = c.read?.map count) (hb : b.counter = d.read?.map count)
    (h : ¬(a.userId = b.userId ∧ c = d ∧ a.targetId = b.targetId)) : a.IsApart b := by
  intro counter hca hcb htarget huser
  obtain ⟨x, hx, hxc⟩ := Option.map_eq_some_iff.mp (ha.symm.trans hca)
  obtain ⟨y, hy, hyc⟩ := Option.map_eq_some_iff.mp (hb.symm.trans hcb)
  refine h ⟨huser, ?_, htarget⟩
  rw [Column.read?_eq_some.mp hx, Column.read?_eq_some.mp hy, hinj (hxc.trans hyc.symm)]

/-- Likes that may be there together are apart as links. -/
theorem Like.link_isApart {a b : Like.Row} (h : conflict a b = false) :
    a.link.IsApart b.link := by
  refine Link.isApart_of_type LikeType.counter_inj rfl rfl ?_
  rintro ⟨huser, htype, htarget⟩
  cases h.symm.trans (conflict_of_eq huser htype htarget)

/-- Favourites that may be there together are apart as links. -/
theorem Favorite.link_isApart {a b : Favorite.Row} (h : conflict a b = false) :
    a.link.IsApart b.link := by
  refine Link.isApart_of_type FavoriteType.counter_inj rfl rfl ?_
  rintro ⟨huser, htype, htarget⟩
  cases h.symm.trans (conflict_of_eq huser htype htarget)

/-- The links of a database are apart, since no two rows of one table are about the same and
no counter is for both tables. -/
theorem Database.links_isApart {db : Database} (h : db.IsTogether) :
    db.links.Pairwise Link.IsApart := by
  refine List.pairwise_append.mpr ⟨?_, ?_, ?_⟩
  · exact List.pairwise_map.mpr ((distinct_iff.mp h.1).imp Like.link_isApart)
  · exact List.pairwise_map.mpr ((distinct_iff.mp h.2).imp Favorite.link_isApart)
  · -- a like and a favourite never count for the same
    intro a ha b hb counter hca hcb
    obtain ⟨l, -, rfl⟩ := List.mem_map.mp ha
    obtain ⟨f, -, rfl⟩ := List.mem_map.mp hb
    obtain ⟨x, -, hx⟩ := Option.map_eq_some_iff.mp hca
    obtain ⟨y, -, hy⟩ := Option.map_eq_some_iff.mp hcb
    exact absurd (hx.trans hy.symm) (LikeType.counter_ne x y)

/-- No user supports a target twice. -/
theorem Counter.supporters_nodup {counter : Counter} {target : Int} {db : Database}
    (h : db.IsTogether) : (counter.supporters target db.links).Nodup := by
  refine List.pairwise_map.mpr (List.Pairwise.imp_of_mem ?_ ((links_isApart h).filter _))
  intro a b ha hb hapart
  obtain ⟨-, hca, hta⟩ := counts_eq_true.mp (List.mem_filter.mp ha).2
  obtain ⟨-, hcb, htb⟩ := counts_eq_true.mp (List.mem_filter.mp hb).2
  exact hapart counter hca hcb (hta.trans htb.symm)

/-! ## Flips -/

/-- The links before and after a flip, and the flipped link. -/
inductive Flipped : List Link → List Link → Link → Prop
  | made (before after : List Link) (l : Link) (hactive : l.isActive = true) :
    Flipped (before ++ after) (before ++ l :: after) l
  | turned (before after : List Link) (l : Link) :
    Flipped (before ++ { l with isActive := !l.isActive } :: after) (before ++ l :: after) l

/-- One row more at the end of a table, or one row turned over, is a flip. -/
theorem Flipped.ofRows {ρ : Type} {link : ρ → Link} {rows rows' : List ρ} {r : ρ}
    (h : (rows' = rows ++ [r] ∧ (link r).isActive = true) ∨
      ∃ before old after, rows = before ++ old :: after ∧ rows' = before ++ r :: after ∧
        link old = { link r with isActive := !(link r).isActive }) :
    Flipped (rows.map link) (rows'.map link) (link r) := by
  rcases h with ⟨rfl, hactive⟩ | ⟨before, old, after, rfl, rfl, hold⟩
  · have hmade := Flipped.made (rows.map link) [] (link r) hactive
    rw [List.append_nil] at hmade
    rwa [List.map_append, List.map_singleton]
  · rw [List.map_append, List.map_append, List.map_cons, List.map_cons, hold]
    exact .turned _ _ _

/-- A flip among the likes is a flip among all links. -/
theorem Flipped.append_right {links links' : List Link} {l : Link}
    (h : Flipped links links' l) (others : List Link) :
    Flipped (links ++ others) (links' ++ others) l := by
  cases h with
  | made before after _ hactive =>
    rw [List.append_assoc, List.append_assoc]
    exact .made before (after ++ others) l hactive
  | turned before after =>
    rw [List.append_assoc, List.append_assoc]
    exact .turned before (after ++ others) l

/-- A flip among the favourites is a flip among all links. -/
theorem Flipped.append_left {links links' : List Link} {l : Link}
    (h : Flipped links links' l) (others : List Link) :
    Flipped (others ++ links) (others ++ links') l := by
  cases h with
  | made before after _ hactive =>
    rw [← List.append_assoc, ← List.append_assoc]
    exact .made (others ++ before) after l hactive
  | turned before after =>
    rw [← List.append_assoc, ← List.append_assoc]
    exact .turned (others ++ before) after l

/-- The number by which the supporters of a target change with a link. -/
def Link.change (l : Link) : Int :=
  if l.isActive then 1 else -1

theorem Link.add_change (l : Link) (n : Int) :
    n + l.change = if l.isActive then n + 1 else n - 1 := by
  unfold change
  split <;> omega

/-- A flip adds one supporter to the target of the link, or takes one away. -/
theorem Flipped.supporters_self {links links' : List Link} {l : Link} {counter : Counter}
    (h : Flipped links links' l) (hcounter : l.counter = some counter) :
    ((counter.supporters l.targetId links').length : Int)
      = (counter.supporters l.targetId links).length + l.change := by
  have hcounts : ∀ k : Link, k.counter = l.counter → k.targetId = l.targetId →
      counter.counts l.targetId k = k.isActive := by
    intro k hk hkt
    simp [Counter.counts, hk, hkt, hcounter]
  unfold Link.change
  cases h with
  | made before after _ hactive =>
    have hl : counter.counts l.targetId l = true := (hcounts l rfl rfl).trans hactive
    rw [Counter.supporters_append, Counter.supporters_append,
      Counter.supporters_cons_of_counts hl, if_pos hactive]
    simp only [List.length_append, List.length_cons]
    omega
  | turned before after _ =>
    have hold := hcounts { l with isActive := !l.isActive } rfl rfl
    have hnew := hcounts l rfl rfl
    rw [Counter.supporters_append, Counter.supporters_append]
    cases hactive : l.isActive with
    | true =>
      rw [hactive] at hnew hold
      rw [Counter.supporters_cons_of_counts hnew, Counter.supporters_cons_of_not_counts hold,
        if_pos rfl]
      simp only [List.length_append, List.length_cons]
      omega
    | false =>
      rw [hactive] at hnew hold
      rw [Counter.supporters_cons_of_not_counts hnew, Counter.supporters_cons_of_counts hold,
        if_neg Bool.false_ne_true]
      simp only [List.length_append, List.length_cons]
      omega

/-- A flip shows nowhere else. -/
theorem Flipped.supporters_other {links links' : List Link} {l : Link} {counter : Counter}
    {target : Int} (h : Flipped links links' l)
    (hother : ¬(l.counter = some counter ∧ l.targetId = target)) :
    counter.supporters target links' = counter.supporters target links := by
  have hcounts : ∀ k : Link, k.counter = l.counter → k.targetId = l.targetId →
      counter.counts target k = false := by
    intro k hk hkt
    rw [Bool.eq_false_iff]
    intro htrue
    obtain ⟨-, hc, ht⟩ := Counter.counts_eq_true.mp htrue
    exact hother ⟨hk ▸ hc, hkt ▸ ht⟩
  cases h with
  | made before after _ _ =>
    rw [Counter.supporters_append, Counter.supporters_append,
      Counter.supporters_cons_of_not_counts (hcounts l rfl rfl)]
  | turned before after _ =>
    rw [Counter.supporters_append, Counter.supporters_append,
      Counter.supporters_cons_of_not_counts (hcounts l rfl rfl),
      Counter.supporters_cons_of_not_counts
        (hcounts { l with isActive := !l.isActive } rfl rfl)]

/-! ## Toggles -/

/-- What a toggle does, as the counters see it: one link is flipped, and its counter makes
the step that goes with the new state of the link. -/
structure Toggled (l : Link) (counter : Counter) (db db' : Database) : Prop where
  flipped : Flipped db.links db'.links l
  isFor : l.counter = some counter
  self : counter.tally db' = (counter.tally db).map
    (Counter.bumped l.targetId (.ofState l.isActive))
  other : ∀ other, other ≠ counter → other.tally db' = other.tally db
  isTogether : db.IsTogether → db'.IsTogether

section Togglings

variable {ρ α : Type} [Entity ρ α] [LawfulEntity ρ] {t : Relation.Toggling ρ α}
  {link : ρ → Link} {a : α} {db db' : Database}

/-- A toggle flips a link of its table, if a relation is made active and turned
over with its link. -/
theorem Flipped.of_run (hmake : ∀ id, (link (t.write (t.make id))).isActive = true)
    (hturn : ∀ old, link (t.write old) =
      { link (t.write (t.turn old)) with
        isActive := !(link (t.write (t.turn old))).isActive })
    (h : t.run db = .ok (a, db')) :
    Flipped ((rowsOf ρ db).map link) ((rowsOf ρ db').map link) (link (t.write a)) := by
  refine .ofRows ((t.rows_run h).1.imp ?_ ?_)
  · rintro ⟨hrows, id, rfl⟩
    exact ⟨hrows, hmake id⟩
  · rintro ⟨before, old, after, hrows, hrows', rfl⟩
    exact ⟨before, t.write old, after, hrows, hrows', hturn old⟩

/-- A flip and the step of the counter are a toggle: they are in different tables. -/
theorem Toggled.of_run (h : t.run db = .ok (a, db'))
    (hcounter : (link (t.write a)).counter = some t.counter)
    (htarget : (link (t.write a)).targetId = t.targetId)
    (hactive : (link (t.write a)).isActive = (t.status a).isActive)
    (hflipped : Flipped db.links db'.links (link (t.write a)))
    (htogether : db.IsTogether → db'.IsTogether) :
    Toggled (link (t.write a)) t.counter db db' := by
  obtain ⟨db₁, hflip, hcount⟩ := t.run_eq_ok h
  obtain ⟨n, hadjusted⟩ := Counter.count_eq_ok hcount
  have htally : ∀ c : Counter, c.tally db₁ = c.tally db := by
    refine fun c => Counter.tally_agreeOff (t.agreeOff_flip hflip) fun hmem =>
      t.not_target ?_
    exact List.mem_singleton.mp hmem ▸ c.table_mem
  exact
    { flipped := hflipped
      isFor := hcounter
      self := by rw [hadjusted.self, htally, htarget, hactive]
      other := fun other hother => by rw [hadjusted.other other hother, htally]
      isTogether := htogether }

end Togglings

namespace Like

theorem isActive_link (l : Like) :
    l.stored.link.isActive = RelationStatus.isActive l.status := by
  obtain ⟨id, likeType, _, _, _, _, _, _, status, _, _⟩ := l
  cases status <;> rfl

/-- A toggled like is the link of the old one turned over. -/
theorem link_of_toggled (old : Like) (r : LikeToggle) (now : Timestamp) :
    old.stored.link =
      { (old.toggled r now).stored.link with
        isActive := !(old.toggled r now).stored.link.isActive } := by
  obtain ⟨id, likeType, _, _, _, _, _, _, status, _, _⟩ := old
  cases status <;> rfl

/-- A toggle flips the link of the like, and the counter of its type makes the step. -/
theorem toggled {userId : Int} {r : LikeToggle} {now : Timestamp} {l : Like}
    {db db' : Database} (h : toggle userId r now db = .ok (l, db')) :
    l.targetId = r.targetId ∧ Toggled l.stored.link r.likeType.counter db db' := by
  let t := toggling userId r now
  obtain ⟨-, htype, htarget⟩ := isOf_stored.mp (t.pick_run h)
  have hfavorites : rowsOf Favorite.Row db' = rowsOf Favorite.Row db :=
    rowsOf_agreeOff (t.agreeOff_run h) (Counter.not_mem_tables (by decide) (by decide))
  have hlikes : Flipped ((rowsOf Row db).map Columns.link)
      ((rowsOf Row db').map Columns.link)
      l.stored.link :=
        .of_run (t := t) (fun _ => rfl) (fun old => link_of_toggled old r now) h
  refine ⟨htarget, .of_run (t := t) h ?_ htarget (isActive_link l) ?_ fun hdb => ?_⟩
  · exact congrArg (fun type => some (LikeType.counter type)) htype
  · rw [links, links, hfavorites]
    exact hlikes.append_right _
  · exact ⟨(t.rows_run h).2 hdb.1, hfavorites ▸ hdb.2⟩

end Like

namespace Favorite

theorem isActive_link (f : Favorite) :
    f.stored.link.isActive = RelationStatus.isActive f.status := by
  obtain ⟨id, favoriteType, _, _, _, _, _, _, status, _, _⟩ := f
  cases status <;> rfl

/-- A toggled favourite is the link of the old one turned over. -/
theorem link_of_toggled (old : Favorite) (r : FavoriteToggle) (now : Timestamp) :
    old.stored.link =
      { (old.toggled r now).stored.link with
        isActive := !(old.toggled r now).stored.link.isActive } := by
  obtain ⟨id, favoriteType, _, _, _, _, _, _, status, _, _⟩ := old
  cases status <;> rfl

/-- A toggle flips the link of the favourite, and the counter of its type makes the step. -/
theorem toggled {userId : Int} {r : FavoriteToggle} {now : Timestamp} {f : Favorite}
    {db db' : Database} (h : toggle userId r now db = .ok (f, db')) :
    f.targetId = r.targetId ∧ Toggled f.stored.link r.favoriteType.counter db db' := by
  let t := toggling userId r now
  obtain ⟨-, htype, htarget⟩ := isOf_stored.mp (t.pick_run h)
  have hlikes : rowsOf Like.Row db' = rowsOf Like.Row db :=
    rowsOf_agreeOff (t.agreeOff_run h) (Counter.not_mem_tables (by decide) (by decide))
  have hfavorites : Flipped ((rowsOf Row db).map Columns.link)
      ((rowsOf Row db').map Columns.link)
      f.stored.link :=
        .of_run (t := t) (fun _ => rfl) (fun old => link_of_toggled old r now) h
  refine ⟨htarget, .of_run (t := t) h ?_ htarget (isActive_link f) ?_ fun hdb => ?_⟩
  · exact congrArg (fun type => some (FavoriteType.counter type)) htype
  · rw [links, links, hlikes]
    exact hfavorites.append_left _
  · exact ⟨hlikes ▸ hdb.1, (t.rows_run h).2 hdb.2⟩

end Favorite

end Community
